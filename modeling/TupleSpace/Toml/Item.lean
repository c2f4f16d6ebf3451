/-!
# TOML tables

A document is a tree of tables. How a table came about decides who may add to it later: a header
opens a table once, longer headers imply tables on their way, and dotted keys make tables that
only dotted keys extend. Tables and arrays that are written as values are closed.
-/

namespace TupleSpace.Toml

inductive Origin
  /-- Opened by a header of its own. -/
  | header
  /-- On the way of a longer header. -/
  | implied
  /-- On the way of a dotted key. -/
  | dotted
  | value
deriving DecidableEq, Repr, Inhabited

inductive Item
  | text (content : String)
  | integer (number : Int)
  | bool (flag : Bool)
  | float
  /-- A date or a time of day. Only that there is one counts. -/
  | moment
  | array (items : List Item)
  | table (origin : Origin) (members : List (String × Item))
  /-- Opened by headers in double brackets, in the order of the headers. -/
  | tables (elements : List (List (String × Item)))
deriving Repr, Inhabited

abbrev Members := List (String × Item)

/-- Who looks for a table: a header, or a dotted key. -/
inductive Route
  | header
  | dotted
deriving DecidableEq, Repr, Inhabited

namespace Route

def origin : Route → Origin
  | header => .implied
  | dotted => .dotted

end Route

namespace Members

def assign (key : String) (item : Item) : Members → Members
  | [] => [(key, item)]
  | (name, old) :: rest =>
      if name = key then (name, item) :: rest else (name, old) :: assign key item rest

end Members

/-- What a route finds inside an item: whether a dotted key made the table, its members, and the
item with other members. Of several tables under one name it is the last. -/
def Item.enter? (route : Route) : Item → Option (Bool × Members × (Members → Item))
  | .table origin members =>
      if origin = .value ∨ (route = .dotted ∧ origin = .header) then none
      else some (origin == .dotted, members, .table origin)
  | .tables elements =>
      elements.getLast?.map fun last =>
        (false, last, fun members => .tables (elements.dropLast ++ [members]))
  | _ => none

/-- Changes the table at the end of a path. Missing tables on the way are made. -/
def within (route : Route) (change : Bool → Members → Option Members) :
    List String → Bool → Members → Option Members
  | [], isDotted, members => change isDotted members
  | key :: path, _, members => do
      let item := (members.lookup key).getD (.table route.origin [])
      let (isDotted, inner, close) ← item.enter? route
      let inner ← within route change path isDotted inner
      some (Members.assign key (close inner) members)

/-- Adds a member under a dotted key. A key is set once, and the tables of a dotted key are none
that a header opened. -/
def addMember (path : List String) (key : String) (item : Item) (members : Members) :
    Option Members :=
  within .dotted (fun isDotted members =>
    if isDotted = path.isEmpty ∨ (members.lookup key).isSome then none
    else some (members ++ [(key, item)])) path false members

/-- Opens the table of a header. Only an implied table may exist already. -/
def openTable (path : List String) (key : String) (members : Members) : Option Members :=
  within .header (fun _ members =>
    match members.lookup key with
    | none => some (Members.assign key (.table .header []) members)
    | some (.table .implied inner) => some (Members.assign key (.table .header inner) members)
    | some _ => none) path false members

def openElement (path : List String) (key : String) (members : Members) : Option Members :=
  within .header (fun _ members =>
    match members.lookup key with
    | none => some (Members.assign key (.tables [[]]) members)
    | some (.tables elements) => some (Members.assign key (.tables (elements ++ [[]])) members)
    | some _ => none) path false members

/-- A document in the making: its tables, and the path of the one that was opened last. -/
structure Document where
  members : Members := []
  current : List String := []
deriving Repr, Inhabited

namespace Document

def withLast? {α : Type} (path : List String) (use : List String → String → Option α) :
    Option α :=
  path.getLast?.bind (use path.dropLast)

def add (document : Document) (path : List String) (item : Item) : Option Document :=
  withLast? path fun path key =>
    (within .header (fun _ => addMember path key item) document.current false
      document.members).map (fun members => { document with members })

def enterTable (document : Document) (path : List String) : Option Document :=
  withLast? path fun outer key =>
    (openTable outer key document.members).map (fun members => ⟨members, path⟩)

def enterElement (document : Document) (path : List String) : Option Document :=
  withLast? path fun outer key =>
    (openElement outer key document.members).map (fun members => ⟨members, path⟩)

end Document

def inlineMembers : List (List String × Item) → Members → Option Members
  | [], members => some members
  | (path, item) :: rest, members => do
      let members ← Document.withLast? path (fun outer key => addMember outer key item members)
      inlineMembers rest members

end TupleSpace.Toml
