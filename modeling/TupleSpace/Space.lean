import TupleSpace.Pattern

/-!
# The tuples of one replica

A space lists its tuples in the order in which they were put. The same tuple may be stored any
number of times, and each copy is held by one client at most. Held copies are found by searches
but taken by nobody except their holder.
-/

namespace TupleSpace

structure Entry where
  value : String
  holder : Option ClientId := none
deriving DecidableEq, Repr, Inhabited

namespace Entry

/-- Whether the pattern hits an entry that is free or the client's own already. -/
def isReservable (entry : Entry) (pattern : Pattern) (client : ClientId) : Bool :=
  (entry.holder.isNone || entry.holder == some client) && pattern.hits entry.value

def heldBy (client : ClientId) (entry : Entry) : Entry := { entry with holder := some client }

def freedFrom (client : ClientId) (entry : Entry) : Entry :=
  if entry.holder = some client then { entry with holder := none } else entry

end Entry

structure Space where
  entries : List Entry := []
deriving DecidableEq, Repr, Inhabited

namespace Space

def insert (space : Space) (tuple : String) : Space := ⟨space.entries ++ [⟨tuple, none⟩]⟩

/-- The first tuple that the pattern hits, held or not. -/
def find? (space : Space) (pattern : Pattern) : Option String :=
  (space.entries.find? (fun entry => pattern.hits entry.value)).map (·.value)

def extract? (test : Entry → Bool) : List Entry → Option (Entry × List Entry)
  | [] => none
  | entry :: rest =>
      if test entry then some (entry, rest)
      else (extract? test rest).map (fun (found, left) => (found, entry :: left))

def removeFirst? (space : Space) (pattern : Pattern) : Option (String × Space) :=
  (extract? (fun entry => entry.holder.isNone && pattern.hits entry.value) space.entries).map
    (fun (entry, left) => (entry.value, ⟨left⟩))

/-- Holds for a client whatever the pattern hits and nobody else holds, and lists it. What the
client held before is listed with it. -/
def reserve (space : Space) (pattern : Pattern) (client : ClientId) : List String × Space :=
  ((space.entries.filter (·.isReservable pattern client)).map (·.value),
    ⟨space.entries.map fun entry =>
      if entry.isReservable pattern client then entry.heldBy client else entry⟩)

def release (space : Space) (client : ClientId) : Space :=
  ⟨space.entries.map (·.freedFrom client)⟩

def heldCount (space : Space) (client : ClientId) : Nat :=
  space.entries.countP (fun entry => entry.holder == some client)

/-- Removes the first copy of a tuple that the client holds, and frees what else it holds. -/
def commit (space : Space) (tuple : String) (client : ClientId) : Except StoreError Space :=
  match extract? (fun entry => entry.holder == some client && entry.value == tuple)
      space.entries with
  | some (_, left) => .ok (release ⟨left⟩ client)
  | none => .error (.notHolder tuple client)

def holders (space : Space) (tuple : String) : List (Option ClientId) :=
  (space.entries.filter (fun entry => entry.value == tuple)).map (·.holder)

def values (space : Space) : List String := space.entries.map (·.value)

def size (space : Space) : Nat := space.entries.length

def isEmpty (space : Space) : Bool := space.entries.isEmpty

end Space

end TupleSpace
