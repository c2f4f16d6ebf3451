import TupleSpace.Regex.Escape

/-!
# Bracketed classes

Classes written between brackets: characters, ranges, nested classes, named ASCII classes and
the operators `&&`, `--` and `~~`, which all bind alike and to the left, and looser than
juxtaposition.
-/

namespace TupleSpace.Regex

namespace Bracket

inductive Operator
  | intersection
  | difference
  | symmetricDifference
deriving DecidableEq, Repr

def Operator.apply : Operator → CharSet → CharSet → CharSet
  | intersection, a, b => a.inter b
  | difference, a, b => a.difference b
  | symmetricDifference, a, b => a.symmetricDifference b

/-- The members read since the last operator, how many there were, and how deep they nest. -/
structure Operand where
  set : CharSet := .empty
  count : Nat := 0
  depth : Nat := 0

namespace Operand

def add (operand : Operand) (set : CharSet) (depth : Nat) : Operand :=
  ⟨operand.set.union set, operand.count + 1, max operand.depth depth⟩

/-- A juxtaposition of several members is a level of nesting of its own. -/
def height (operand : Operand) : Nat :=
  if 2 ≤ operand.count then operand.depth + 1 else operand.depth

end Operand

abbrev Pending := Option (Operator × CharSet × Nat)

def foldCase (modes : Modes) (set : CharSet) : CharSet :=
  if !modes.ignoreCase then set
  else if modes.unicode then set.caseClosure
  else set.asciiCaseClosure

/-- Both sides of an operator are closed under case before it applies. -/
def resolve (modes : Modes) (pending : Pending) (operand : Operand) : CharSet × Nat :=
  match pending with
  | none => (operand.set, operand.height)
  | some (operator, left, height) =>
      (operator.apply (foldCase modes left) (foldCase modes operand.set),
        max height operand.height + 1)

/-- Case is folded before negation. Outside Unicode a class is a set of bytes, which has to be
ASCII lest it match a part of a character. -/
def finish (modes : Modes) (negated : Bool) (set : CharSet) : Option CharSet :=
  let folded := foldCase modes set
  if modes.unicode then some (if negated then folded.complement else folded)
  else
    let bytes := if negated then folded.complement.inter (.range 0 0xFF) else folded
    if bytes.ranges.all (fun range => range.high < 0x80) then some bytes else none

/-- A literal as a member. Outside Unicode it has to be ASCII, even if the class excludes it or
an operator takes it away again. -/
def literalCode (modes : Modes) (c : Char) : Option Nat :=
  if modes.unicode || c.toNat < 0x80 then some c.toNat else none

def memberSet (modes : Modes) : Atom → Option CharSet
  | .literal c _ => (literalCode modes c).map (fun code => .range code code)
  | .members set => some set
  | .look _ => none

def atom (modes : Modes) : List Char → Option (Atom × List Char)
  | [] => none
  | '\\' :: rest => Escape.read modes rest
  | c :: rest => some (.literal c false, rest)

/-- A character, a class or a range. A `-` makes a range unless `]` or another `-` follows. -/
def member (modes : Modes) (text : List Char) : Option (CharSet × List Char) := do
  let (first, rest) ← atom modes text
  match modes.skip rest with
  | [] => none
  | '-' :: behind =>
      let next := modes.peek behind
      if next = some ']' ∨ next = some '-' then
        some (← memberSet modes first, '-' :: behind)
      else
        let (second, rest) ← atom modes (modes.skip behind)
        match first, second with
        | .literal low _, .literal high _ =>
            if high.toNat < low.toNat then none
            else some (.range (← literalCode modes low) (← literalCode modes high), rest)
        | _, _ => none
  | rest => some (← memberSet modes first, rest)

def asciiName (modes : Modes) (negated : Bool) (text : List Char) :
    Option (Option CharSet × List Char) :=
  match text.dropWhile (· != ':') with
  | ':' :: ']' :: left =>
      (CharSet.ofAsciiName? (String.ofList (text.takeWhile (· != ':')))).map
        (fun set => (finish modes negated set, left))
  | _ => none

/-- Reads `:name:]` or `:^name:]`. -/
def asciiClass (modes : Modes) : List Char → Option (Option CharSet × List Char)
  | ':' :: '^' :: rest => asciiName modes true rest
  | ':' :: rest => asciiName modes false rest
  | _ => none

def leadingHyphens (modes : Modes) : Nat → Operand → List Char → Operand × List Char
  | rounds + 1, operand, '-' :: rest =>
      leadingHyphens modes rounds (operand.add (.singleton '-') 0) (modes.skip rest)
  | _, operand, text => (operand, text)

def caret (modes : Modes) (text : List Char) : Bool × List Char :=
  match modes.skip text with
  | '^' :: rest => (true, modes.skip rest)
  | text => (false, text)

/-- What follows an opening bracket: whether it negates, and the members that only count as
such in front. -/
def opening (modes : Modes) (text : List Char) : Bool × Operand × List Char :=
  let (negated, text) := caret modes text
  let (operand, text) := leadingHyphens modes text.length {} text
  match text with
  | ']' :: rest =>
      if operand.count = 0 then (negated, operand.add (.singleton ']') 0, modes.skip rest)
      else (negated, operand, text)
  | text => (negated, operand, text)

inductive Token
  | finish
  | operator (operator : Operator)
  | member (set : CharSet)
  | nested (negated : Bool) (operand : Operand)

/-- A bracket opens a named ASCII class if it reads as one, and a nested class otherwise. -/
def token (modes : Modes) (text : List Char) : Option (Token × List Char) :=
  match modes.skip text with
  | [] => none
  | ']' :: rest => some (.finish, rest)
  | '&' :: '&' :: rest => some (.operator .intersection, rest)
  | '-' :: '-' :: rest => some (.operator .difference, rest)
  | '~' :: '~' :: rest => some (.operator .symmetricDifference, rest)
  | '[' :: rest =>
      match asciiClass modes rest with
      | some (set, left) => set.map (fun set => (.member set, left))
      | none =>
          let (negated, operand, inner) := opening modes rest
          some (.nested negated operand, inner)
  | text => (member modes text).map (fun (set, left) => (.member set, left))

/-- Reads members and operators up to the closing bracket. Each round consumes a character. -/
def body (modes : Modes) : Nat → Bool → Pending → Operand → List Char →
    Option ((CharSet × Nat) × List Char)
  | 0, _, _, _, _ => none
  | rounds + 1, negated, pending, operand, text =>
      match token modes text with
      | none => none
      | some (.finish, rest) =>
          let (set, height) := resolve modes pending operand
          (finish modes negated set).map (fun set => ((set, height + 1), rest))
      | some (.operator operator, rest) =>
          let (left, height) := resolve modes pending operand
          body modes rounds negated (some (operator, left, height)) {} rest
      | some (.member set, rest) => body modes rounds negated pending (operand.add set 0) rest
      | some (.nested innerNegated innerOperand, inner) =>
          match body modes rounds innerNegated none innerOperand inner with
          | some ((set, depth), rest) =>
              body modes rounds negated pending (operand.add set depth) rest
          | none => none

/-- Reads a class behind its opening bracket. Returns it with the depth of its nesting. -/
def read (modes : Modes) (text : List Char) : Option ((CharSet × Nat) × List Char) :=
  let (negated, operand, rest) := opening modes text
  body modes (text.length + 1) negated none operand rest

end Bracket

end TupleSpace.Regex
