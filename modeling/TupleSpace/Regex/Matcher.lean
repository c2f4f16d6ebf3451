import TupleSpace.Regex.Expr

/-!
# Searching a text

A set of positions of a text is a natural number with one bit for each position. `Plan.ends`
takes the set of positions where a match may start to the set of positions where it may end, so
a search costs a few word operations for each part of the expression and position of the text.
-/

namespace TupleSpace.Regex

/-- An expression laid over one text: each leaf holds the positions at which it applies. -/
inductive Plan
  | keep (positions : Nat)
  | step (positions : Nat)
  | seq (first second : Plan)
  | alt (first second : Plan)
  | rep (body : Plan) (least extra : Nat)

def charPositions (test : Char → Bool) : List Char → Nat
  | [] => 0
  | c :: rest => (if test c then 1 else 0) + 2 * charPositions test rest

def lookPositions (look : Look) (before : Option Char) : List Char → Nat
  | [] => if look.holds before none then 1 else 0
  | c :: rest =>
      (if look.holds before (some c) then 1 else 0) + 2 * lookPositions look (some c) rest

def allPositions (text : List Char) : Nat := Nat.pow 2 (text.length + 1) - 1

/-- Every round of an unbounded repetition that is not the last reaches a new position, so the
number of positions bounds the rounds. -/
def Expr.over (text : List Char) : Expr → Plan
  | .empty => .keep (allPositions text)
  | .set members _ => .step (charPositions members.contains text)
  | .look assertion => .keep (lookPositions assertion none text)
  | .seq a b => .seq (a.over text) (b.over text)
  | .alt a b => .alt (a.over text) (b.over text)
  | .rep body least none _ => .rep (body.over text) least (text.length + 1)
  | .rep body least (some greatest) _ => .rep (body.over text) least (greatest - least)
  | .group _ body => body.over text

/-- Applies a function a number of times, stopping early at a fixed point. -/
def iterate (f : Nat → Nat) : Nat → Nat → Nat
  | 0, positions => positions
  | count + 1, positions =>
      let next := f positions
      if next = positions then positions else iterate f count next

/-- What can be reached in at most the given number of rounds, from a frontier that is already
counted as reached. -/
def spread (f : Nat → Nat) : Nat → Nat → Nat → Nat
  | 0, _, reached => reached
  | rounds + 1, frontier, reached =>
      let next := f frontier
      let fresh := next ^^^ (next &&& reached)
      if fresh = 0 then reached else spread f rounds fresh (reached ||| fresh)

def Plan.ends : Plan → Nat → Nat
  | .keep positions, starts => starts &&& positions
  | .step positions, starts => (starts &&& positions) <<< 1
  | .seq first second, starts => second.ends (first.ends starts)
  | .alt first second, starts => first.ends starts ||| second.ends starts
  | .rep body least extra, starts =>
      let met := iterate body.ends least starts
      spread body.ends extra met met

def Expr.search (e : Expr) (text : List Char) : Bool :=
  (e.over text).ends (allPositions text) != 0

end TupleSpace.Regex
