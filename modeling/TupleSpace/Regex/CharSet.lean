import TupleSpace.Sorting

/-!
# Sets of characters

A set of Unicode scalar values is kept as an ascending list of closed ranges of code points
that neither overlap nor touch. Union and complement are the primitive operations; the others
are read off them.
-/

namespace TupleSpace.Regex

structure CodeRange where
  low : Nat
  high : Nat
deriving DecidableEq, Repr, Inhabited

namespace CodeRange

def contains (range : CodeRange) (code : Nat) : Bool :=
  range.low ≤ code && code ≤ range.high

end CodeRange

structure CharSet where
  ranges : List CodeRange
deriving DecidableEq, Repr, Inhabited

namespace CharSet

def lastCode : Nat := 0x10FFFF

def empty : CharSet := ⟨[]⟩

def range (low high : Nat) : CharSet := ⟨[⟨low, high⟩]⟩

def singleton (c : Char) : CharSet := range c.toNat c.toNat

def all : CharSet := range 0 lastCode

def contains (set : CharSet) (c : Char) : Bool :=
  set.ranges.any (·.contains c.toNat)

def isEmpty (set : CharSet) : Bool := set.ranges.isEmpty

/-- Joins ranges that overlap or touch, in a list ascending by lower end. -/
def coalesce : List CodeRange → List CodeRange
  | [] => []
  | x :: rest => go x rest
where
  go (open_ : CodeRange) : List CodeRange → List CodeRange
    | [] => [open_]
    | y :: ys =>
        if y.low ≤ open_.high + 1 then go ⟨open_.low, max open_.high y.high⟩ ys
        else open_ :: go y ys

def union (a b : CharSet) : CharSet :=
  ⟨coalesce (Sorting.merge (fun x y => x.low ≤ y.low) a.ranges b.ranges)⟩

def ofRanges (ranges : List CodeRange) : CharSet :=
  ⟨coalesce (Sorting.sort (fun x y => x.low ≤ y.low) ranges)⟩

def unions (sets : List CharSet) : CharSet := sets.foldr union empty

/-- A gap between ranges, with ends moved off the surrogates. -/
def scalarGap (low high : Nat) : List CodeRange :=
  let low := if 0xD800 ≤ low ∧ low ≤ 0xDFFF then 0xE000 else low
  let high := if 0xD800 ≤ high ∧ high ≤ 0xDFFF then 0xD7FF else high
  if low ≤ high then [⟨low, high⟩] else []

def gaps (start : Nat) : List CodeRange → List CodeRange
  | [] => if start ≤ lastCode then scalarGap start lastCode else []
  | range :: rest =>
      (if start < range.low then scalarGap start (range.low - 1) else []) ++
        gaps (range.high + 1) rest

def complement (set : CharSet) : CharSet := ⟨gaps 0 set.ranges⟩

def inter (a b : CharSet) : CharSet := (a.complement.union b.complement).complement

def difference (a b : CharSet) : CharSet := a.inter b.complement

def symmetricDifference (a b : CharSet) : CharSet := (a.union b).difference (a.inter b)

def hexValue? (c : Char) : Option Nat :=
  if '0' ≤ c ∧ c ≤ '9' then some (c.toNat - 48)
  else if 'A' ≤ c ∧ c ≤ 'F' then some (c.toNat - 55)
  else if 'a' ≤ c ∧ c ≤ 'f' then some (c.toNat - 87)
  else none

/-- Reads a row of ascending ranges in hexadecimal: `41-5A 5F 61-7A`. -/
def rowRanges (row : String) : List CodeRange :=
  go [] none 0 row.toList
where
  /-- Holds the ranges read so far in reverse, the lower end once its `-` is past, and the
  number being read. -/
  go (done : List CodeRange) (low : Option Nat) (number : Nat) : List Char → List CodeRange
    | [] => (⟨low.getD number, number⟩ :: done).reverse
    | '-' :: rest => go done (some number) 0 rest
    | ' ' :: rest => go (⟨low.getD number, number⟩ :: done) none 0 rest
    | c :: rest => go done low (number * 16 + (hexValue? c).getD 0) rest

def ofTable (rows : List String) : CharSet := ⟨rows.flatMap rowRanges⟩

end CharSet

end TupleSpace.Regex
