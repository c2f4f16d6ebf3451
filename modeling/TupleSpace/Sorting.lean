/-!
# Sorting

Stable sorting by insertion, and merging of two sorted lists. Both recurse on the lists alone, so
that sorted lists can be computed in closed statements too.
-/

namespace TupleSpace.Sorting

variable {α : Type}

def insert (le : α → α → Bool) (a : α) : List α → List α
  | [] => [a]
  | b :: rest => if le a b then a :: b :: rest else b :: insert le a rest

def sort (le : α → α → Bool) : List α → List α
  | [] => []
  | a :: rest => insert le a (sort le rest)

def mergeHead (le : α → α → Bool) (a : α) (behind : List α → List α) : List α → List α
  | [] => a :: behind []
  | b :: rest => if le a b then a :: behind (b :: rest) else b :: mergeHead le a behind rest

def merge (le : α → α → Bool) : List α → List α → List α
  | [], bs => bs
  | a :: rest, bs => mergeHead le a (merge le rest) bs

/-- The order of names, by the code points of their characters. -/
def nameOrder (a b : String) : Bool := !(b < a)

end TupleSpace.Sorting
