/-!
# Quorums

How much of a replica set a round of reservations got hold of, and what all replicas offered.
-/

namespace TupleSpace

inductive Quorum
  | minority
  | partialMajority
  | full
deriving DecidableEq, Repr, Inhabited

namespace Quorum

/-- Half of the replicas is still a minority; more than half but not all is a partial majority. -/
def classify (locked total : Nat) : Quorum :=
  if 0 < total ∧ locked = total then full
  else if locked * 2 ≤ total then minority
  else partialMajority

def name : Quorum → String
  | minority => "Minority"
  | partialMajority => "PartialMajority"
  | full => "Full"

end Quorum

/-- The members of the first list that all others contain too, as often as they stand there. -/
def offeredByAll : List (List String) → List String
  | [] => []
  | first :: others => first.filter (fun tuple => others.all (·.contains tuple))

end TupleSpace
