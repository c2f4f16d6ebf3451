/-!
# Sequence numbers

A sequencer hands out consecutive numbers of 64 bits; behind the last one comes zero.
-/

namespace TupleSpace

structure Sequencer where
  next : Nat := 1
deriving DecidableEq, Repr, Inhabited

namespace Sequencer

def issue (sequencer : Sequencer) : Nat × Sequencer :=
  (sequencer.next, ⟨(sequencer.next + 1) % UInt64.size⟩)

def issueMany (sequencer : Sequencer) : Nat → List Nat
  | 0 => []
  | count + 1 =>
      let (number, later) := sequencer.issue
      number :: later.issueMany count

end Sequencer

end TupleSpace
