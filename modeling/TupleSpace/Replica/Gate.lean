import TupleSpace.Replica.Store

/-!
# The gate for numbered operations

Puts and takes that carry sequence numbers are applied in the order of their numbers, so that
all replicas apply them alike. An operation whose argument is invalid uses up its number too.
The latest operations are remembered with what they did, so that a repetition under the same
number is answered alike without being applied again.
-/

namespace TupleSpace

inductive SequencedOp
  | put (tuple : String)
  | take (pattern : String)
deriving DecidableEq, Repr, Inhabited

inductive Applied
  | stored
  | taken (tuple : String)
  /-- The take found nothing and was queued. -/
  | queued (ticket : Nat)
deriving DecidableEq, Repr, Inhabited

inductive OpOutcome
  | stored
  | taken (tuple : String)
  | waiting
  | failed (cause : StoreError)
deriving DecidableEq, Repr, Inhabited

structure OpRecord where
  op : SequencedOp
  outcome : OpOutcome
deriving DecidableEq, Repr, Inhabited

structure Gate where
  next : Nat := 1
  /-- What is remembered of the operations just before, latest first. -/
  history : List OpRecord := []
deriving DecidableEq, Repr, Inhabited

namespace Gate

def historyLength : Nat := 4096

def record? (gate : Gate) (number : Nat) : Option OpRecord :=
  if number < gate.next then gate.history[gate.next - 1 - number]? else none

def advance (gate : Gate) (record : OpRecord) : Gate :=
  ⟨gate.next + 1, (record :: gate.history).take historyLength⟩

def amend (gate : Gate) (number : Nat) (outcome : OpOutcome) : Gate :=
  if number < gate.next then
    { gate with
      history := gate.history.modify (gate.next - 1 - number)
        (fun record => { record with outcome }) }
  else gate

/-- How an earlier number is answered when it comes again. -/
inductive Repeat
  | answer (result : Except StoreError Applied)
  /-- The first arrival still waits for its tuple. -/
  | wait
deriving DecidableEq

def repeated (gate : Gate) (number : Nat) (op : SequencedOp) : Repeat :=
  match gate.record? number with
  | some record =>
      if record.op = op then
        match record.outcome with
        | .stored => .answer (.ok .stored)
        | .taken tuple => .answer (.ok (.taken tuple))
        | .failed cause => .answer (.error cause)
        | .waiting => .wait
      else .answer (.error (.staleSequence number gate.next))
  | none => .answer (.error (.staleSequence number gate.next))

end Gate

namespace SequencedOp

/-- Applies an operation to a store. A failure leaves the store as it was. -/
def apply (store : Store) : SequencedOp → Except StoreError Applied × Store
  | put tuple =>
      match store.put tuple with
      | .ok store => (.ok .stored, store)
      | .error e => (.error e, store)
  | take source =>
      match Pattern.parse source with
      | .error e => (.error e, store)
      | .ok pattern =>
          match store.takeOrEnqueue pattern with
          | (.taken tuple, store) => (.ok (.taken tuple), store)
          | (.queued ticket, store) => (.ok (.queued ticket), store)

end SequencedOp

namespace OpOutcome

def ofResult : Except StoreError Applied → OpOutcome
  | .ok .stored => stored
  | .ok (.taken tuple) => taken tuple
  | .ok (.queued _) => waiting
  | .error cause => failed cause

end OpOutcome

end TupleSpace
