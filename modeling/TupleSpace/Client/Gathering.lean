import TupleSpace.Failure

/-!
# Collecting replies

Replies from many replicas meet in a collector, on which the asking thread waits: until a number
of replies has arrived, or until the count of outstanding tasks is down to zero. Every reply,
failed or not, takes one off that count. A waiting thread looks once when it arrives, and from
then on again whenever the collector changes: a reply is recorded, or the count is set.
-/

namespace TupleSpace

structure Collector (α : Type) where
  responses : List α := []
  failures : List ClientError := []
  outstanding : Nat := 0
deriving DecidableEq, Repr, Inhabited

inductive Wait
  /-- For a number of replies, failures included. -/
  | count (replies : Nat)
  /-- For no task to be outstanding. -/
  | tasks
deriving DecidableEq, Repr, Inhabited

namespace Collector

variable {α : Type}

def record (collector : Collector α) : Except ClientError α → Collector α
  | .ok response =>
      { collector with
        responses := collector.responses ++ [response]
        outstanding := collector.outstanding - 1 }
  | .error cause =>
      { collector with
        failures := collector.failures ++ [cause]
        outstanding := collector.outstanding - 1 }

def setTaskCount (collector : Collector α) (count : Nat) : Collector α :=
  { collector with outstanding := count }

def firstFailure? (collector : Collector α) : Option ClientError := collector.failures.head?

def satisfies (collector : Collector α) : Wait → Bool
  | .count replies => replies ≤ collector.responses.length + collector.failures.length
  | .tasks => collector.outstanding == 0

end Collector

inductive WaiterState
  | looking
  | parked
  | passed
deriving DecidableEq, Repr, Inhabited

structure Waiter where
  wait : Wait
  state : WaiterState := .looking
deriving DecidableEq, Repr, Inhabited

structure Gathering (α : Type) where
  collector : Collector α := {}
  waiters : List Waiter := []
deriving DecidableEq, Repr, Inhabited

namespace Gathering

variable {α : Type}

def wake (waiter : Waiter) : Waiter :=
  if waiter.state = .parked then { waiter with state := .looking } else waiter

/-- Puts a changed collector in place, on which all parked threads look again. -/
def change (gathering : Gathering α) (collector : Collector α) : Gathering α :=
  ⟨collector, gathering.waiters.map wake⟩

def record (gathering : Gathering α) (reply : Except ClientError α) : Gathering α :=
  gathering.change (gathering.collector.record reply)

def setTaskCount (gathering : Gathering α) (count : Nat) : Gathering α :=
  gathering.change (gathering.collector.setTaskCount count)

def arrive (gathering : Gathering α) (wait : Wait) : Gathering α :=
  { gathering with waiters := gathering.waiters ++ [{ wait }] }

def look (collector : Collector α) (waiter : Waiter) : Waiter :=
  if waiter.state = .looking then
    { waiter with state := if collector.satisfies waiter.wait then .passed else .parked }
  else waiter

def settle (gathering : Gathering α) : Gathering α :=
  { gathering with waiters := gathering.waiters.map (look gathering.collector) }

end Gathering

end TupleSpace
