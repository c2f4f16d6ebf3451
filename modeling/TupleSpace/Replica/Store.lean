import TupleSpace.Space

/-!
# The store of a replica

Beside its space a store keeps the takes that found nothing. They queue under tickets, and a
tuple that is put goes to the oldest of them whose pattern hits it, without ever being stored;
it waits under the ticket until the take collects it.
-/

namespace TupleSpace

structure PendingTake where
  ticket : Nat
  pattern : Pattern
deriving DecidableEq, Repr

structure Store where
  space : Space := {}
  /-- Oldest first. -/
  pending : List PendingTake := []
  /-- Tuples that wait to be collected, by ticket. -/
  handoffs : List (Nat × String) := []
  nextTicket : Nat := 0
deriving DecidableEq, Repr, Inhabited

inductive TakeOutcome
  | taken (tuple : String)
  | queued (ticket : Nat)
deriving DecidableEq, Repr, Inhabited

namespace Store

/-- Takes the oldest queued take that a tuple satisfies out of the queue. -/
def serve? (tuple : String) : List PendingTake → Option (PendingTake × List PendingTake)
  | [] => none
  | take :: rest =>
      if take.pattern.hits tuple then some (take, rest)
      else (serve? tuple rest).map (fun (served, left) => (served, take :: left))

def put (store : Store) (tuple : String) : Except StoreError Store :=
  match checkTuple tuple with
  | .error e => .error e
  | .ok () =>
      match serve? tuple store.pending with
      | some (take, left) =>
          .ok { store with
            pending := left
            handoffs := store.handoffs ++ [(take.ticket, tuple)] }
      | none => .ok { store with space := store.space.insert tuple }

def takeOrEnqueue (store : Store) (pattern : Pattern) : TakeOutcome × Store :=
  match store.space.removeFirst? pattern with
  | some (tuple, space) => (.taken tuple, { store with space })
  | none =>
      (.queued store.nextTicket,
        { store with
          pending := store.pending ++ [⟨store.nextTicket, pattern⟩]
          nextTicket := store.nextTicket + 1 })

def collect? (store : Store) (ticket : Nat) : Option (String × Store) :=
  (store.handoffs.lookup ticket).map fun tuple =>
    (tuple, { store with
      handoffs := store.handoffs.eraseP (fun handoff => handoff.1 == ticket) })

end Store

end TupleSpace
