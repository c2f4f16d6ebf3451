import TupleSpace.Message
import TupleSpace.Replica.Gate

/-!
# Calls on a replica

A call runs as a task of its own, in steps that each take a lock of the replica, look and act.
A step may finish the call, lead on to another step, or park the task until a signal. There are
two signals: `changed` when a tuple was put, and `advanced` when the gate moved on or learnt what
a queued take received.
-/

namespace TupleSpace

structure Replica where
  store : Store := {}
  gate : Gate := {}
deriving DecidableEq, Repr, Inhabited

inductive Signal
  | changed
  | advanced
deriving DecidableEq, Repr, Inhabited

inductive Answer
  | done
  | tuple (tuple : String)
  | tuples (tuples : List String)
  | queued (ticket : Nat)
deriving DecidableEq, Repr, Inhabited

/-- What a numbered call is after: the bare effect of its turn, a put, or a tuple. -/
inductive TurnGoal
  | apply
  | put
  | take
deriving DecidableEq, Repr, Inhabited

inductive Task
  | put (tuple : String)
  | read (pattern : Pattern)
  | reserve (pattern : Pattern) (client : ClientId)
  | release (client : ClientId)
  | commit (tuple : String) (client : ClientId)
  | snapshot
  | enqueue (pattern : Pattern)
  | take (pattern : Pattern)
  /-- Waits for a handed-over tuple. With a number, the gate is told of it afterwards. -/
  | handoff (ticket : Nat) (number? : Option Nat)
  | turn (number : Nat) (op : SequencedOp) (goal : TurnGoal)
  | note (number : Nat) (tuple : String)
deriving DecidableEq, Repr

inductive Move
  | finish (answer : Except StoreError Answer)
  | goOn (task : Task)
  | park (signal : Signal)
deriving DecidableEq

/-- The outcome of a step: what becomes of the task and of the replica, and the signals given. -/
structure Moved where
  move : Move
  replica : Replica
  signals : List Signal := []
deriving DecidableEq

namespace Applied

def answer : Applied → Answer
  | stored => .done
  | taken tuple => .tuple tuple
  | queued ticket => .queued ticket

end Applied

namespace TurnGoal

/-- What follows a turn that gave a result. A take that was queued goes on to wait for its tuple.
A take is never answered as a put; such an answer would be refused as stale. -/
def after (goal : TurnGoal) (number next : Nat) : Except StoreError Applied → Move
  | .error e => .finish (.error e)
  | .ok applied =>
      match goal with
      | apply => .finish (.ok applied.answer)
      | put => .finish (.ok .done)
      | take =>
          match applied with
          | .taken tuple => .finish (.ok (.tuple tuple))
          | .queued ticket => .goOn (.handoff ticket (some number))
          | .stored => .finish (.error (.staleSequence number next))

end TurnGoal

namespace Replica

def withSpace (replica : Replica) (space : Space) : Replica :=
  { replica with store := { replica.store with space } }

/-- Applies the operation whose turn it is. A put that succeeds signals `changed` as well. -/
def takeTurn (replica : Replica) (op : SequencedOp) :
    Except StoreError Applied × Replica × List Signal :=
  let (result, store) := op.apply replica.store
  let gate := replica.gate.advance ⟨op, .ofResult result⟩
  let signals := match result with
    | .ok .stored => [.changed, .advanced]
    | _ => [.advanced]
  (result, { store, gate }, signals)

def step (replica : Replica) : Task → Moved
  | .put tuple =>
      match replica.store.put tuple with
      | .ok store => ⟨.finish (.ok .done), { replica with store }, [.changed]⟩
      | .error e => ⟨.finish (.error e), replica, []⟩
  | .read pattern =>
      match replica.store.space.find? pattern with
      | some tuple => ⟨.finish (.ok (.tuple tuple)), replica, []⟩
      | none => ⟨.park .changed, replica, []⟩
  | .reserve pattern client =>
      let (tuples, space) := replica.store.space.reserve pattern client
      ⟨.finish (.ok (.tuples tuples)), replica.withSpace space, []⟩
  | .release client =>
      ⟨.finish (.ok .done), replica.withSpace (replica.store.space.release client), []⟩
  | .commit tuple client =>
      match replica.store.space.commit tuple client with
      | .ok space => ⟨.finish (.ok .done), replica.withSpace space, []⟩
      | .error e => ⟨.finish (.error e), replica, []⟩
  | .snapshot => ⟨.finish (.ok (.tuples replica.store.space.values)), replica, []⟩
  | .enqueue pattern =>
      match replica.store.takeOrEnqueue pattern with
      | (.taken tuple, store) => ⟨.finish (.ok (.tuple tuple)), { replica with store }, []⟩
      | (.queued ticket, store) => ⟨.finish (.ok (.queued ticket)), { replica with store }, []⟩
  | .take pattern =>
      match replica.store.takeOrEnqueue pattern with
      | (.taken tuple, store) => ⟨.finish (.ok (.tuple tuple)), { replica with store }, []⟩
      | (.queued ticket, store) => ⟨.goOn (.handoff ticket none), { replica with store }, []⟩
  | .handoff ticket number? =>
      match replica.store.collect? ticket with
      | none => ⟨.park .changed, replica, []⟩
      | some (tuple, store) =>
          match number? with
          | some number => ⟨.goOn (.note number tuple), { replica with store }, []⟩
          | none => ⟨.finish (.ok (.tuple tuple)), { replica with store }, []⟩
  | .turn number op goal =>
      if replica.gate.next < number then ⟨.park .advanced, replica, []⟩
      else if number < replica.gate.next then
        match replica.gate.repeated number op with
        | .wait => ⟨.park .advanced, replica, []⟩
        | .answer result => ⟨goal.after number replica.gate.next result, replica, []⟩
      else
        let (result, replica, signals) := replica.takeTurn op
        ⟨goal.after number replica.gate.next result, replica, signals⟩
  | .note number tuple =>
      ⟨.finish (.ok (.tuple tuple)),
        { replica with gate := replica.gate.amend number (.taken tuple) }, [.advanced]⟩

end Replica

namespace Request

def task : Request → Except StoreError Task
  | put tuple => .ok (.put tuple)
  | read pattern => (Pattern.parse pattern).map .read
  | reserve pattern client => (Pattern.parse pattern).map (.reserve · client)
  | release client => .ok (.release client)
  | commit tuple client => .ok (.commit tuple client)
  | state => .ok .snapshot
  | sequencedPut tuple number => .ok (.turn number (.put tuple) .put)
  | sequencedTake pattern number => .ok (.turn number (.take pattern) .take)

def response (request : Request) (answer : Answer) : Response :=
  match request, answer with
  | read _, .tuple tuple => .read tuple
  | reserve _ _, .tuples tuples => .reserved tuples
  | release _, _ => .released
  | commit _ _, _ => .committed
  | state, .tuples tuples => .state tuples
  | sequencedPut _ _, _ => .sequencedPut
  | sequencedTake _ _, .tuple tuple => .sequencedTake tuple
  | _, _ => .put

def reply (request : Request) (result : Except StoreError Answer) : Reply :=
  result.map request.response

end Request

end TupleSpace
