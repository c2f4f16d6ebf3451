import TupleSpace.Replica.Task

/-!
# Calls that run side by side

A service is a replica with the calls made on it so far. A call that is parked runs again only
after its signal. `Service.settle` runs whatever can run until nothing can.
-/

namespace TupleSpace

inductive CallState
  | running (task : Task)
  | parked (task : Task) (signal : Signal)
  | finished (result : Except StoreError Answer)
deriving DecidableEq

namespace CallState

def woken (signals : List Signal) : CallState → CallState
  | parked task signal => if signals.contains signal then running task else parked task signal
  | state => state

def ofMove (task : Task) : Move → CallState
  | .finish answer => finished answer
  | .goOn task => running task
  | .park signal => parked task signal

def result? : CallState → Option (Except StoreError Answer)
  | finished result => some result
  | _ => none

def isRunning : CallState → Bool
  | running _ => true
  | _ => false

end CallState

structure Service where
  replica : Replica := {}
  calls : List CallState := []
deriving DecidableEq

namespace Service

def start (first : Nat) : Service := { replica := { gate := { next := first } } }

/-- Makes a call. A call that is refused at once has finished already. -/
def call (service : Service) (task : Except StoreError Task) : Service :=
  let state := match task with
    | .ok task => CallState.running task
    | .error e => .finished (.error e)
  { service with calls := service.calls ++ [state] }

def step? (service : Service) (index : Nat) : Option Service :=
  match service.calls[index]? with
  | some (.running task) =>
      let moved := service.replica.step task
      let calls := service.calls.set index (.ofMove task moved.move)
      some ⟨moved.replica, calls.map (.woken moved.signals)⟩
  | _ => none

def settleFor : Nat → Service → Service
  | 0, service => service
  | rounds + 1, service =>
      match service.calls.findIdx? (·.isRunning) with
      | none => service
      | some index =>
          match service.step? index with
          | some service => settleFor rounds service
          | none => service

/-- Runs every call as far as it gets. A call takes at most three steps that act, each of which
wakes every other call at most once. -/
def settle (service : Service) : Service :=
  settleFor ((3 * service.calls.length + 1) * (service.calls.length + 1)) service

def result? (service : Service) (index : Nat) : Option (Except StoreError Answer) :=
  service.calls[index]?.bind (·.result?)

def wakeAll (service : Service) : Service :=
  { service with calls := service.calls.map (.woken [.changed, .advanced]) }

/-- Answers a request that does not wait, without making a call of it. -/
def perform (service : Service) (task : Task) : Option (Except StoreError Answer) × Service :=
  let moved := service.replica.step task
  let calls := service.calls.map (.woken moved.signals)
  match moved.move with
  | .finish answer => (some answer, ⟨moved.replica, calls⟩)
  | _ => (none, ⟨moved.replica, calls⟩)

end Service

end TupleSpace
