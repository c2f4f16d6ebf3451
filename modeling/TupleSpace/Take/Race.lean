import TupleSpace.Space
import TupleSpace.Take.Machine

/-!
# Takes that race each other

Several clients take from the same replicas at once. Their requests lie in outboxes until they
are delivered, each once and in any order, and replies lie in inboxes until the client's machine
is stepped. A race moves by single events: a delivery, a step, or a tuple put from outside.
-/

namespace TupleSpace

namespace Space

def answerTake (space : Space) : Request → Option (Reply × Space)
  | .reserve pattern client =>
      match Pattern.parse pattern with
      | .ok pattern =>
          let (tuples, space) := space.reserve pattern client
          some (.ok (.reserved tuples), space)
      | .error e => some (.error e, space)
  | .release client => some (.ok .released, space.release client)
  | .commit tuple client =>
      match space.commit tuple client with
      | .ok space => some (.ok .committed, space)
      | .error e => some (.error e, space)
  | _ => none

end Space

inductive TakeEnd
  | taken (tuple : String)
  | failed (cause : ClientError)
  | refused (cause : StoreError)
deriving DecidableEq, Repr, Inhabited

structure Racer where
  machine : TakeMachine
  outbox : List (String × Request) := []
  inbox : List (String × Response) := []
  ending? : Option TakeEnd := none
deriving DecidableEq, Repr, Inhabited

structure Race where
  replicas : List (String × Space)
  racers : List Racer
deriving DecidableEq, Repr, Inhabited

inductive RaceEvent
  | deliver (racer position : Nat)
  | step (racer : Nat)
  | insert (replica : Nat) (tuple : String)
deriving DecidableEq, Repr, Inhabited

inductive RaceSight
  | delivered (replica : String) (reply : Reply)
  | stepped (outcome : Except ClientError TakeAction)
  | inserted
deriving DecidableEq

namespace Racer

/-- Files the reply to a delivered request. A refusal ends the take. -/
def receive (racer : Racer) (position : Nat) (replica : String) (reply : Reply) : Racer :=
  let racer := { racer with outbox := racer.outbox.eraseIdx position }
  match reply with
  | .ok response => { racer with inbox := racer.inbox ++ [(replica, response)] }
  | .error cause => { racer with ending? := some (.refused cause) }

def step (racer : Racer) : Racer × Except ClientError TakeAction :=
  let (machine, outcome) := racer.machine.step racer.inbox
  let racer := { racer with machine, inbox := [] }
  match outcome with
  | .ok (.send targets request) =>
      ({ racer with outbox := targets.map (fun target => (target, request)) }, outcome)
  | .ok (.pause _) => (racer, outcome)
  | .ok (.taken tuple) => ({ racer with ending? := some (.taken tuple) }, outcome)
  | .error cause => ({ racer with ending? := some (.failed cause) }, outcome)

/-- The events that a racer may be part of, deliveries in the order of its outbox. -/
def events (racer : Racer) (index : Nat) : List RaceEvent :=
  if racer.ending?.isSome then []
  else if racer.outbox.isEmpty then [.step index]
  else (List.range racer.outbox.length).map (.deliver index)

end Racer

namespace Race

def atReplica {α : Type} (name : String) (operation : Space → Option (α × Space)) :
    List (String × Space) → Option (α × List (String × Space))
  | [] => none
  | (other, space) :: rest =>
      if other = name then
        (operation space).map (fun (result, space) => (result, (other, space) :: rest))
      else
        (atReplica name operation rest).map
          (fun (result, left) => (result, (other, space) :: left))

def perform? (race : Race) : RaceEvent → Option (RaceSight × Race)
  | .deliver index position => do
      let racer ← race.racers[index]?
      if racer.ending?.isSome then none
      let (replica, request) ← racer.outbox[position]?
      let (reply, replicas) ← atReplica replica (·.answerTake request) race.replicas
      let racers := race.racers.set index (racer.receive position replica reply)
      some (.delivered replica reply, { replicas, racers })
  | .step index => do
      let racer ← race.racers[index]?
      if racer.ending?.isSome || !racer.outbox.isEmpty then none
      let (racer, outcome) := racer.step
      some (.stepped outcome, { race with racers := race.racers.set index racer })
  | .insert index tuple => do
      let (name, space) ← race.replicas[index]?
      some (.inserted,
        { race with replicas := race.replicas.set index (name, space.insert tuple) })

def events (race : Race) : List RaceEvent :=
  (race.racers.mapIdx (fun index racer => racer.events index)).flatten

/-- Runs a race under a schedule: each number picks one of the possible events, counted round.
Ends early when no event is possible. -/
def run (race : Race) : List Nat → List (RaceEvent × RaceSight) × Race
  | [] => ([], race)
  | number :: schedule =>
      let events := race.events
      match events[number % events.length]? with
      | none => ([], race)
      | some event =>
          match race.perform? event with
          | none => ([], race)
          | some (sight, race) =>
              let (sights, last) := race.run schedule
              ((event, sight) :: sights, last)

end Race

end TupleSpace
