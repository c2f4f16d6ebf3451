import TupleSpace.Failure
import TupleSpace.Sorting
import TupleSpace.Take.Quorum

/-!
# The quorum take

A take by one client over a set of replicas, as a machine that is stepped with the replies to
its last requests and answers with what to do next. It first has every replica hold what the
pattern hits. With all replicas held and a tuple that all of them offered, it has that tuple
removed everywhere; with half of them or less, or without a common tuple, it frees what it holds
and starts over after a pause; with a majority short of all, it keeps what it holds and asks the
others again.
-/

namespace TupleSpace

inductive Pause
  /-- A random delay that grows with the number of retries. -/
  | backoff (retry : Nat)
  /-- A short fixed delay, for others to free what they hold. -/
  | settle
deriving DecidableEq, Repr, Inhabited

namespace Pause

/-- The delays that a pause may take, in units of its own: settling lasts one settling delay, a
backoff any number of slots up to a power of two. -/
def lengths (slot settleDelay : Nat) : Pause → List Nat
  | settle => [settleDelay]
  | backoff retry => (List.range (Nat.pow 2 (min retry 16))).map (fun slots => slot * (slots + 1))

def shortest (slot settleDelay : Nat) : Pause → Nat
  | settle => settleDelay
  | backoff _ => slot

end Pause

structure TakePolicy where
  maxRetries : Nat := 5
  /-- Whether a round without a common tuple counts as a retry. -/
  emptyCounts : Bool := false
deriving DecidableEq, Repr, Inhabited

inductive TakeAction
  | send (targets : List String) (request : Request)
  | pause (pause : Pause)
  | taken (tuple : String)
deriving DecidableEq, Repr, Inhabited

/-- What each replica holds for a take, by replica in ascending order. -/
abbrev Holdings := List (String × List String)

namespace Holdings

def insert (replica : String) (tuples : List String) : Holdings → Holdings
  | [] => [(replica, tuples)]
  | (name, held) :: rest =>
      if replica < name then (replica, tuples) :: (name, held) :: rest
      else if replica = name then (replica, tuples) :: rest
      else (name, held) :: insert replica tuples rest

def has (holdings : Holdings) (replica : String) : Bool := (holdings.lookup replica).isSome

end Holdings

structure TakeMachine where
  client : ClientId
  pattern : String
  /-- In the order of the replica set, which decides between tuples. -/
  replicas : List String
  policy : TakePolicy
  stage : TakeStage := .reserve
  retries : Nat := 0
  /-- The retries are used up; what is held is still to be freed. -/
  isExhausted : Bool := false
  locked : Holdings := []
  awaiting : List String := []
  pending? : Option Pause := none
  chosen? : Option String := none
deriving DecidableEq, Repr, Inhabited

namespace TakeMachine

def start (client : ClientId) (pattern : String) (replicas : List String) (policy : TakePolicy) :
    TakeMachine :=
  { client, pattern, replicas, policy }

def lockedReplicas (machine : TakeMachine) : List String :=
  machine.replicas.filter machine.locked.has

def isFinished (machine : TakeMachine) : Bool := machine.stage == .finished

/-- Faults are put down to the replicas whose replies are outstanding. -/
def fault (machine : TakeMachine) (cause : ProtocolFault) : ClientError :=
  .transport (.protocol (",".intercalate machine.awaiting) cause)

def spendRetry (machine : TakeMachine) : TakeMachine :=
  let retries := machine.retries + 1
  { machine with
    retries
    isExhausted := machine.isExhausted || machine.policy.maxRetries ≤ retries }

def afterRelease (machine : TakeMachine) : TakeStage :=
  if machine.isExhausted then .exhausted else .pause

def offers (machine : TakeMachine) : List (List String) :=
  machine.replicas.filterMap (fun replica => machine.locked.lookup replica)

def settleRound (machine : TakeMachine) : TakeMachine :=
  match Quorum.classify machine.locked.length machine.replicas.length with
  | .minority =>
      let spent := machine.spendRetry
      { spent with pending? := some (.backoff spent.retries), stage := .release }
  | .partialMajority => { machine with pending? := some .settle, stage := .pause }
  | .full =>
      match offeredByAll machine.offers with
      | tuple :: _ => { machine with chosen? := some tuple, stage := .commit }
      | [] =>
          let spent := if machine.policy.emptyCounts then machine.spendRetry else machine
          { spent with pending? := some .settle, stage := .release }

/-- Notes what each reply reserved, up to the first reply of a wrong kind. -/
def noteReservations (machine : TakeMachine) :
    List (String × Response) → TakeMachine × Except ClientError Unit
  | [] => (machine, .ok ())
  | (replica, response) :: rest =>
      match response.reservations replica with
      | .error e => (machine, .error e)
      | .ok [] => machine.noteReservations rest
      | .ok tuples =>
          noteReservations { machine with locked := machine.locked.insert replica tuples } rest

def checkAcknowledged : List (String × Response) → Except ClientError Unit
  | [] => .ok ()
  | (replica, response) :: rest =>
      match response.acknowledged replica with
      | .error e => .error e
      | .ok () => checkAcknowledged rest

/-- Takes in the replies to the last requests, which come from just the replicas that were
asked, in any order. Without requests outstanding there must be no replies. -/
def absorb (machine : TakeMachine) (replies : List (String × Response)) :
    TakeMachine × Except ClientError Unit :=
  if !machine.stage.isAwaiting then
    if replies.isEmpty then (machine, .ok ())
    else (machine, .error (machine.fault (.unexpectedReplies replies.length machine.stage)))
  else
    let answered := Sorting.sort Sorting.nameOrder (replies.map (·.1))
    let asked := Sorting.sort Sorting.nameOrder machine.awaiting
    if answered ≠ asked then
      (machine, .error (machine.fault (.strangeReplies answered asked)))
    else
      let machine := { machine with awaiting := [] }
      match machine.stage with
      | .reserving =>
          match machine.noteReservations replies with
          | (noted, .ok ()) => (noted.settleRound, .ok ())
          | (noted, .error e) => (noted, .error e)
      | .releasing =>
          match checkAcknowledged replies with
          | .ok () => ({ machine with stage := machine.afterRelease }, .ok ())
          | .error e => (machine, .error e)
      | _ =>
          match checkAcknowledged replies with
          | .ok () => ({ machine with stage := .finished }, .ok ())
          | .error e => (machine, .error e)

def ask (machine : TakeMachine) (stage : TakeStage) (targets : List String) (request : Request) :
    TakeMachine × Except ClientError TakeAction :=
  ({ machine with awaiting := targets, stage }, .ok (.send targets request))

def askReservations (machine : TakeMachine) : TakeMachine × Except ClientError TakeAction :=
  machine.ask .reserving (machine.replicas.filter (fun replica => !machine.locked.has replica))
    (.reserve machine.pattern machine.client)

def askPause (machine : TakeMachine) : TakeMachine × Except ClientError TakeAction :=
  let machine := { machine with stage := .reserve }
  match machine.pending? with
  | some pause => ({ machine with pending? := none }, .ok (.pause pause))
  | none => machine.askReservations

def giveUp (machine : TakeMachine) : TakeMachine × Except ClientError TakeAction :=
  (machine, .error (.backoffExceeded machine.retries))

/-- With nothing held there is nothing to free. -/
def askRelease (machine : TakeMachine) : TakeMachine × Except ClientError TakeAction :=
  let targets := machine.lockedReplicas
  let freed := { machine with locked := [] }
  if targets.isEmpty then
    if freed.isExhausted then giveUp { freed with stage := .exhausted }
    else askPause { freed with stage := .pause }
  else freed.ask .releasing targets (.release machine.client)

def askCommit (machine : TakeMachine) : TakeMachine × Except ClientError TakeAction :=
  match machine.chosen? with
  | some tuple => machine.ask .committing machine.replicas (.commit tuple machine.client)
  | none => (machine, .error (machine.fault .nothingToCommit))

def finish (machine : TakeMachine) : TakeMachine × Except ClientError TakeAction :=
  match machine.chosen? with
  | some tuple => (machine, .ok (.taken tuple))
  | none => (machine, .error (machine.fault .nothingTaken))

def act (machine : TakeMachine) : TakeMachine × Except ClientError TakeAction :=
  match machine.stage with
  | .reserve => machine.askReservations
  | .release => machine.askRelease
  | .pause => machine.askPause
  | .commit => machine.askCommit
  | .finished => machine.finish
  | .exhausted => machine.giveUp
  | .reserving | .releasing | .committing =>
      (machine, .error (machine.fault (.missingReplies machine.stage)))

/-- Takes in the replies to the last requests and says what to do next. The machine may be
stepped on after a failure. -/
def step (machine : TakeMachine) (replies : List (String × Response)) :
    TakeMachine × Except ClientError TakeAction :=
  match machine.absorb replies with
  | (machine, .ok ()) => machine.act
  | (machine, .error e) => (machine, .error e)

end TakeMachine

end TupleSpace
