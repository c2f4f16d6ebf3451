import TupleSpace.Client.Operation
import TupleSpace.Take.Machine

/-!
# Attempts

An attempt carries an operation out on one replica set. A query is a single exchange. A take
drives its machine through exchanges and pauses; when it fails, all replicas are asked to free
what the client holds, and whatever comes of that, the take has failed with its own cause. A take
whose retries are used up has freed everything already.
-/

namespace TupleSpace

inductive AttemptStage
  | asking (query : Query) (exchange : Exchange)
  | taking (machine : TakeMachine) (exchange : Exchange)
  | pausing (machine : TakeMachine) (pause : Pause)
  | abandoning (cause : ClientError) (exchange : Exchange)
deriving DecidableEq

structure Attempt where
  replicas : ReplicaSet
  client : ClientId
  stage : AttemptStage
deriving DecidableEq

inductive AttemptStep
  | ended (result : Except ClientError Outcome)
  | goOn (stage : AttemptStage)
  | post (stage : AttemptStage) (request : Request) (handles : List Handle)
deriving DecidableEq

namespace AttemptStep

def failing (cause : ClientError) : AttemptStep := ended (.error cause)

/-- Fails a take, after an exchange that frees what the client may hold. -/
def abandoning (replicas : ReplicaSet) (client : ClientId) (cause : ClientError) : AttemptStep :=
  match replicas.fanOut replicas.qualifiers (.release client) with
  | .ok (exchange, handles) => post (.abandoning cause exchange) exchange.request handles
  | .error _ => failing cause

def failingTake (replicas : ReplicaSet) (client : ClientId) : ClientError → AttemptStep
  | .backoffExceeded retries => failing (.backoffExceeded retries)
  | cause => abandoning replicas client cause

def driving (replicas : ReplicaSet) (machine : TakeMachine) (replies : List (String × Response)) :
    AttemptStep :=
  match machine.step replies with
  | (machine, .ok (.send targets request)) =>
      match replicas.fanOut targets request with
      | .ok (exchange, handles) => post (.taking machine exchange) exchange.request handles
      | .error cause => failingTake replicas machine.client cause
  | (machine, .ok (.pause pause)) => goOn (.pausing machine pause)
  | (_, .ok (.taken tuple)) => ended (.ok (.tuple tuple))
  | (machine, .error cause) => failingTake replicas machine.client cause

def asking (replicas : ReplicaSet) (query : Query) : AttemptStep :=
  match query.check with
  | .error cause => failing cause
  | .ok () =>
      match query.ask replicas with
      | .ok (exchange, handles) => post (.asking query exchange) exchange.request handles
      | .error cause => failing cause

def taking (replicas : ReplicaSet) (client : ClientId) (policy : TakePolicy) (pattern : String) :
    AttemptStep :=
  match checkPattern pattern with
  | .error e => failing (.invalid e)
  | .ok () => driving replicas (.start client pattern replicas.qualifiers policy) []

end AttemptStep

namespace Attempt

def start (replicas : ReplicaSet) (client : ClientId) (policy : TakePolicy) :
    Operation → AttemptStep
  | .query query => .asking replicas query
  | .take pattern => .taking replicas client policy pattern

def record (attempt : Attempt) (replica : String) (answer : Except TransportError Reply) :
    Attempt :=
  match attempt.stage with
  | .asking query exchange =>
      { attempt with stage := .asking query (exchange.record replica answer) }
  | .taking machine exchange =>
      { attempt with stage := .taking machine (exchange.record replica answer) }
  | .abandoning cause exchange =>
      { attempt with stage := .abandoning cause (exchange.record replica answer) }
  | .pausing _ _ => attempt

/-- The next step: a look at the exchange, what follows from its result, or the end of a pause.
There is none while the exchange waits for answers. -/
def advance? (attempt : Attempt) : Option AttemptStep :=
  match attempt.stage with
  | .asking query exchange =>
      exchange.look?.map fun
        | .goOn exchange => .goOn (.asking query exchange)
        | .finished (.error cause) => .failing cause
        | .finished (.ok replies) => .ended (query.conclude replies)
  | .taking machine exchange =>
      exchange.look?.map fun
        | .goOn exchange => .goOn (.taking machine exchange)
        | .finished (.error cause) => .failingTake attempt.replicas attempt.client cause
        | .finished (.ok replies) => .driving attempt.replicas machine replies
  | .pausing machine _ => some (.driving attempt.replicas machine [])
  | .abandoning cause exchange =>
      exchange.look?.map fun
        | .goOn exchange => .goOn (.abandoning cause exchange)
        | .finished _ => .failing cause

end Attempt

end TupleSpace
