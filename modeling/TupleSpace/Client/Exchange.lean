import TupleSpace.Client.ReplicaSet
import TupleSpace.Client.Gathering

/-!
# Exchanges

In an exchange one request goes to several replicas at once. Every answer is checked when it
arrives and recorded as a reply or as a failure. The asking thread waits, then looks for a
failure, then for the replies. These are three looks at three moments: answers may arrive between
them, and any failure seen by the second makes the exchange fail.
-/

namespace TupleSpace

namespace Response

def meets (response : Response) : Expected → Bool
  | .acknowledgement => response.isAcknowledgement
  | .tuple => response.tuple?.isSome
  | .reservations => response.reserved?.isSome
  | .state => response.state?.isSome

end Response

inductive Look
  | count
  | failure
  | replies
deriving DecidableEq, Repr, Inhabited

structure Exchange where
  request : Request
  /-- What every response has to be, if that matters. -/
  expected? : Option Expected := none
  wait : Wait
  next : Look := .count
  collector : Collector (String × Response) := {}
deriving DecidableEq, Repr, Inhabited

namespace Exchange

def outcome (exchange : Exchange) (replica : String) :
    Except TransportError Reply → Except ClientError (String × Response)
  | .error e => .error (.transport e)
  | .ok (.error source) => .error (.rejected replica source)
  | .ok (.ok response) =>
      match exchange.expected? with
      | none => .ok (replica, response)
      | some expected =>
          if response.meets expected then .ok (replica, response)
          else .error (response.wrong replica expected)

def record (exchange : Exchange) (replica : String) (answer : Except TransportError Reply) :
    Exchange :=
  { exchange with
    collector := exchange.collector.record (exchange.outcome replica answer) }

inductive Progress
  | goOn (exchange : Exchange)
  | finished (result : Except ClientError (List (String × Response)))
deriving DecidableEq

def look? (exchange : Exchange) : Option Progress :=
  match exchange.next with
  | .count =>
      if exchange.collector.satisfies exchange.wait then
        some (.goOn { exchange with next := .failure })
      else none
  | .failure =>
      match exchange.collector.firstFailure? with
      | some cause => some (.finished (.error cause))
      | none => some (.goOn { exchange with next := .replies })
  | .replies => some (.finished (.ok exchange.collector.responses))

end Exchange

namespace ReplicaSet

/-- Starts an exchange with the named replicas. An unknown name stops it before anything is sent.
With it come the replicas to send the request to. -/
def ask (set : ReplicaSet) (targets : List String) (request : Request)
    (expected? : Option Expected) (wait : Wait) : Except ClientError (Exchange × List Handle) :=
  (set.handlesOf targets).map fun handles =>
    ({ request, expected?, wait, collector := { outstanding := targets.length } }, handles)

def fanOut (set : ReplicaSet) (targets : List String) (request : Request) :
    Except ClientError (Exchange × List Handle) :=
  set.ask targets request none .tasks

def askAll (set : ReplicaSet) (request : Request) (expected : Expected) (answers : Nat) :
    Except ClientError (Exchange × List Handle) :=
  set.ask set.qualifiers request (some expected) (.count answers)

end ReplicaSet

end TupleSpace
