import TupleSpace.Client.Exchange
import TupleSpace.Pattern

/-!
# Operations on a replica set

What a client can ask of its replicas, and what comes of it. A query is settled by one exchange;
a take with a quorum of reservations needs more.
-/

namespace TupleSpace

inductive Query
  | put (tuple : String)
  | read (pattern : String)
  | state (qualifier : String)
  | sequencedPut (number : Nat) (tuple : String)
  | sequencedTake (number : Nat) (pattern : String)
  | fanOut (targets : List String) (request : Request)
deriving DecidableEq, Repr, Inhabited

inductive Operation
  | query (query : Query)
  | take (pattern : String)
deriving DecidableEq, Repr, Inhabited

inductive Outcome
  | done
  | tuple (value : String)
  | tuples (values : List String)
  | replies (replies : List (String × Response))
deriving DecidableEq, Repr, Inhabited

namespace Outcome

def text : Outcome → String
  | done | replies _ => "OK"
  | tuple value => "OK\n" ++ value
  | tuples values => "OK\n[" ++ ", ".intercalate values ++ "]"

end Outcome

namespace Query

/-- Invalid arguments are refused before anything is sent. -/
def check : Query → Except ClientError Unit
  | put tuple | sequencedPut _ tuple => (checkTuple tuple).mapError .invalid
  | read pattern | sequencedTake _ pattern => (checkPattern pattern).mapError .invalid
  | state _ | fanOut _ _ => .ok ()

/-- Starts the exchange of a query. A read is content with the first answer. -/
def ask (set : ReplicaSet) : Query → Except ClientError (Exchange × List Handle)
  | put tuple => set.askAll (.put tuple) .acknowledgement set.size
  | read pattern =>
      if set.isEmpty then .error (.noReplicas "")
      else set.askAll (.read pattern) .tuple 1
  | state qualifier => set.ask [qualifier] .state (some .state) (.count 1)
  | sequencedPut number tuple => set.askAll (.sequencedPut tuple number) .acknowledgement set.size
  | sequencedTake number pattern => set.askAll (.sequencedTake pattern number) .tuple set.size
  | fanOut targets request => set.fanOut targets request

/-- What the replies to a query come to. Replicas that take in order answer alike, so that the
first answer stands for all. -/
def conclude (replies : List (String × Response)) : Query → Except ClientError Outcome
  | put _ | sequencedPut _ _ => .ok .done
  | read _ | sequencedTake _ _ =>
      match replies.head?.bind (·.2.tuple?) with
      | some tuple => .ok (.tuple tuple)
      | none => .error (.noReplicas "")
  | state _ => .ok (.tuples ((replies.head?.bind (·.2.state?)).getD []))
  | fanOut _ _ => .ok (.replies replies)

end Query

end TupleSpace
