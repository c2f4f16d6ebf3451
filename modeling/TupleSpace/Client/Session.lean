import TupleSpace.Client.Operation
import TupleSpace.Client.Config
import TupleSpace.Client.Sequencer

/-!
# Sessions

A session is one client's view of the tuple space. It looks its replicas up when it first needs
them and keeps them until an exchange fails.
-/

namespace TupleSpace

structure Session where
  client : ClientId
  config : Config := {}
  isSequenced : Bool := false
  replicas? : Option ReplicaSet := none
deriving DecidableEq

namespace Session

def issue (session : Session) (sequencer : Sequencer) :
    Except ClientError Nat × Sequencer :=
  if session.isSequenced then
    let (number, sequencer) := sequencer.issue
    (.ok number, sequencer)
  else (.error (.sequencer .notConfigured), sequencer)

/-- A session that takes in a total order draws the number of an operation once, so that a retry
carries the same number. -/
def ordered (session : Session) (sequencer : Sequencer) (operation : Operation)
    (numbered : Nat → Query) : Except ClientError Operation × Sequencer :=
  match session.config.takeMode with
  | .quorum => (.ok operation, sequencer)
  | .sequenced =>
      let (number, sequencer) := session.issue sequencer
      (number.map (fun number => .query (numbered number)), sequencer)

/-- The operation of a put. An invalid tuple is refused before a number is drawn. -/
def put (session : Session) (sequencer : Sequencer) (tuple : String) :
    Except ClientError Operation × Sequencer :=
  match checkTuple tuple with
  | .error e => (.error (.invalid e), sequencer)
  | .ok () => session.ordered sequencer (.query (.put tuple)) (.sequencedPut · tuple)

def take (session : Session) (sequencer : Sequencer) (pattern : String) :
    Except ClientError Operation × Sequencer :=
  match checkPattern pattern with
  | .error e => (.error (.invalid e), sequencer)
  | .ok () => session.ordered sequencer (.take pattern) (.sequencedTake · pattern)

def read (pattern : String) : Except ClientError Operation :=
  match checkPattern pattern with
  | .error e => .error (.invalid e)
  | .ok () => .ok (.query (.read pattern))

end Session

end TupleSpace
