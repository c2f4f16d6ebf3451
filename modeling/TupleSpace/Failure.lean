import TupleSpace.Message
import TupleSpace.Take.Stage

/-!
# Failures that a client meets

Each failure is the cause of what went wrong; its wording is in one place, `message`.
-/

namespace TupleSpace

open TupleSpace.Text

inductive ProtocolFault
  | wrongReply (expected : Expected) (got : Response)
  | unexpectedReplies (count : Nat) (stage : TakeStage)
  /-- The replicas that answered are not those that were asked. -/
  | strangeReplies (answered asked : List String)
  | missingReplies (stage : TakeStage)
  | nothingToCommit
  | nothingTaken
  | unreadableReply
  | described (text : String)
deriving DecidableEq, Repr, Inhabited

namespace ProtocolFault

def message : ProtocolFault → String
  | wrongReply expected got =>
      "expected " ++ expected.text ++ " reply, got " ++ got.described
  | unexpectedReplies count stage =>
      toString count ++ " unexpected replies in stage " ++ stage.name
  | strangeReplies answered asked =>
      "replies from " ++ quotedList answered ++ " do not match requests to " ++ quotedList asked
  | missingReplies stage => "stepped in stage " ++ stage.name ++ " without replies"
  | nothingToCommit => "commit without a tuple"
  | nothingTaken => "finished without a tuple"
  | unreadableReply => "answered with a line that is not a reply"
  | described text => text

end ProtocolFault

inductive TransportError
  | unreachable (replica reason : String)
  | protocol (replica : String) (fault : ProtocolFault)
deriving DecidableEq, Repr, Inhabited

namespace TransportError

def message : TransportError → String
  | unreachable replica reason => "replica " ++ replica ++ " unreachable: " ++ reason
  | protocol replica fault => "replica " ++ replica ++ " protocol violation: " ++ fault.message

end TransportError

inductive EntryFault
  | emptyQualifier
  | addressFormat (address : String)
  | missingHost (address : String)
  | portNumber (port : String)
  | described (text : String)
deriving DecidableEq, Repr, Inhabited

namespace EntryFault

def message : EntryFault → String
  | emptyQualifier => "qualifier cannot be empty"
  | addressFormat address => "wrong address format: " ++ address
  | missingHost address => "missing host: " ++ address
  | portNumber port => "not a valid port number: " ++ port
  | described text => text

end EntryFault

inductive NamingError
  | invalidEntry (fault : EntryFault)
  | alreadyRegistered (service qualifier address : String)
  | notRegistered (service address : String)
deriving DecidableEq, Repr, Inhabited

namespace NamingError

def message : NamingError → String
  | invalidEntry fault => "invalid service entry: " ++ fault.message
  | alreadyRegistered service qualifier address =>
      "service entry " ++ service ++ " " ++ qualifier ++ " " ++ address ++ " already exists"
  | notRegistered service address =>
      "no service " ++ service ++ " registered at " ++ address

end NamingError

inductive CommandFault
  | unknown (line : String)
  | seconds (word : String)
deriving DecidableEq, Repr, Inhabited

namespace CommandFault

def message : CommandFault → String
  | unknown line => line
  | seconds word => "not a number of seconds: " ++ word

end CommandFault

inductive SequencerFault
  | notConfigured
  | described (text : String)
deriving DecidableEq, Repr, Inhabited

namespace SequencerFault

def message : SequencerFault → String
  | notConfigured => "no sequencer configured"
  | described text => text

end SequencerFault

inductive ClientError
  | invalid (source : StoreError)
  | rejected (replica : String) (source : StoreError)
  | transport (source : TransportError)
  | backoffExceeded (retries : Nat)
  | noReplicas (service : String)
  | unknownReplica (qualifier : String)
  | nameService (source : NamingError)
  | sequencer (fault : SequencerFault)
  | invalidCommand (fault : CommandFault)
deriving DecidableEq, Repr, Inhabited

namespace ClientError

/-- After a failed exchange the replicas are looked up again. -/
def isTransport : ClientError → Bool
  | transport _ => true
  | _ => false

def code : ClientError → String
  | invalid _ => "invalid"
  | rejected _ _ => "rejected"
  | transport _ => "transport"
  | backoffExceeded _ => "backoff_exceeded"
  | noReplicas _ => "no_replicas"
  | unknownReplica _ => "unknown_replica"
  | nameService _ => "name_service"
  | sequencer _ => "sequencer"
  | invalidCommand _ => "invalid_command"

def message : ClientError → String
  | invalid source => source.message
  | rejected replica source =>
      "replica " ++ replica ++ " rejected request: " ++ source.message
  | transport source => source.message
  | backoffExceeded retries =>
      "could not acquire a tuple after " ++ toString retries ++ " retries with backoff"
  | noReplicas service => "no replicas available for service " ++ service
  | unknownReplica qualifier => "no replica with qualifier " ++ qualifier
  | nameService source => "name service failure: " ++ source.message
  | sequencer fault => "sequencer failure: " ++ fault.message
  | invalidCommand fault => "invalid command: " ++ fault.message

end ClientError

namespace Response

def wrong (response : Response) (replica : String) (expected : Expected) : ClientError :=
  .transport (.protocol replica (.wrongReply expected response))

def acknowledged (response : Response) (replica : String) : Except ClientError Unit :=
  if response.isAcknowledgement then .ok ()
  else .error (response.wrong replica .acknowledgement)

def tuple (response : Response) (replica : String) : Except ClientError String :=
  match response.tuple? with
  | some tuple => .ok tuple
  | none => .error (response.wrong replica .tuple)

def reservations (response : Response) (replica : String) : Except ClientError (List String) :=
  match response.reserved? with
  | some tuples => .ok tuples
  | none => .error (response.wrong replica .reservations)

def tuples (response : Response) (replica : String) : Except ClientError (List String) :=
  match response.state? with
  | some tuples => .ok tuples
  | none => .error (response.wrong replica .state)

end Response

end TupleSpace
