import TupleSpace.Message.Wire
import TupleSpace.Replica.Service

/-!
# Connections

A connection carries requests to a replica and replies back, each on a line of its own and in the
same order. A line that is no request closes the connection without a reply. A client opens a
connection for every call, sends one request and reads one line.
-/

namespace TupleSpace

namespace Service

def answer? (service : Service) (request : Request) : Option Reply × Service :=
  let service := (service.call request.task).settle
  ((service.result? (service.calls.length - 1)).map request.reply, service)

/-- Answers requests one after another, up to the first whose call has to wait. -/
def answerAll (service : Service) : List Request → List Reply × Service
  | [] => ([], service)
  | request :: rest =>
      match service.answer? request with
      | (none, service) => ([], service)
      | (some reply, service) =>
          let (replies, service) := service.answerAll rest
          (reply :: replies, service)

end Service

namespace Connection

def line (text : List Char) : List Char := text ++ ['\n']

structure Served where
  replies : List (List Char)
  /-- Whether the connection was closed because of a line that is no request. -/
  isClosed : Bool
  service : Service

def serve (service : Service) (stream : List Char) : Served :=
  let (requests, isClosed) := Wire.requests (Wire.lines stream)
  let (replies, service) := service.answerAll requests
  ⟨replies.map Reply.encode, isClosed && replies.length == requests.length, service⟩

def firstLine : List Char → List Char
  | [] => []
  | c :: rest => if c = '\n' then ['\n'] else c :: firstLine rest

/-- What a client makes of the stream that comes back before the connection is closed. -/
def receive (replica : String) (stream : List Char) : Except TransportError Reply :=
  if stream.isEmpty then .error (.unreachable replica "connection closed before reply")
  else match Reply.decode? (firstLine stream) with
    | some reply => .ok reply
    | none => .error (.protocol replica .unreadableReply)

def call? (replica : String) (service : Service) (request : Request) :
    Option (Except TransportError Reply) × Service :=
  let served := serve service (line request.encode)
  match served.replies with
  | [] => (if served.isClosed then some (receive replica []) else none, served.service)
  | reply :: _ => (some (receive replica (line reply)), served.service)

end Connection

end TupleSpace
