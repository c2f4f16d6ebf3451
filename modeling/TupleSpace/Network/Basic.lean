import TupleSpace.Client.Attempt
import TupleSpace.Client.Session
import TupleSpace.Cluster
import TupleSpace.Command

/-!
# Networks

A network holds the replicas, the sessions and what lies between them. A session carries out its
commands as jobs. The requests of an exchange travel as parcels, each on its own: it is first
sent, is then worked on by its replica, and at last its answer is recorded by the job. A network
moves by single events, in any order in which they are possible.

Time is counted in milliseconds and only passes by an event of its own. A parcel that is held
back is not sent before it is due, and a job that pauses does not go on before its pause is over;
either may be later, and nothing else takes time.

Faults are scripted. Each is used once, by the first parcel that fits it.
-/

namespace TupleSpace

inductive FaultEffect
  | drop
  /-- The request is delivered, and its answer is not. -/
  | loseReply
  | pass
  /-- The request is answered for the replica, which never sees it. -/
  | answer (reply : Reply)
deriving DecidableEq

structure Fault where
  qualifier : String
  procedure : String
  effect : FaultEffect
deriving DecidableEq

inductive ParcelState
  | unsent
  | delivered (call : Nat) (isReplyLost : Bool)
deriving DecidableEq, Repr

structure Parcel where
  exchange : Nat
  handle : Handle
  request : Request
  due : Nat := 0
  state : ParcelState := .unsent
deriving DecidableEq, Repr

structure Errand where
  session : Nat
  operation : Operation
  /-- Whether the replicas are given up when an exchange fails, and the operation is retried. -/
  isRetried : Bool := true
  retries : Nat := 0
  /-- The attempt under way. Without one, the replicas are still to be looked up. -/
  attempt? : Option Attempt := none
  exchange : Nat := 0
  /-- The moment before which the attempt is not advanced. -/
  wake : Nat := 0
deriving DecidableEq

inductive Job
  | running (errand : Errand)
  | sleeping (wake : Nat)
  | finished (result : Except ClientError Outcome)
deriving DecidableEq

structure Network where
  clock : Nat := 0
  registry : Registry := {}
  cluster : Cluster := {}
  sequencer : Sequencer := {}
  sessions : List Session := []
  faults : List Fault := []
  jobs : List Job := []
  parcels : List Parcel := []
  exchanges : Nat := 0
  /-- The requests that were sent, with the address of each. -/
  sent : List (String × Request) := []
deriving DecidableEq

inductive NetworkEvent
  | send (parcel : Nat)
  | work (node call : Nat)
  | receive (parcel : Nat)
  /-- A job looks its replicas up, looks at its exchange or ends a pause. -/
  | advance (job : Nat)
  | pass (milliseconds : Nat)
deriving DecidableEq, Repr

namespace Errand

/-- Records the answer to a parcel, unless its exchange is over. -/
def record (errand : Errand) (exchange : Nat) (replica : String)
    (answer : Except TransportError Reply) : Errand :=
  if errand.exchange = exchange then
    { errand with attempt? := errand.attempt?.map (·.record replica answer) }
  else errand

end Errand

namespace Job

/-- The moment before which a job does nothing. -/
def wake : Job → Nat
  | running errand => errand.wake
  | sleeping wake => wake
  | finished _ => 0

def result? : Job → Option (Except ClientError Outcome)
  | finished result => some result
  | _ => none

def record (exchange : Nat) (replica : String) (answer : Except TransportError Reply) : Job → Job
  | running errand => running (errand.record exchange replica answer)
  | job => job

end Job

namespace Network

/-- Connects to the replicas found, up to the first that does not listen. -/
def connectAll (cluster : Cluster) : List Descriptor → Except ClientError (List Handle)
  | [] => .ok []
  | descriptor :: rest =>
      match cluster.connect descriptor with
      | .error e => .error (.transport e)
      | .ok node => (connectAll cluster rest).map ({ descriptor, node } :: ·)

def lookUp (network : Network) (config : Config) : Except ClientError ReplicaSet :=
  match network.registry.lookup config.serviceName config.qualifier? with
  | [] => .error (.noReplicas config.serviceName)
  | found => (connectAll network.cluster found).map .ofHandles

def setSession (network : Network) (index : Nat) (session : Session) : Network :=
  { network with sessions := network.sessions.set index session }

def setJob (network : Network) (index : Nat) (job : Job) : Network :=
  { network with jobs := network.jobs.set index job }

/-- The replicas of a session, which it keeps from now on. -/
def resolve (network : Network) (index : Nat) : Except ClientError ReplicaSet × Network :=
  match network.sessions[index]? with
  | none => (.error (.noReplicas ""), network)
  | some session =>
      match session.replicas? with
      | some set => (.ok set, network)
      | none =>
          match network.lookUp session.config with
          | .ok set => (.ok set, network.setSession index { session with replicas? := some set })
          | .error cause => (.error cause, network)

def forgetReplicas (network : Network) (index : Nat) : Network :=
  match network.sessions[index]? with
  | some session => network.setSession index { session with replicas? := none }
  | none => network

/-- Ends an attempt. After a failed exchange the replicas are given up, and the operation starts
over while the session has retries left. -/
def conclude (network : Network) (index : Nat) (errand : Errand)
    (result : Except ClientError Outcome) : Network :=
  let finished := network.setJob index (.finished result)
  match result with
  | .ok _ => finished
  | .error cause =>
      if errand.isRetried && cause.isTransport then
        let allowed := (network.sessions[errand.session]?).elim 0 (·.config.callRetries)
        if errand.retries < allowed then
          (network.setJob index (.running
            { errand with attempt? := none, retries := errand.retries + 1 })).forgetReplicas
              errand.session
        else finished.forgetReplicas errand.session
      else finished

/-- When a stage that is reached now may be left. A pause lasts a millisecond at the least. -/
def wakeTime (network : Network) (session : Nat) : AttemptStage → Nat
  | .pausing _ pause =>
      let settings := (network.sessions[session]?).elim {} (·.config.take)
      network.clock + max 1 (pause.shortest settings.slot settings.settleDelay)
  | _ => network.clock

def install (network : Network) (index : Nat) (errand : Errand) (replicas : ReplicaSet)
    (client : ClientId) : AttemptStep → Network
  | .ended result => network.conclude index errand result
  | .goOn stage =>
      let wake := network.wakeTime errand.session stage
      network.setJob index
        (.running { errand with attempt? := some ⟨replicas, client, stage⟩, wake })
  | .post stage request handles =>
      let exchange := network.exchanges
      let posted := handles.map fun handle =>
        { exchange, handle, request, due := network.clock + handle.delay : Parcel }
      let errand := { errand with attempt? := some ⟨replicas, client, stage⟩, exchange }
      { network.setJob index (.running errand) with
        parcels := network.parcels ++ posted
        exchanges := exchange + 1 }

def beginAttempt (network : Network) (index : Nat) (errand : Errand) : Network :=
  match network.resolve errand.session with
  | (.error cause, network) => network.conclude index errand (.error cause)
  | (.ok replicas, network) =>
      match network.sessions[errand.session]? with
      | none => network
      | some session =>
          network.install index errand replicas session.client
            (Attempt.start replicas session.client session.config.take.policy errand.operation)

def advance? (network : Network) (index : Nat) : Option Network := do
  let job ← network.jobs[index]?
  if network.clock < job.wake then none
  match job with
  | .running errand =>
      match errand.attempt? with
      | none => some (network.beginAttempt index errand)
      | some attempt =>
          attempt.advance?.map (network.install index errand attempt.replicas attempt.client)
  | .sleeping _ => some (network.setJob index (.finished (.ok .done)))
  | .finished _ => none

def record (network : Network) (index : Nat) (parcel : Parcel)
    (answer : Except TransportError Reply) : Network :=
  { network with
    parcels := network.parcels.eraseIdx index
    jobs := network.jobs.map (.record parcel.exchange parcel.handle.qualifier answer) }

def meet? (qualifier procedure : String) : List Fault → Option (FaultEffect × List Fault)
  | [] => none
  | fault :: rest =>
      if fault.qualifier = qualifier ∧ fault.procedure = procedure then some (fault.effect, rest)
      else (meet? qualifier procedure rest).map (fun (effect, left) => (effect, fault :: left))

def isDue (network : Network) (parcel : Parcel) : Bool :=
  parcel.state == .unsent && parcel.due ≤ network.clock

/-- Hands a parcel to its replica, which starts a call. A replica that is out of reach answers
nothing. -/
def deliver (network : Network) (index : Nat) (parcel : Parcel) (isReplyLost : Bool) : Network :=
  let lost : Except TransportError Reply :=
    .error (.unreachable parcel.handle.qualifier "reply lost")
  match network.cluster.nodes[parcel.handle.node]? with
  | none => network.record index parcel lost
  | some node =>
      match node.outage? with
      | some reason =>
          network.record index parcel
            (if isReplyLost then lost else .error (.unreachable node.qualifier reason))
      | none =>
          let state := .delivered node.service.calls.length isReplyLost
          let node := { node with service := node.service.call parcel.request.task }
          { network with
            cluster := network.cluster.setNode parcel.handle.node node
            parcels := network.parcels.set index { parcel with state } }

def send? (network : Network) (index : Nat) : Option Network := do
  let parcel ← network.parcels[index]?
  if !network.isDue parcel then none
  let qualifier := parcel.handle.qualifier
  let network :=
    { network with sent := network.sent ++ [(parcel.handle.descriptor.address, parcel.request)] }
  match meet? qualifier parcel.request.procedure network.faults with
  | none => some (network.deliver index parcel false)
  | some (effect, faults) =>
      let network := { network with faults }
      match effect with
      | .pass => some (network.deliver index parcel false)
      | .loseReply => some (network.deliver index parcel true)
      | .drop =>
          some (network.record index parcel (.error (.unreachable qualifier "request dropped")))
      | .answer reply => some (network.record index parcel (.ok reply))

def work? (network : Network) (index call : Nat) : Option Network := do
  let node ← network.cluster.nodes[index]?
  let service ← node.service.step? call
  some { network with cluster := network.cluster.setNode index { node with service } }

def answer? (network : Network) (parcel : Parcel) : Option (Except TransportError Reply) :=
  match parcel.state with
  | .unsent => none
  | .delivered call isReplyLost => do
      let node ← network.cluster.nodes[parcel.handle.node]?
      let result ← node.service.result? call
      if isReplyLost then some (.error (.unreachable parcel.handle.qualifier "reply lost"))
      else some (.ok (parcel.request.reply result))

def receive? (network : Network) (index : Nat) : Option Network := do
  let parcel ← network.parcels[index]?
  let answer ← network.answer? parcel
  some (network.record index parcel answer)

def pass (network : Network) (milliseconds : Nat) : Network :=
  { network with clock := network.clock + milliseconds }

def perform? (network : Network) : NetworkEvent → Option Network
  | .send parcel => network.send? parcel
  | .work node call => network.work? node call
  | .receive parcel => network.receive? parcel
  | .advance job => network.advance? job
  | .pass milliseconds => some (network.pass milliseconds)

def addJob (network : Network) (job : Job) : Network :=
  { network with jobs := network.jobs ++ [job] }

def add (network : Network) (session : Nat) (isRetried : Bool) :
    Except ClientError Operation → Network
  | .ok operation => network.addJob (.running { session, operation, isRetried })
  | .error cause => network.addJob (.finished (.error cause))

def setDelay (network : Network) (index : Nat) (qualifier : String) (delay : Nat) :
    Except ClientError Unit × Network :=
  let (replicas, network) := network.resolve index
  match replicas.bind (·.setDelay qualifier delay) with
  | .error cause => (.error cause, network)
  | .ok set =>
      match network.sessions[index]? with
      | some session => (.ok (), network.setSession index { session with replicas? := some set })
      | none => (.ok (), network)

/-- Starts a command of a session as a job, the last one. Setting a delay is over at once. -/
def begin (network : Network) (index : Nat) (command : Command) : Network :=
  match network.sessions[index]? with
  | none => network.addJob (.finished (.error (.noReplicas "")))
  | some session =>
      let numbered (drawn : Except ClientError Operation × Sequencer) : Network :=
        { network with sequencer := drawn.2 }.add index true drawn.1
      match command with
      | .put tuple => numbered (session.put network.sequencer tuple)
      | .take pattern => numbered (session.take network.sequencer pattern)
      | .read pattern => network.add index true (Session.read pattern)
      | .state qualifier => network.add index true (.ok (.query (.state qualifier)))
      | .sleep seconds => network.addJob (.sleeping (network.clock + seconds * 1000))
      | .setDelay qualifier seconds =>
          let (result, network) := network.setDelay index qualifier (seconds * 1000)
          network.addJob (.finished (result.map (fun _ => .done)))

end Network

end TupleSpace
