import TupleSpace.Network.Basic

/-!
# Running a network

One fair way to order the events of a network. Answers are recorded and replicas do their work as
soon as they can; then jobs go on; then the parcel is sent that was due first, the earliest of
several. A job does not look at its exchange before all requests of it were sent that are due. Time
passes only when nothing else is possible, and then up to the next moment at which something
becomes possible.
-/

namespace TupleSpace

namespace Network

def nextWork? (network : Network) : Option NetworkEvent :=
  (network.cluster.nodes.zipIdx).findSome? fun (node, index) =>
    (node.service.calls.findIdx? (·.isRunning)).map (.work index)

def nextAnswer? (network : Network) : Option NetworkEvent :=
  (network.parcels.findIdx? (fun parcel => (network.answer? parcel).isSome)).map .receive

def nextParcel? (network : Network) : Option NetworkEvent :=
  let due := network.parcels.zipIdx.filter (fun (parcel, _) => network.isDue parcel)
  let first := due.foldl
    (fun (best : Option (Parcel × Nat)) parcel =>
      match best with
      | some best => if parcel.1.due < best.1.due then some parcel else some best
      | none => some parcel)
    none
  first.map (fun (_, index) => .send index)

def isSending (network : Network) (index : Nat) : Bool :=
  match network.jobs[index]? with
  | some (.running errand) =>
      errand.attempt?.isSome &&
        network.parcels.any fun parcel =>
          parcel.exchange == errand.exchange && network.isDue parcel
  | _ => false

def nextJob? (network : Network) : Option NetworkEvent :=
  (List.range network.jobs.length).findSome? fun index =>
    if network.isSending index then none
    else (network.advance? index).map (fun _ => .advance index)

def nextEvent? (network : Network) : Option NetworkEvent :=
  network.nextAnswer? <|> network.nextWork? <|> network.nextJob? <|> network.nextParcel?

/-- Runs until nothing is possible but that time passes, for so many events at most. -/
def settle : Nat → Network → Network
  | 0, network => network
  | events + 1, network =>
      match network.nextEvent?.bind network.perform? with
      | some network => settle events network
      | none => network

def nextMoment? (network : Network) : Option Nat :=
  let dues := (network.parcels.filter (·.state == .unsent)).map (·.due)
  ((dues ++ network.jobs.map (·.wake)).filter (network.clock < ·)).min?

/-- Runs until a condition holds, through so many moments at most. No time passes once it holds. -/
def runUntil (condition : Network → Bool) (events : Nat) : Nat → Network → Network
  | 0, network => network.settle events
  | moments + 1, network =>
      let settled := network.settle events
      if condition settled then settled
      else
        match settled.nextMoment? with
        | some moment => runUntil condition events moments (settled.pass (moment - settled.clock))
        | none => settled

end Network

end TupleSpace
