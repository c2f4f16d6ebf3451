import Mathlib.Data.List.Basic
import TupleSpace.Network.Basic

/-!
# Runs of a network

The networks that events lead to, in any order in which they are possible, each with a log of the
tasks that its replicas have worked on. Every event is one of a few moves; a move says what made
it possible and what it changed.
-/

namespace TupleSpace

namespace Cluster

/-- A replica that answers what it is sent. -/
def Reaches (cluster : Cluster) (index : Nat) : Prop :=
  ∃ node, cluster.nodes[index]? = some node ∧ node.outage? = none

theorem node_set {cluster : Cluster} {place : Nat} {node : Node}
    (target : cluster.nodes[place]? = some node) (next : Node) (other : Nat) :
    (cluster.setNode place next).nodes[other]? =
      if place = other then some next else cluster.nodes[other]? := by
  have bound := (List.getElem?_eq_some_iff.mp target).1
  simp [setNode, List.getElem?_set, bound]

end Cluster

namespace Network

def carried (network : Network) : NetworkEvent → List (Nat × Task)
  | .work index call =>
      match network.cluster.nodes[index]?.bind (·.service.calls[call]?) with
      | some (.running task) => [(index, task)]
      | _ => []
  | .send _ | .receive _ | .advance _ | .pass _ => []

inductive Run (first : Network) : List (Nat × Task) → Network → Prop
  | start : Run first [] first
  | event {log : List (Nat × Task)} {network next : Network} {event : NetworkEvent}
      (earlier : Run first log network) (performed : network.perform? event = some next) :
      Run first (log ++ network.carried event) next

def replay? (network : Network) : List NetworkEvent → Option (List (Nat × Task) × Network)
  | [] => some ([], network)
  | event :: rest =>
      (network.perform? event).bind fun next =>
        (next.replay? rest).map fun last => (network.carried event ++ last.1, last.2)

theorem run_of_replay {first network last : Network} {events : List NetworkEvent}
    {log more : List (Nat × Task)} (earlier : Run first log network)
    (replayed : network.replay? events = some (more, last)) : Run first (log ++ more) last := by
  induction events generalizing network log more with
  | nil =>
      cases replayed
      simpa using earlier
  | cons event rest induction =>
      obtain ⟨next, performed, later⟩ := Option.bind_eq_some_iff.mp replayed
      obtain ⟨⟨tail, reached⟩, continued, same⟩ := Option.map_eq_some_iff.mp later
      cases same
      rw [← List.append_assoc]
      exact induction (.event earlier performed) continued

def Threatens (network : Network) (effect : FaultEffect) (procedure : String) : Prop :=
  ∃ fault ∈ network.faults, fault.effect = effect ∧ fault.procedure = procedure

/-- What may happen in a network, with what made it possible. The faults that are left are among
those that were there. -/
inductive Moves (network : Network) : NetworkEvent → Network → Prop
  | failed {index : Nat} {parcel : Parcel} {sent : List (String × Request)} {faults : List Fault}
      {cause : TransportError} (found : network.parcels[index]? = some parcel)
      (unsent : parcel.state = .unsent) (left : faults ⊆ network.faults)
      (why : network.Threatens .drop parcel.request.procedure ∨
        ¬network.cluster.Reaches parcel.handle.node) :
      Moves network (.send index)
        ({ network with sent, faults }.record index parcel (.error cause))
  | forged {index : Nat} {parcel : Parcel} {sent : List (String × Request)} {faults : List Fault}
      {reply : Reply} (found : network.parcels[index]? = some parcel)
      (unsent : parcel.state = .unsent) (left : faults ⊆ network.faults)
      (why : network.Threatens (.answer reply) parcel.request.procedure) :
      Moves network (.send index) ({ network with sent, faults }.record index parcel (.ok reply))
  | delivered {index : Nat} {parcel : Parcel} {sent : List (String × Request)}
      {faults : List Fault} {node : Node} {isReplyLost : Bool}
      (found : network.parcels[index]? = some parcel) (unsent : parcel.state = .unsent)
      (left : faults ⊆ network.faults)
      (target : network.cluster.nodes[parcel.handle.node]? = some node)
      (up : node.outage? = none)
      (why : isReplyLost = true → network.Threatens .loseReply parcel.request.procedure) :
      Moves network (.send index)
        { network with
          sent
          faults
          cluster := network.cluster.setNode parcel.handle.node
            { node with service := node.service.call parcel.request.task }
          parcels := network.parcels.set index
            { parcel with state := .delivered node.service.calls.length isReplyLost } }
  | worked {index call : Nat} {node : Node} {service : Service}
      (target : network.cluster.nodes[index]? = some node)
      (stepped : node.service.step? call = some service) :
      Moves network (.work index call)
        { network with cluster := network.cluster.setNode index { node with service } }
  | received {index : Nat} {parcel : Parcel} {answer : Except TransportError Reply}
      (found : network.parcels[index]? = some parcel)
      (answered : network.answer? parcel = some answer) :
      Moves network (.receive index) (network.record index parcel answer)
  | began {index : Nat} {errand : Errand} (found : network.jobs[index]? = some (.running errand))
      (fresh : errand.attempt? = none) :
      Moves network (.advance index) (network.beginAttempt index errand)
  | advanced {index : Nat} {errand : Errand} {attempt : Attempt} {step : AttemptStep}
      (found : network.jobs[index]? = some (.running errand))
      (under : errand.attempt? = some attempt) (stepped : attempt.advance? = some step) :
      Moves network (.advance index)
        (network.install index errand attempt.replicas attempt.client step)
  | woke {index wake : Nat} (found : network.jobs[index]? = some (.sleeping wake)) :
      Moves network (.advance index) (network.setJob index (.finished (.ok .done)))
  | passed {milliseconds : Nat} :
      Moves network (.pass milliseconds) (network.pass milliseconds)

variable {network next : Network} {event : NetworkEvent}

theorem meet_some {qualifier procedure : String} {faults left : List Fault} {effect : FaultEffect}
    (met : meet? qualifier procedure faults = some (effect, left)) :
    (∃ fault ∈ faults, fault.effect = effect ∧ fault.procedure = procedure) ∧ left ⊆ faults := by
  induction faults generalizing left with
  | nil => simp [meet?] at met
  | cons fault rest induction =>
      unfold meet? at met
      split at met
      · rename_i fits
        cases met
        exact ⟨⟨fault, by simp, rfl, fits.2⟩, List.subset_cons_self _ _⟩
      · obtain ⟨⟨inner, kept⟩, tail, same⟩ := Option.map_eq_some_iff.mp met
        cases same
        obtain ⟨⟨other, member, met⟩, fewer⟩ := induction tail
        exact ⟨⟨other, List.mem_cons_of_mem _ member, met⟩, List.cons_subset_cons _ fewer⟩

theorem moves_of_deliver {index : Nat} {parcel : Parcel} {sent : List (String × Request)}
    {faults : List Fault} {isReplyLost : Bool} (found : network.parcels[index]? = some parcel)
    (unsent : parcel.state = .unsent) (left : faults ⊆ network.faults)
    (why : isReplyLost = true → network.Threatens .loseReply parcel.request.procedure) :
    network.Moves (.send index)
      ({ network with sent, faults }.deliver index parcel isReplyLost) := by
  unfold deliver
  dsimp only
  split
  · rename_i missing
    refine .failed found unsent left (Or.inr ?_)
    rintro ⟨node, there, _⟩
    rw [missing] at there
    cases there
  · rename_i node target
    split
    · rename_i reason down
      have away : ¬network.cluster.Reaches parcel.handle.node := by
        rintro ⟨other, there, reached⟩
        rw [target] at there
        cases there
        rw [down] at reached
        cases reached
      split
      · exact .failed found unsent left (Or.inr away)
      · exact .failed found unsent left (Or.inr away)
    · rename_i up
      exact .delivered found unsent left target up why

theorem moves_of_send {index : Nat} (performed : network.send? index = some next) :
    network.Moves (.send index) next := by
  unfold send? at performed
  obtain ⟨parcel, found, sent⟩ := Option.bind_eq_some_iff.mp performed
  dsimp only at sent
  split at sent
  · cases sent
  · rename_i due
    have unsent : parcel.state = .unsent := by
      unfold isDue at due
      simp only [Bool.not_eq_true', Bool.not_eq_false, Bool.and_eq_true, beq_iff_eq] at due
      exact due.1
    split at sent
    · cases sent
      exact moves_of_deliver found unsent (List.Subset.refl _) (by simp)
    · rename_i effect faults met
      obtain ⟨fits, left⟩ := meet_some met
      cases effect with
      | pass =>
          cases sent
          exact moves_of_deliver found unsent left (by simp)
      | loseReply =>
          cases sent
          exact moves_of_deliver found unsent left (fun _ => fits)
      | drop =>
          cases sent
          exact .failed found unsent left (Or.inl fits)
      | answer reply =>
          cases sent
          exact .forged found unsent left fits

theorem moves_of_perform (performed : network.perform? event = some next) :
    network.Moves event next := by
  cases event with
  | send index => exact moves_of_send performed
  | work index call =>
      obtain ⟨node, target, rest⟩ := Option.bind_eq_some_iff.mp performed
      obtain ⟨service, stepped, same⟩ := Option.bind_eq_some_iff.mp rest
      cases same
      exact .worked target stepped
  | receive index =>
      obtain ⟨parcel, found, rest⟩ := Option.bind_eq_some_iff.mp performed
      obtain ⟨answer, answered, same⟩ := Option.bind_eq_some_iff.mp rest
      cases same
      exact .received found answered
  | advance index =>
      obtain ⟨job, found, rest⟩ := Option.bind_eq_some_iff.mp performed
      dsimp only at rest
      split at rest
      · cases rest
      · cases job with
        | finished result => cases rest
        | sleeping wake =>
            cases rest
            exact .woke found
        | running errand =>
            dsimp only at rest
            cases under : errand.attempt? with
            | none =>
                rw [under] at rest
                cases rest
                exact .began found under
            | some attempt =>
                rw [under] at rest
                obtain ⟨step, stepped, same⟩ := Option.map_eq_some_iff.mp rest
                cases same
                exact .advanced found under stepped
  | pass milliseconds =>
      cases performed
      exact .passed

end Network

end TupleSpace
