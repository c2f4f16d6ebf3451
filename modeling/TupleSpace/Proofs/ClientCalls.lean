import TupleSpace.Proofs.LoneExchange
import TupleSpace.Proofs.TakeRelease

/-!
# Calls that concern a client

Where many clients share the replicas, what one of them holds is only changed by its own calls. Each
of these belongs to a request in transit, and is carried out before the request is answered.
-/

namespace TupleSpace

namespace CallState

def task? : CallState → Option Task
  | running task | parked task _ => some task
  | finished _ => none

/-- A state that only a step of the call itself, by a client, can end. -/
def Lasts (client : ClientId) : CallState → Prop
  | running task => task.client? = some client
  | parked _ _ => False
  | finished _ => True

theorem task_woken (signals : List Signal) (state : CallState) :
    (state.woken signals).task? = state.task? := by
  cases state with
  | running task => rfl
  | finished result => rfl
  | parked task signal =>
      unfold woken
      dsimp only
      split <;> rfl

theorem Lasts.woken {client : ClientId} {state : CallState} (lasts : state.Lasts client)
    (signals : List Signal) : state.woken signals = state := by
  cases state with
  | running task => rfl
  | finished result => rfl
  | parked task signal => exact lasts.elim

theorem client_of_move {task later : Task} {client : ClientId} (replica : Replica)
    (left : (ofMove task (replica.step task).move).task? = some later)
    (concerns : later.client? = some client) : task.client? = some client := by
  cases moved : (replica.step task).move with
  | finish answer =>
      rw [moved] at left
      cases left
  | goOn next =>
      rw [moved] at left
      cases left
      rw [replica.goes_on moved] at concerns
      cases concerns
  | park signal =>
      rw [moved] at left
      cases left
      exact concerns

end CallState

namespace Cluster

def holdings (cluster : Cluster) (client : ClientId) (place : Nat) : List String :=
  (cluster.nodes[place]?).elim [] fun node => node.service.replica.store.space.holdings client

def call? (cluster : Cluster) (place call : Nat) : Option CallState :=
  (cluster.nodes[place]?).bind fun node => node.service.calls[call]?

def Concerns (cluster : Cluster) (client : ClientId) (place call : Nat) : Prop :=
  ∃ state task, cluster.call? place call = some state ∧ state.task? = some task ∧
    task.client? = some client

/-- What a client holds is as it was, and its calls are no further. -/
structure Keeps (cluster next : Cluster) (client : ClientId) : Prop where
  holdings : next.holdings client = cluster.holdings client
  calls : ∀ place call state, cluster.call? place call = some state → state.Lasts client →
    next.call? place call = some state

variable {cluster next : Cluster} {client : ClientId} {place call : Nat} {node : Node}

theorem Keeps.refl (cluster : Cluster) (client : ClientId) : cluster.Keeps cluster client :=
  ⟨rfl, fun _ _ _ found _ => found⟩

theorem holdings_at (target : cluster.nodes[place]? = some node) (client : ClientId) :
    cluster.holdings client place = node.service.replica.store.space.holdings client := by
  rw [holdings, target, Option.elim_some]

theorem call_at (target : cluster.nodes[place]? = some node) :
    cluster.call? place call = node.service.calls[call]? := by
  rw [call?, target, Option.bind_some]

theorem holdings_set (target : cluster.nodes[place]? = some node) (next : Node)
    (client : ClientId) (other : Nat) :
    (cluster.setNode place next).holdings client other =
      if place = other then next.service.replica.store.space.holdings client
      else cluster.holdings client other := by
  unfold holdings
  rw [node_set target]
  split <;> rfl

theorem call_set (target : cluster.nodes[place]? = some node) (next : Node) (other : Nat) :
    (cluster.setNode place next).call? other call =
      if place = other then next.service.calls[call]? else cluster.call? other call := by
  unfold call?
  rw [node_set target]
  split <;> rfl

theorem keeps_set {service : Service} (target : cluster.nodes[place]? = some node)
    (held : service.replica.store.space.holdings client =
      node.service.replica.store.space.holdings client)
    (lasts : ∀ (call : Nat) (state : CallState), node.service.calls[call]? = some state →
      state.Lasts client → service.calls[call]? = some state) :
    cluster.Keeps (cluster.setNode place { node with service }) client := by
  refine ⟨funext fun other => ?_, fun other call state found stays => ?_⟩
  · rw [holdings_set target]
    split
    · rename_i here
      subst other
      rw [holdings_at target]
      exact held
    · rfl
  · rw [call_set target]
    split
    · rename_i here
      subst other
      rw [call_at target] at found
      exact lasts call state found stays
    · exact found

/-! ## A call is made -/

theorem keeps_called (target : cluster.nodes[place]? = some node)
    (task : Except StoreError Task) :
    cluster.Keeps (cluster.setNode place { node with service := node.service.call task })
      client := by
  refine keeps_set target rfl fun call state found _ => ?_
  simp only [Service.call]
  rw [List.getElem?_append_left (List.getElem?_eq_some_iff.mp found).1]
  exact found

theorem call_made (target : cluster.nodes[place]? = some node) (task : Except StoreError Task) :
    (cluster.setNode place { node with service := node.service.call task }).call? place
        node.service.calls.length =
      some (match task with
        | .ok task => .running task
        | .error cause => .finished (.error cause)) := by
  rw [call_set target, if_pos rfl]
  exact List.getElem?_concat_length

theorem concerns_called (target : cluster.nodes[place]? = some node)
    {task : Except StoreError Task} {other : Nat}
    (concerns : (cluster.setNode place { node with service := node.service.call task }).Concerns
      client other call) :
    cluster.Concerns client other call ∨ other = place ∧ call = node.service.calls.length ∧
      ∃ made, task = .ok made ∧ made.client? = some client := by
  obtain ⟨state, left, found, running, whose⟩ := concerns
  by_cases here : place = other
  · subst other
    by_cases last : call = node.service.calls.length
    · subst call
      rw [call_made target] at found
      cases task with
      | error cause =>
          cases found
          cases running
      | ok made =>
          cases found
          cases running
          exact Or.inr ⟨rfl, rfl, _, rfl, whose⟩
    · rw [call_set target, if_pos rfl] at found
      have bound := (List.getElem?_eq_some_iff.mp found).1
      simp only [Service.call, List.length_append, List.length_singleton] at bound
      simp only [Service.call] at found
      rw [List.getElem?_append_left (by omega)] at found
      exact Or.inl ⟨state, left, (call_at target).trans found, running, whose⟩
  · rw [call_set target, if_neg here] at found
    exact Or.inl ⟨state, left, found, running, whose⟩

/-! ## A call is worked on -/

theorem worked_calls {service : Service} {task : Task}
    (running : node.service.calls[call]? = some (.running task))
    (stepped : node.service.step? call = some service) :
    service.replica = (node.service.replica.step task).replica ∧
      ∀ other, service.calls[other]? =
        (if call = other then some (.ofMove task (node.service.replica.step task).move)
          else node.service.calls[other]?).map
            (.woken (node.service.replica.step task).signals) := by
  unfold Service.step? at stepped
  rw [running] at stepped
  cases stepped
  refine ⟨rfl, fun other => ?_⟩
  have bound := (List.getElem?_eq_some_iff.mp running).1
  rw [List.getElem?_map, List.getElem?_set]
  simp [bound]

theorem keeps_worked {service : Service} {task : Task}
    (target : cluster.nodes[place]? = some node)
    (running : node.service.calls[call]? = some (.running task))
    (stepped : node.service.step? call = some service) (other : task.client? ≠ some client) :
    cluster.Keeps (cluster.setNode place { node with service }) client := by
  obtain ⟨replica, calls⟩ := worked_calls running stepped
  refine keeps_set target ?_ fun index state found lasts => ?_
  · rw [replica]
    exact node.service.replica.holdings_step other
  · have apart : call ≠ index := by
      rintro rfl
      rw [running] at found
      cases found
      exact other lasts
    rw [calls index, if_neg apart, found, Option.map_some, lasts.woken]

theorem concerns_worked {service : Service} {task : Task} {other index : Nat}
    (target : cluster.nodes[place]? = some node)
    (running : node.service.calls[call]? = some (.running task))
    (stepped : node.service.step? call = some service)
    (concerns : (cluster.setNode place { node with service }).Concerns client other index) :
    cluster.Concerns client other index := by
  obtain ⟨state, left, found, unfinished, whose⟩ := concerns
  by_cases here : place = other
  · subst other
    rw [call_set target, if_pos rfl] at found
    rw [(worked_calls running stepped).2 index] at found
    obtain ⟨before, stored, rfl⟩ := Option.map_eq_some_iff.mp found
    rw [CallState.task_woken] at unfinished
    split at stored
    · rename_i same
      subst index
      cases stored
      exact ⟨_, task, (call_at target).trans running, rfl,
        CallState.client_of_move node.service.replica unfinished whose⟩
    · exact ⟨before, left, (call_at target).trans stored, unfinished, whose⟩
  · rw [call_set target, if_neg here] at found
    exact ⟨state, left, found, unfinished, whose⟩

end Cluster

/-! ## Requests of a take -/

/-- How a request of a client's take fares. -/
inductive Parcel.Fares (client : ClientId) (cluster : Cluster) (parcel : Parcel) : Prop
  | unsent (unsent : parcel.state = .unsent)
  | running {call : Nat} {isReplyLost : Bool} {task : Task}
      (state : parcel.state = .delivered call isReplyLost) (made : parcel.request.task = .ok task)
      (running : cluster.call? parcel.handle.node call = some (.running task))
  | finished {call : Nat} {isReplyLost : Bool} {result : Except StoreError Answer}
      (state : parcel.state = .delivered call isReplyLost)
      (finished : cluster.call? parcel.handle.node call = some (.finished result))
      (settles : parcel.request.Settles client (cluster.holdings client parcel.handle.node) result)

/-- An answer to a request of a take: it is lost if the request was never delivered, and true to
what has been left behind otherwise. -/
inductive Parcel.Told (client : ClientId) (held : List String) (parcel : Parcel) :
    Except TransportError Reply → Prop
  | undelivered {cause : TransportError} (unsent : parcel.state = .unsent) :
      Told client held parcel (.error cause)
  | lost {result : Except StoreError Answer} {cause : TransportError}
      (settles : parcel.request.Settles client held result) : Told client held parcel (.error cause)
  | replied {result : Except StoreError Answer}
      (settles : parcel.request.Settles client held result) :
      Told client held parcel (.ok (parcel.request.reply result))

variable {client : ClientId} {cluster next : Cluster} {parcel : Parcel} {source : String}

theorem Request.Settles.freed {held : List String} {result : Except StoreError Answer}
    (settles : (Request.release client).Settles client held result) : held = [] := by
  cases settles with
  | refused may => exact absurd rfl may
  | released nothing => exact nothing

theorem Parcel.Fares.mono (fares : parcel.Fares client cluster)
    (belongs : parcel.request.Belongs client source) (keeps : cluster.Keeps next client) :
    parcel.Fares client next := by
  cases fares with
  | unsent unsent => exact .unsent unsent
  | running state made running =>
      exact .running state made
        (keeps.calls _ _ _ running ((Request.client_of_task made).trans belongs.client))
  | finished state finished settles =>
      refine .finished state (keeps.calls _ _ _ finished trivial) ?_
      rw [keeps.holdings]
      exact settles

theorem Parcel.Fares.delivered {node : Node} {isReplyLost : Bool}
    (target : cluster.nodes[parcel.handle.node]? = some node) :
    ({ parcel with state := .delivered node.service.calls.length isReplyLost } : Parcel).Fares
      client (cluster.setNode parcel.handle.node
        { node with service := node.service.call parcel.request.task }) := by
  have made := Cluster.call_made target parcel.request.task
  cases asked : parcel.request.task with
  | ok task =>
      rw [asked] at made
      exact .running rfl asked made
  | error cause =>
      rw [asked] at made
      refine .finished rfl made (.refused ?_)
      intro same
      dsimp only at same
      rw [same] at asked
      cases asked

/-- A replica at which a call is over, and the space that the call has left. -/
def Node.after (node : Node) (call : Nat) (space : Space) (result : Except StoreError Answer) :
    Node :=
  { node with
    service :=
      ⟨node.service.replica.withSpace space, node.service.calls.set call (.finished result)⟩ }

theorem Parcel.Fares.carried_out {node : Node} {call : Nat} {isReplyLost : Bool} {task : Task}
    {space : Space} {result : Except StoreError Answer}
    (state : parcel.state = .delivered call isReplyLost)
    (target : cluster.nodes[parcel.handle.node]? = some node)
    (running : node.service.calls[call]? = some (.running task))
    (settles : parcel.request.Settles client (space.holdings client) result) :
    parcel.Fares client
      (cluster.setNode parcel.handle.node (node.after call space result)) := by
  have bound := (List.getElem?_eq_some_iff.mp running).1
  have finished : (cluster.setNode parcel.handle.node (node.after call space result)).call?
      parcel.handle.node call = some (.finished result) := by
    rw [Cluster.call_set target, if_pos rfl]
    simp [Node.after, bound]
  refine .finished state finished ?_
  rw [Cluster.holdings_set target, if_pos rfl]
  exact settles

theorem Parcel.Fares.elsewhere {place : Nat} {node : Node} (fares : parcel.Fares client cluster)
    (target : cluster.nodes[place]? = some node) (apart : parcel.handle.node ≠ place)
    (next : Node) : parcel.Fares client (cluster.setNode place next) := by
  have calls : ∀ call, (cluster.setNode place next).call? parcel.handle.node call =
      cluster.call? parcel.handle.node call := by
    intro call
    rw [Cluster.call_set target, if_neg apart.symm]
  cases fares with
  | unsent unsent => exact .unsent unsent
  | running state made running => exact .running state made ((calls _).trans running)
  | finished state finished settles =>
      refine .finished state ((calls _).trans finished) ?_
      rw [Cluster.holdings_set target, if_neg apart.symm]
      exact settles

theorem Parcel.Fares.told {network : Network} {answer : Except TransportError Reply}
    (fares : parcel.Fares client network.cluster)
    (answered : network.answer? parcel = some answer) :
    parcel.Told client (network.cluster.holdings client parcel.handle.node) answer := by
  have called : ∀ {call : Nat} {isReplyLost : Bool} {state : CallState},
      parcel.state = .delivered call isReplyLost →
      network.cluster.call? parcel.handle.node call = some state →
      ∃ result, state.result? = some result ∧
        ((∃ cause, answer = .error cause) ∨ answer = .ok (parcel.request.reply result)) := by
    intro call isReplyLost state delivered found
    unfold Network.answer? at answered
    rw [delivered] at answered
    obtain ⟨node, target, rest⟩ := Option.bind_eq_some_iff.mp answered
    obtain ⟨result, finished, same⟩ := Option.bind_eq_some_iff.mp rest
    rw [Cluster.call_at target] at found
    rw [Service.result?, found, Option.bind_some] at finished
    refine ⟨result, finished, ?_⟩
    split at same
    · cases same
      exact Or.inl ⟨_, rfl⟩
    · cases same
      exact Or.inr rfl
  cases fares with
  | unsent unsent =>
      unfold Network.answer? at answered
      rw [unsent] at answered
      cases answered
  | running state made running =>
      obtain ⟨result, finished, _⟩ := called state running
      cases finished
  | finished state finished settles =>
      obtain ⟨result, same, ⟨cause, rfl⟩ | rfl⟩ := called state finished
      · exact .lost settles
      · cases same
        exact .replied settles

theorem Network.over_of_answer {network : Network} {call : Nat} {isReplyLost : Bool}
    {answer : Except TransportError Reply} (answered : network.answer? parcel = some answer)
    (state : parcel.state = .delivered call isReplyLost) :
    ¬network.cluster.Concerns client parcel.handle.node call := by
  rintro ⟨found, task, there, unfinished, _⟩
  unfold answer? at answered
  rw [state] at answered
  obtain ⟨node, target, rest⟩ := Option.bind_eq_some_iff.mp answered
  obtain ⟨result, finished, _⟩ := Option.bind_eq_some_iff.mp rest
  rw [Cluster.call_at target] at there
  rw [Service.result?, there, Option.bind_some] at finished
  cases found with
  | finished result => cases unfinished
  | running task => cases finished
  | parked task signal => cases finished

theorem Parcel.Told.reply {held : List String} {answer : Except TransportError Reply}
    (told : parcel.Told client held answer) {response : Response}
    (replied : answer = .ok (.ok response)) : ∃ result,
      response = parcel.request.response result ∧
        parcel.request.Settles client held (.ok result) := by
  cases told with
  | undelivered _ => cases replied
  | lost _ => cases replied
  | @replied result settles =>
      cases result with
      | error cause => cases replied
      | ok answer =>
          cases replied
          exact ⟨answer, rfl, settles⟩

/-- Every call that concerns a client belongs to a request in transit. -/
def Network.Accounted (client : ClientId) (cluster : Cluster) (parcels : List Parcel) : Prop :=
  ∀ place call, cluster.Concerns client place call →
    ∃ parcel ∈ parcels, parcel.request.client? = some client ∧ parcel.handle.node = place ∧
      ∃ isReplyLost, parcel.state = .delivered call isReplyLost

end TupleSpace
