import TupleSpace.Proofs.NetworkRun
import TupleSpace.Proofs.TakeAttempt

/-!
# An exchange of a lone take

While one request of a take is on its way to several replicas and nothing else goes on, every
parcel is either still to be carried out, and its replica is ready for it, or it was carried out,
and what it left behind is there. Removals are kept in a log of the tasks worked on.
-/

namespace TupleSpace

open TupleSpace.Table

def removals (place : Nat) (log : List (Nat × Task)) : List String :=
  log.filterMap fun entry => if entry.1 = place then entry.2.removed? else none

theorem removals_now (place : Nat) (task : Task) (log : List (Nat × Task)) :
    removals place (log ++ [(place, task)]) = removals place log ++ task.removed?.toList := by
  cases removed : task.removed? with
  | none => simp [removals, removed]
  | some tuple => simp [removals, removed]

theorem removals_elsewhere {place other : Nat} (apart : other ≠ place) (task : Task)
    (log : List (Nat × Task)) : removals place (log ++ [(other, task)]) = removals place log := by
  simp [removals, apart]

theorem removals_unchanged {task : Task} (keeps : task.removed? = none) (place other : Nat)
    (log : List (Nat × Task)) : removals place (log ++ [(other, task)]) = removals place log := by
  by_cases same : other = place
  · subst other
    simp [removals_now, keeps]
  · exact removals_elsewhere same task log

theorem Request.keeps_of_task {request : Request} {task : Task} (made : request.task = .ok task)
    (keeps : ∀ tuple client, request ≠ .commit tuple client) : task.removed? = none := by
  have parsed : ∀ {source : String} {make : Pattern → Task},
      (∀ pattern, (make pattern).removed? = none) →
        (Pattern.parse source).map make = .ok task → task.removed? = none := by
    intro source make none made
    cases result : Pattern.parse source with
    | error cause =>
        rw [result] at made
        cases made
    | ok pattern =>
        rw [result] at made
        cases made
        exact none pattern
  cases request with
  | commit tuple client => exact absurd rfl (keeps tuple client)
  | read pattern => exact parsed (fun _ => rfl) made
  | reserve pattern client => exact parsed (fun _ => rfl) made
  | put tuple =>
      cases made
      rfl
  | release client =>
      cases made
      rfl
  | state =>
      cases made
      rfl
  | sequencedPut tuple number =>
      cases made
      rfl
  | sequencedTake pattern number =>
      cases made
      rfl

namespace Cluster

variable {cluster : Cluster} {place : Nat} {node : Node}

def values (cluster : Cluster) (place : Nat) : List String :=
  (cluster.nodes[place]?).elim [] fun node => node.service.replica.store.space.values

def held (cluster : Cluster) (client : ClientId) (place : Nat) : List String :=
  (cluster.nodes[place]?).elim [] fun node =>
    if node.outage? = none then node.service.replica.store.space.holdings client else []

theorem reaches_of_held {client : ClientId} {tuple : String}
    (present : tuple ∈ cluster.held client place) : cluster.Reaches place := by
  unfold held at present
  cases target : cluster.nodes[place]? with
  | none => simp [target] at present
  | some node =>
      simp only [target, Option.elim_some] at present
      split at present
      · rename_i up
        exact ⟨node, target, up⟩
      · cases present

theorem values_set (target : cluster.nodes[place]? = some node) (next : Node) (other : Nat) :
    (cluster.setNode place next).values other =
      if place = other then next.service.replica.store.space.values else cluster.values other := by
  unfold values
  rw [node_set target]
  split <;> rfl

theorem held_set (target : cluster.nodes[place]? = some node) (next : Node) (client : ClientId)
    (other : Nat) :
    (cluster.setNode place next).held client other =
      if place = other then
        if next.outage? = none then next.service.replica.store.space.holdings client else []
      else cluster.held client other := by
  unfold held
  rw [node_set target]
  split <;> rfl

theorem values_called (target : cluster.nodes[place]? = some node)
    (task : Except StoreError Task) :
    (cluster.setNode place { node with service := node.service.call task }).values =
      cluster.values := by
  funext other
  rw [values_set target]
  split
  · rename_i here
    subst other
    simp [values, target, Service.call]
  · rfl

theorem held_called (target : cluster.nodes[place]? = some node)
    (task : Except StoreError Task) (client : ClientId) :
    (cluster.setNode place { node with service := node.service.call task }).held client =
      cluster.held client := by
  funext other
  rw [held_set target]
  split
  · rename_i here
    subst other
    simp [held, target, Service.call]
  · rfl

end Cluster

theorem CallState.woken_nil (state : CallState) : state.woken [] = state := by
  cases state with
  | running task => rfl
  | parked task signal => rfl
  | finished result => rfl

/-- A task that finishes in one step and signals nothing leaves all other calls alone. -/
theorem Service.step_finishing {service : Service} {call : Nat} {task : Task} {replica : Replica}
    {result : Except StoreError Answer}
    (running : service.calls[call]? = some (.running task))
    (finishes : service.replica.step task = ⟨.finish result, replica, []⟩) :
    service.step? call = some ⟨replica, service.calls.set call (.finished result)⟩ := by
  have asleep : CallState.woken [] = id := funext CallState.woken_nil
  simp [step?, running, finishes, asleep, CallState.ofMove]

structure Quest where
  first : Network
  session : Session
  index : Nat
  job : Nat
  pattern : String
  table : List (String × Nat)

namespace Quest

def taker (quest : Quest) : Taker :=
  ⟨quest.session.client, quest.pattern, quest.session.config.take.policy⟩

structure Own (quest : Quest) (errand : Errand) : Prop where
  session : errand.session = quest.index
  operation : errand.operation = .take quest.pattern

def Spared (quest : Quest) : Prop :=
  ∀ fault ∈ quest.first.faults, fault.procedure ≠ "take phase 2"

/-- Nothing can make the take remove a tuple and then start over. -/
def Clean (quest : Quest) : Prop := quest.Spared ∨ quest.session.config.callRetries = 0

/-- The set of replicas never changes, and faults only drop requests or lose replies. -/
structure Fair (quest : Quest) : Prop where
  names : (quest.table.map (·.1)).Nodup
  places : (quest.table.map (·.2)).Nodup
  lookup : ∀ set, quest.first.lookUp quest.session.config = .ok set → set.table = quest.table
  honest : ∀ fault ∈ quest.first.faults, fault.effect = .drop ∨ fault.effect = .loseReply

theorem Fair.place_eq {quest : Quest} (fair : quest.Fair) {name : String} {place other : Nat}
    (here : (name, place) ∈ quest.table) (there : (name, other) ∈ quest.table) :
    place = other := by
  have same := List.inj_on_of_nodup_map fair.names here there rfl
  exact congrArg Prod.snd same

theorem Fair.name_eq {quest : Quest} (fair : quest.Fair) {name other : String} {place : Nat}
    (here : (name, place) ∈ quest.table) (there : (other, place) ∈ quest.table) :
    name = other := by
  have same := List.inj_on_of_nodup_map fair.places here there rfl
  exact congrArg Prod.fst same

/-- What a replica is ready for, and what was left behind at it. -/
def Ready (quest : Quest) (log : List (Nat × Task)) (cluster : Cluster) (request : Request)
    (place : Nat) : Prop :=
  request.Ready quest.taker.client quest.Clean (cluster.held quest.taker.client place)
    (removals place log)

def Leaves (quest : Quest) (log : List (Nat × Task)) (cluster : Cluster) (request : Request)
    (place : Nat) (result : Except StoreError Answer) : Prop :=
  request.Leaves quest.taker.client quest.Clean (cluster.held quest.taker.client place)
    (removals place log) result

inductive Stands (quest : Quest) (log : List (Nat × Task)) (cluster : Cluster) (request : Request)
    (place : Nat) : ParcelState → Prop
  | unsent (ready : quest.Ready log cluster request place) :
      Stands quest log cluster request place .unsent
  | running {call : Nat} {isReplyLost : Bool} {node : Node} {task : Task}
      (target : cluster.nodes[place]? = some node) (up : node.outage? = none)
      (made : request.task = .ok task)
      (running : node.service.calls[call]? = some (.running task))
      (ready : quest.Ready log cluster request place) :
      Stands quest log cluster request place (.delivered call isReplyLost)
  | finished {call : Nat} {isReplyLost : Bool} {node : Node} {result : Except StoreError Answer}
      (target : cluster.nodes[place]? = some node)
      (finished : node.service.calls[call]? = some (.finished result))
      (leaves : quest.Leaves log cluster request place result) :
      Stands quest log cluster request place (.delivered call isReplyLost)

/-- An exchange under way with the targets, whose parcels are all that is in transit. -/
structure Flight (quest : Quest) (log : List (Nat × Task)) (cluster : Cluster)
    (parcels : List Parcel) (number : Nat) (targets : List String) (exchange : Exchange) :
    Prop where
  posted : ∀ parcel ∈ parcels, parcel.exchange = number ∧ parcel.request = exchange.request ∧
    (parcel.handle.qualifier, parcel.handle.node) ∈ quest.table
  stands : ∀ parcel ∈ parcels,
    quest.Stands log cluster exchange.request parcel.handle.node parcel.state
  answers : ∀ reply ∈ exchange.collector.responses, ∃ place answer,
    (reply.1, place) ∈ quest.table ∧ reply.2 = exchange.request.response answer ∧
      quest.Leaves log cluster exchange.request place (.ok answer)
  outstanding : exchange.collector.outstanding = parcels.length
  distinct : (parcels.map (·.handle.qualifier) ++ exchange.collector.responses.map (·.1)).Nodup
  complete : exchange.collector.failures = [] →
    (parcels.map (·.handle.qualifier) ++ exchange.collector.responses.map (·.1)).Perm targets
  plain : exchange.expected? = none
  waits : exchange.wait = .tasks
  looked : exchange.next ≠ .count → parcels = []
  settled : exchange.next = .replies → exchange.collector.failures = []
  spared : quest.Spared → ∀ tuple client, exchange.request = .commit tuple client →
    exchange.collector.failures = [] ∧
      ∀ parcel ∈ parcels, ∀ call, parcel.state ≠ .delivered call true

variable {quest : Quest} {log : List (Nat × Task)} {cluster : Cluster} {parcels : List Parcel}
  {number : Nat} {targets : List String} {exchange : Exchange} {request : Request} {place : Nat}
  {node : Node}

theorem Flight.unlooked (flight : quest.Flight log cluster parcels number targets exchange)
    {parcel : Parcel} (inside : parcel ∈ parcels) : exchange.next = .count := by
  by_contra looked
  rw [flight.looked looked] at inside
  cases inside

theorem Flight.parcels_apart (fair : quest.Fair)
    (flight : quest.Flight log cluster parcels number targets exchange) {parcel other : Parcel}
    (inside : parcel ∈ parcels) (member : other ∈ parcels) (apart : other ≠ parcel) :
    parcel.handle.node ≠ other.handle.node := by
  intro same
  obtain ⟨_, _, here⟩ := flight.posted parcel inside
  obtain ⟨_, _, there⟩ := flight.posted other member
  rw [← same] at there
  have distinct := (List.nodup_append.mp flight.distinct).1
  exact apart (List.inj_on_of_nodup_map distinct member inside (fair.name_eq there here))

theorem Flight.replied_apart (fair : quest.Fair)
    (flight : quest.Flight log cluster parcels number targets exchange) {parcel : Parcel}
    {reply : String × Response} (inside : parcel ∈ parcels)
    (member : reply ∈ exchange.collector.responses) (there : (reply.1, place) ∈ quest.table) :
    parcel.handle.node ≠ place := by
  rintro rfl
  obtain ⟨_, _, row⟩ := flight.posted parcel inside
  have apart := (List.nodup_append.mp flight.distinct).2.2
  exact apart _ (List.mem_map_of_mem inside) _ (List.mem_map_of_mem member)
    (fair.name_eq row there)

/-! ## Delivery -/

theorem Stands.called {state : ParcelState} {other : Nat}
    (stands : quest.Stands log cluster request other state)
    (target : cluster.nodes[place]? = some node) (task : Except StoreError Task) :
    quest.Stands log
      (cluster.setNode place { node with service := node.service.call task }) request other
      state := by
  have grown : ∀ {call : Nat} {found : Node} {state : CallState},
      cluster.nodes[other]? = some found → found.service.calls[call]? = some state →
        ∃ later, (cluster.setNode place
            { node with service := node.service.call task }).nodes[other]? = some later ∧
          later.outage? = found.outage? ∧ later.service.calls[call]? = some state := by
    intro call found state there entry
    rw [Cluster.node_set target]
    split
    · rename_i here
      subst other
      rw [target] at there
      cases there
      refine ⟨_, rfl, rfl, ?_⟩
      simp only [Service.call]
      rw [List.getElem?_append_left (List.getElem?_eq_some_iff.mp entry).1]
      exact entry
    · exact ⟨found, there, rfl, entry⟩
  have same := Cluster.held_called target task quest.taker.client
  cases stands with
  | unsent ready =>
      refine .unsent ?_
      rw [Quest.Ready, same]
      exact ready
  | running there up made running ready =>
      obtain ⟨later, found, still, entry⟩ := grown there running
      refine .running found (still.trans up) made entry ?_
      rw [Quest.Ready, same]
      exact ready
  | finished there finished leaves =>
      obtain ⟨later, found, _, entry⟩ := grown there finished
      refine .finished found entry ?_
      rw [Quest.Leaves, same]
      exact leaves

theorem Stands.delivered (ready : quest.Ready log cluster request place)
    (target : cluster.nodes[place]? = some node) (up : node.outage? = none)
    (isReplyLost : Bool) :
    quest.Stands log
      (cluster.setNode place { node with service := node.service.call request.task }) request place
      (.delivered node.service.calls.length isReplyLost) := by
  have there := Cluster.node_set target
    { node with service := node.service.call request.task } place
  rw [if_pos rfl] at there
  have same := Cluster.held_called target request.task quest.taker.client
  cases made : request.task with
  | ok task =>
      rw [made] at there same
      refine .running there up made (by simp [Service.call]) ?_
      rw [Quest.Ready, same]
      exact ready
  | error cause =>
      rw [made] at there same
      refine .finished there (by simp [Service.call]; rfl) ?_
      unfold Quest.Ready at ready
      unfold Quest.Leaves
      cases ready with
      | reserve => exact .refused
      | release => cases made
      | commit present fresh => cases made

theorem qualifiers_set {index : Nat} {parcel : Parcel} (found : parcels[index]? = some parcel)
    (state : ParcelState) :
    (parcels.set index { parcel with state }).map (·.handle.qualifier) =
      parcels.map (·.handle.qualifier) := by
  have here : (parcels.map (·.handle.qualifier))[index]? = some parcel.handle.qualifier := by
    simp [found]
  obtain ⟨bound, same⟩ := List.getElem?_eq_some_iff.mp here
  rw [List.map_set]
  dsimp only
  rw [← same]
  exact List.set_getElem_self bound

theorem Flight.delivered {index : Nat} {parcel : Parcel} {isReplyLost : Bool}
    (flight : quest.Flight log cluster parcels number targets exchange)
    (found : parcels[index]? = some parcel) (unsent : parcel.state = .unsent)
    (target : cluster.nodes[parcel.handle.node]? = some node) (up : node.outage? = none)
    (spared : quest.Spared → ∀ tuple client, parcel.request = .commit tuple client →
      isReplyLost = false) :
    quest.Flight log
      (cluster.setNode parcel.handle.node
        { node with service := node.service.call parcel.request.task })
      (parcels.set index
        { parcel with state := .delivered node.service.calls.length isReplyLost })
      number targets exchange := by
  have inside := List.mem_of_getElem? found
  obtain ⟨_, asks, _⟩ := flight.posted parcel inside
  have names := qualifiers_set found (.delivered node.service.calls.length isReplyLost)
  constructor
  case posted =>
    intro other member
    rcases List.mem_or_eq_of_mem_set member with old | rfl
    · exact flight.posted other old
    · exact flight.posted parcel inside
  case stands =>
    intro other member
    rcases List.mem_or_eq_of_mem_set member with old | rfl
    · exact (flight.stands other old).called target _
    · have stands := flight.stands parcel inside
      rw [unsent] at stands
      cases stands with
      | unsent ready =>
          rw [asks]
          exact Stands.delivered ready target up isReplyLost
  case answers =>
    intro reply member
    obtain ⟨other, answer, row, same, leaves⟩ := flight.answers reply member
    refine ⟨other, answer, row, same, ?_⟩
    rw [Quest.Leaves, Cluster.held_called target]
    exact leaves
  case outstanding =>
    rw [List.length_set]
    exact flight.outstanding
  case distinct =>
    rw [names]
    exact flight.distinct
  case complete =>
    rw [names]
    exact flight.complete
  case plain => exact flight.plain
  case waits => exact flight.waits
  case looked => exact fun looked => absurd (flight.unlooked inside) looked
  case settled => exact flight.settled
  case spared =>
    intro unthreatened tuple client removal
    obtain ⟨none, heard⟩ := flight.spared unthreatened tuple client removal
    refine ⟨none, ?_⟩
    intro other member call lost
    rcases List.mem_or_eq_of_mem_set member with old | rfl
    · exact heard other old call lost
    · rw [spared unthreatened tuple client (asks.trans removal)] at lost
      cases lost

/-! ## Work -/

theorem Stands.elsewhere {state : ParcelState} {other : Nat}
    (stands : quest.Stands log cluster request other state)
    (target : cluster.nodes[place]? = some node) (apart : place ≠ other) (next : Node)
    (task : Task) :
    quest.Stands (log ++ [(place, task)]) (cluster.setNode place next) request other state := by
  have unchanged := Cluster.node_set target next other
  have held := Cluster.held_set target next quest.taker.client other
  have removed := removals_elsewhere apart task log
  rw [if_neg apart] at unchanged held
  cases stands with
  | unsent ready =>
      refine .unsent ?_
      rw [Quest.Ready, held, removed]
      exact ready
  | running there up made running ready =>
      refine .running (unchanged.trans there) up made running ?_
      rw [Quest.Ready, held, removed]
      exact ready
  | finished there finished leaves =>
      refine .finished (unchanged.trans there) finished ?_
      rw [Quest.Leaves, held, removed]
      exact leaves

theorem Stands.of_running {call : Nat} {isReplyLost : Bool} {task : Task}
    (stands : quest.Stands log cluster request place (.delivered call isReplyLost))
    (target : cluster.nodes[place]? = some node)
    (running : node.service.calls[call]? = some (.running task)) :
    request.task = .ok task ∧ node.outage? = none ∧ quest.Ready log cluster request place := by
  cases stands with
  | running there up made entry ready =>
      rw [target] at there
      cases there
      rw [running] at entry
      cases entry
      exact ⟨made, up, ready⟩
  | finished there finished _ =>
      rw [target] at there
      cases there
      rw [running] at finished
      cases finished

/-- What the step of a call does while an exchange is under way: the request is carried out at its
replica, and nothing else changes. -/
structure Carried (quest : Quest) (log : List (Nat × Task)) (cluster : Cluster)
    (parcels : List Parcel) (number : Nat) (targets : List String) (exchange : Exchange)
    (place : Nat) (node : Node) (task : Task) (call : Nat) (service : Service) : Prop where
  flight : quest.Flight (log ++ [(place, task)])
    (cluster.setNode place { node with service }) parcels number targets exchange
  made : exchange.request.task = .ok task
  calls : ∃ result, service.calls = node.service.calls.set call (.finished result)
  values : node.service.replica.store.space.values.Perm
    (task.removed?.toList ++ service.replica.store.space.values)
  grown : ∀ pattern, exchange.request = .reserve pattern quest.taker.client →
    ∀ other, ∀ tuple ∈ cluster.held quest.taker.client other,
      tuple ∈ (cluster.setNode place { node with service }).held quest.taker.client other

theorem Flight.carried (fair : quest.Fair)
    (flight : quest.Flight log cluster parcels number targets exchange) {parcel : Parcel}
    {call : Nat} {isReplyLost : Bool} {task : Task} {service : Service}
    (inside : parcel ∈ parcels)
    (state : parcel.state = .delivered call isReplyLost)
    (target : cluster.nodes[parcel.handle.node]? = some node)
    (running : node.service.calls[call]? = some (.running task))
    (stepped : node.service.step? call = some service) :
    quest.Carried log cluster parcels number targets exchange parcel.handle.node node task call
      service := by
  have stands := flight.stands parcel inside
  rw [state] at stands
  obtain ⟨made, up, ready⟩ := stands.of_running target running
  have here : cluster.held quest.taker.client parcel.handle.node =
      node.service.replica.store.space.holdings quest.taker.client := by
    simp [Cluster.held, target, up]
  rw [Quest.Ready, here] at ready
  obtain ⟨result, space, finishes, leaves, values, grown⟩ := ready.carried_out made
  rw [Service.step_finishing running finishes, Option.some.injEq] at stepped
  subst stepped
  have bound := (List.getElem?_eq_some_iff.mp running).1
  let next : Node :=
    { node with
      service := ⟨node.service.replica.withSpace space,
        node.service.calls.set call (.finished result)⟩ }
  have held := Cluster.held_set target next quest.taker.client
  have left : quest.Leaves (log ++ [(parcel.handle.node, task)])
      (cluster.setNode parcel.handle.node next) exchange.request parcel.handle.node result := by
    rw [Quest.Leaves, held, if_pos rfl, if_pos up, removals_now]
    exact leaves
  refine ⟨⟨flight.posted, ?_, ?_, flight.outstanding, flight.distinct, flight.complete,
    flight.plain, flight.waits, flight.looked, flight.settled, flight.spared⟩, made,
    ⟨result, rfl⟩, values, ?_⟩
  · intro other member
    by_cases same : other = parcel
    · subst other
      have there := Cluster.node_set target next parcel.handle.node
      rw [if_pos rfl] at there
      rw [state]
      exact .finished there (by simp [next, bound]) left
    · have apart := flight.parcels_apart fair inside member same
      exact (flight.stands other member).elsewhere target apart next task
  · intro reply member
    obtain ⟨place, answer, there, same, earlier⟩ := flight.answers reply member
    have apart := flight.replied_apart fair inside member there
    refine ⟨place, answer, there, same, ?_⟩
    rw [Quest.Leaves, held, if_neg apart, removals_elsewhere apart]
    exact earlier
  · intro pattern asks other tuple member
    rw [held]
    split
    · rename_i same
      subst other
      rw [here] at member
      exact grown pattern asks tuple member
    · exact member

/-! ## Answers -/

theorem Stands.answered {call : Nat} {isReplyLost : Bool} {result : Except StoreError Answer}
    (stands : quest.Stands log cluster request place (.delivered call isReplyLost))
    (target : cluster.nodes[place]? = some node)
    (answered : node.service.result? call = some result) :
    quest.Leaves log cluster request place result := by
  obtain ⟨state, entry, finished⟩ := Option.bind_eq_some_iff.mp answered
  cases stands with
  | running there up made running ready =>
      rw [target] at there
      cases there
      rw [running] at entry
      cases entry
      cases finished
  | finished there done leaves =>
      rw [target] at there
      cases there
      rw [done] at entry
      cases entry
      cases finished
      exact leaves

/-- Without a parcel its replica is no longer among those that parcels or replies belong to. -/
theorem Flight.names_erased (flight : quest.Flight log cluster parcels number targets exchange)
    {index : Nat} {parcel : Parcel} (found : parcels[index]? = some parcel) :
    (parcels.map (·.handle.qualifier) ++ exchange.collector.responses.map (·.1)).Perm
      (parcel.handle.qualifier :: ((parcels.eraseIdx index).map (·.handle.qualifier) ++
        exchange.collector.responses.map (·.1))) ∧
    exchange.collector.outstanding - 1 = (parcels.eraseIdx index).length := by
  obtain ⟨bound, here⟩ := List.getElem?_eq_some_iff.mp found
  have removed : parcels.Perm (parcel :: parcels.eraseIdx index) := by
    rw [← here]
    exact (List.getElem_cons_eraseIdx_perm bound).symm
  refine ⟨(removed.map _).append_right _, ?_⟩
  rw [flight.outstanding, List.length_eraseIdx_of_lt bound]

/-- A failed answer leaves the replies as they are. A removal has none unless a fault lies in wait
for it. -/
theorem Flight.record_failed (flight : quest.Flight log cluster parcels number targets exchange)
    {index : Nat} {parcel : Parcel} (found : parcels[index]? = some parcel) (cause : ClientError)
    (spared : quest.Spared → ∀ tuple client, exchange.request ≠ .commit tuple client) :
    quest.Flight log cluster (parcels.eraseIdx index) number targets
      { exchange with collector := exchange.collector.record (.error cause) } := by
  obtain ⟨names, count⟩ := flight.names_erased found
  have distinct := names.nodup_iff.mp flight.distinct
  have unlooked := flight.unlooked (List.mem_of_getElem? found)
  constructor
  case posted => exact fun other member => flight.posted other (List.mem_of_mem_eraseIdx member)
  case stands => exact fun other member => flight.stands other (List.mem_of_mem_eraseIdx member)
  case answers => exact flight.answers
  case outstanding => exact count
  case distinct => exact (List.nodup_cons.mp distinct).2
  case complete =>
    intro none
    simp [Collector.record] at none
  case plain => exact flight.plain
  case waits => exact flight.waits
  case looked => exact fun looked => absurd unlooked looked
  case settled =>
    intro looked
    rw [unlooked] at looked
    cases looked
  case spared =>
    intro unthreatened tuple client removal
    exact absurd removal (spared unthreatened tuple client)

theorem Flight.record_reply (flight : quest.Flight log cluster parcels number targets exchange)
    {index : Nat} {parcel : Parcel} {answer : Answer} (found : parcels[index]? = some parcel)
    (leaves : quest.Leaves log cluster exchange.request parcel.handle.node (.ok answer)) :
    quest.Flight log cluster (parcels.eraseIdx index) number targets
      { exchange with
        collector := exchange.collector.record
          (.ok (parcel.handle.qualifier, exchange.request.response answer)) } := by
  have inside := List.mem_of_getElem? found
  obtain ⟨_, _, row⟩ := flight.posted parcel inside
  obtain ⟨names, count⟩ := flight.names_erased found
  have distinct := names.nodup_iff.mp flight.distinct
  have moved : ((parcels.eraseIdx index).map (·.handle.qualifier) ++
      (exchange.collector.responses ++
        [(parcel.handle.qualifier, exchange.request.response answer)]).map (·.1)).Perm
      (parcel.handle.qualifier :: ((parcels.eraseIdx index).map (·.handle.qualifier) ++
        exchange.collector.responses.map (·.1))) := by
    rw [List.map_append, List.map_singleton, ← List.append_assoc]
    exact List.perm_append_singleton _ _
  constructor
  case posted => exact fun other member => flight.posted other (List.mem_of_mem_eraseIdx member)
  case stands => exact fun other member => flight.stands other (List.mem_of_mem_eraseIdx member)
  case answers =>
    intro reply member
    rcases List.mem_append.mp member with earlier | now
    · exact flight.answers reply earlier
    · rw [List.mem_singleton] at now
      subst now
      exact ⟨_, answer, row, rfl, leaves⟩
  case outstanding => exact count
  case distinct => exact moved.nodup_iff.mpr distinct
  case complete => exact fun none => (moved.trans names.symm).trans (flight.complete none)
  case plain => exact flight.plain
  case waits => exact flight.waits
  case looked => exact fun looked => absurd (flight.unlooked inside) looked
  case settled => exact flight.settled
  case spared =>
    intro unthreatened tuple client removal
    obtain ⟨none, heard⟩ := flight.spared unthreatened tuple client removal
    exact ⟨none, fun other member => heard other (List.mem_of_mem_eraseIdx member)⟩

theorem Flight.record (flight : quest.Flight log cluster parcels number targets exchange)
    {index : Nat} {parcel : Parcel} {answer : Except TransportError Reply}
    (found : parcels[index]? = some parcel)
    (told : ∀ reply, answer = .ok reply → ∃ result, reply = parcel.request.reply result ∧
      quest.Leaves log cluster parcel.request parcel.handle.node result)
    (spared : quest.Spared → ∀ tuple client, parcel.request = .commit tuple client →
      ∃ reply, answer = .ok reply) :
    quest.Flight log cluster (parcels.eraseIdx index) number targets
      (exchange.record parcel.handle.qualifier answer) := by
  obtain ⟨_, asks, _⟩ := flight.posted parcel (List.mem_of_getElem? found)
  rw [asks] at told spared
  rcases answer with cause | reply
  · refine flight.record_failed found (.transport cause) ?_
    intro unthreatened tuple client removal
    obtain ⟨reply, same⟩ := spared unthreatened tuple client removal
    cases same
  · obtain ⟨result, same, leaves⟩ := told reply rfl
    subst same
    cases result with
    | error cause =>
        refine flight.record_failed found (.rejected parcel.handle.qualifier cause) ?_
        intro _ tuple client removal
        rw [Quest.Leaves, removal] at leaves
        cases leaves
    | ok answer =>
        have recorded : exchange.outcome parcel.handle.qualifier
            (.ok (exchange.request.reply (.ok answer))) =
              .ok (parcel.handle.qualifier, exchange.request.response answer) := by
          simp [Exchange.outcome, Request.reply, Except.map, flight.plain]
        rw [Exchange.record, recorded]
        exact flight.record_reply found leaves

/-! ## The beginning and the end -/

theorem flight_posted {set : ReplicaSet} {handles : List Handle} (table : set.table = quest.table)
    (asked : set.fanOut targets request = .ok (exchange, handles)) (distinct : targets.Nodup)
    (ready : ∀ row ∈ quest.table, quest.Ready log cluster request row.2) (number clock : Nat) :
    quest.Flight log cluster
      (handles.map fun handle =>
        { exchange := number, handle, request := exchange.request, due := clock + handle.delay })
      number targets exchange := by
  obtain ⟨rfl, names, known⟩ := ReplicaSet.fan_out_asks asked
  rw [table] at known
  have parcels : (handles.map fun handle =>
      ({ exchange := number, handle, request, due := clock + handle.delay } : Parcel)).map
        (·.handle.qualifier) = targets := by
    simp [List.map_map, Function.comp_def, names]
  constructor
  case posted =>
    intro parcel member
    obtain ⟨handle, inside, rfl⟩ := List.mem_map.mp member
    exact ⟨rfl, rfl, known handle inside⟩
  case stands =>
    intro parcel member
    obtain ⟨handle, inside, rfl⟩ := List.mem_map.mp member
    exact .unsent (ready _ (known handle inside))
  case answers => simp
  case outstanding => simp
  case distinct =>
    rw [parcels]
    simpa using distinct
  case complete =>
    rw [parcels]
    simp
  case plain => rfl
  case waits => rfl
  case looked => exact fun looked => absurd rfl looked
  case settled => exact fun _ => rfl
  case spared =>
    intro _ _ _ _
    refine ⟨rfl, ?_⟩
    intro parcel member call lost
    obtain ⟨handle, _, rfl⟩ := List.mem_map.mp member
    cases lost

theorem Flight.answered (flight : quest.Flight log cluster parcels number targets exchange)
    (looked : exchange.next = .replies) :
    (exchange.collector.responses.map (·.1)).Perm targets := by
  have landed := flight.looked (by simp [looked])
  subst landed
  exact flight.complete (flight.settled looked)

/-- The replies to a request for reservations, as offers of what is held. -/
theorem Flight.offers {pattern : String}
    (flight : quest.Flight log cluster parcels number targets exchange)
    (asks : exchange.request = .reserve pattern quest.taker.client) (fair : quest.Fair) :
    ∃ offers : List (String × List String),
      exchange.collector.responses = offers.map (fun offer => (offer.1, .reserved offer.2)) ∧
      ∀ offer ∈ offers, ∀ place, (offer.1, place) ∈ quest.table →
        ∀ tuple ∈ offer.2, tuple ∈ cluster.held quest.taker.client place := by
  have given : ∀ reply ∈ exchange.collector.responses, ∃ tuples,
      reply.2 = .reserved tuples ∧ ∀ place, (reply.1, place) ∈ quest.table →
        ∀ tuple ∈ tuples, tuple ∈ cluster.held quest.taker.client place := by
    intro reply member
    obtain ⟨place, answer, row, same, leaves⟩ := flight.answers reply member
    rw [asks] at same
    rw [Quest.Leaves, asks] at leaves
    cases leaves with
    | @reserved _ tuples kept =>
        refine ⟨tuples, same, ?_⟩
        intro other there
        rw [← fair.place_eq row there]
        exact kept
  refine ⟨exchange.collector.responses.map fun reply =>
    (reply.1, reply.2.reserved?.getD []), ?_, ?_⟩
  · rw [List.map_map]
    conv_lhs => rw [← List.map_id exchange.collector.responses]
    apply List.map_congr_left
    rintro ⟨name, response⟩ member
    obtain ⟨tuples, same, _⟩ := given _ member
    change response = .reserved tuples at same
    subst same
    rfl
  · intro offer member
    obtain ⟨⟨name, response⟩, inside, rfl⟩ := List.mem_map.mp member
    obtain ⟨tuples, same, held⟩ := given _ inside
    change response = .reserved tuples at same
    subst same
    exact held

theorem Flight.acknowledged
    (flight : quest.Flight log cluster parcels number targets exchange)
    (asks : ∀ pattern client, exchange.request ≠ .reserve pattern client) :
    ∀ reply ∈ exchange.collector.responses, reply.2.isAcknowledgement = true := by
  intro reply member
  obtain ⟨place, answer, _, same, leaves⟩ := flight.answers reply member
  rw [same]
  unfold Quest.Leaves at leaves
  generalize exchange.request = request at asks leaves
  cases leaves with
  | reserved _ => exact absurd rfl (asks _ _)
  | released => rfl
  | removed _ _ => rfl

theorem Flight.removed {tuple : String}
    (flight : quest.Flight log cluster parcels number (quest.table.map (·.1)) exchange)
    (asks : exchange.request = .commit tuple quest.taker.client)
    (looked : exchange.next = .replies) (fair : quest.Fair) :
    ∀ row ∈ quest.table, ∃ earlier,
      removals row.2 log = earlier ++ [tuple] ∧ (quest.Clean → earlier = []) := by
  rintro ⟨name, place⟩ row
  have replied := (flight.answered looked).mem_iff.mpr (List.mem_map.mpr ⟨_, row, rfl⟩)
  obtain ⟨⟨_, response⟩, member, rfl⟩ := List.mem_map.mp replied
  obtain ⟨other, answer, there, _, leaves⟩ := flight.answers _ member
  rw [fair.place_eq there row, Quest.Leaves, asks] at leaves
  cases leaves with
  | @removed _ earlier last fresh => exact ⟨earlier, last, fresh⟩

end Quest

end TupleSpace
