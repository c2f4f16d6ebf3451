import Mathlib.Data.List.Pairwise
import TupleSpace.Proofs.ClientCalls
import TupleSpace.Proofs.NetworkHistory
import TupleSpace.Proofs.StoreConservation

/-!
# Work done for a job

Jobs of one session send requests that look alike, so the tasks that a replica works on do not tell
for whom it works. A chronicle is a history that tells it: every step of a call is noted with the
job that has posted the request. In a network without faults every call that is made stays with one
request, so this is known for as long as the request is not answered.
-/

namespace TupleSpace

structure Labour where
  job? : Option Nat
  place : Nat
  replica : Replica
  task : Task
deriving DecidableEq

/-- The tuples that a job has had treated in some way at a replica. -/
def doneFor (select : StoreEvent → Option String) (log : List Labour) (job place : Nat) :
    List String :=
  log.filterMap fun labour =>
    if labour.job? = some job ∧ labour.place = place then
      select (labour.replica.event labour.task)
    else none

def poster? (record : List Deed) (exchange : Nat) : Option Nat :=
  record.findSome? fun
    | .posts job posted _ => if posted = exchange then some job else none
    | _ => none

def ParcelState.call? : ParcelState → Option Nat
  | unsent => none
  | delivered call _ => some call

def Parcel.IsAt (parcel : Parcel) (place call : Nat) : Prop :=
  parcel.handle.node = place ∧ parcel.state.call? = some call

instance (parcel : Parcel) (place call : Nat) : Decidable (parcel.IsAt place call) :=
  inferInstanceAs (Decidable (_ ∧ _))

namespace Network

/-- The job whose request a call carries out. -/
def employer? (network : Network) (record : List Deed) (place call : Nat) : Option Nat :=
  (network.parcels.find? (·.IsAt place call)).bind fun parcel => poster? record parcel.exchange

def labours (network : Network) (record : List Deed) : Occurrence → List Labour
  | .event (.work place call) =>
      match network.cluster.nodes[place]? with
      | some node =>
          match node.service.calls[call]? with
          | some (.running task) =>
              [⟨network.employer? record place call, place, node.service.replica, task⟩]
          | _ => []
      | none => []
  | _ => []

inductive Chronicle (first : Network) : List Deed → List Labour → Network → Prop
  | start : Chronicle first [] [] first
  | step {record deeds : List Deed} {log : List Labour} {network next : Network}
      {occurrence : Occurrence} (earlier : Chronicle first record log network)
      (undergone : network.undergo? occurrence = some (deeds, next)) :
      Chronicle first (record ++ deeds) (log ++ network.labours record occurrence) next

def relate? (network : Network) (record : List Deed) (log : List Labour) :
    List Occurrence → Option (List Deed × List Labour × Network)
  | [] => some (record, log, network)
  | occurrence :: rest =>
      (network.undergo? occurrence).bind fun step =>
        step.2.relate? (record ++ step.1) (log ++ network.labours record occurrence) rest

theorem chronicle_of_relate {first network last : Network} {occurrences : List Occurrence}
    {record record' : List Deed} {log log' : List Labour}
    (earlier : Chronicle first record log network)
    (related : network.relate? record log occurrences = some (record', log', last)) :
    Chronicle first record' log' last := by
  induction occurrences generalizing network record log with
  | nil =>
      cases related
      exact earlier
  | cons occurrence rest induction =>
      obtain ⟨⟨deeds, next⟩, undergone, later⟩ := Option.bind_eq_some_iff.mp related
      exact induction (.step earlier undergone) later

end Network

/-! ## The log of a job -/

section Done

variable {select : StoreEvent → Option String} {log labours : List Labour} {job place : Nat}

theorem done_append : doneFor select (log ++ labours) job place =
    doneFor select log job place ++ doneFor select labours job place :=
  List.filterMap_append

theorem done_nothing (others : ∀ labour ∈ labours, labour.job? ≠ some job) :
    doneFor select labours job place = [] := by
  refine List.filterMap_eq_nil_iff.mpr fun labour member => ?_
  rw [if_neg fun both => others labour member both.1]

theorem done_one (replica : Replica) (task : Task) (other : Nat) :
    doneFor select [⟨some job, other, replica, task⟩] job place =
      if other = place then (select (replica.event task)).toList else [] := by
  unfold doneFor
  rw [List.filterMap_cons, List.filterMap_nil]
  by_cases same : other = place
  · simp only [same, and_self, if_true]
    cases select (replica.event task) <;> rfl
  · simp [same]

end Done

section Posters

variable {record deeds : List Deed} {exchange job : Nat}

theorem poster_append : poster? (record ++ deeds) exchange =
    (poster? record exchange).or (poster? deeds exchange) :=
  List.findSome?_append

theorem poster_still (posted : poster? record exchange = some job) :
    poster? (record ++ deeds) exchange = some job := by
  rw [poster_append, posted, Option.some_or]

theorem posts_of_poster (posted : poster? record exchange = some job) :
    ∃ requests, .posts job exchange requests ∈ record := by
  obtain ⟨deed, member, found⟩ := List.exists_of_findSome?_eq_some posted
  cases deed with
  | posts poster number requests =>
      dsimp only at found
      split at found
      · rename_i same
        cases found
        exact ⟨requests, same ▸ member⟩
      · cases found
  | begins _ _ _ _ => cases found
  | reaches _ _ _ => cases found
  | works _ _ _ => cases found

theorem poster_of_unposted (unposted : ∀ job requests, .posts job exchange requests ∉ record) :
    poster? record exchange = none := by
  cases posted : poster? record exchange with
  | none => rfl
  | some job =>
      obtain ⟨requests, member⟩ := posts_of_poster posted
      exact absurd member (unposted job requests)

end Posters

/-! ## Calls -/

namespace CallState

/-- A state that only a step of the call itself can change. -/
def IsAwake : CallState → Prop
  | running _ | finished _ => True
  | parked _ _ => False

theorem IsAwake.woken {state : CallState} (awake : state.IsAwake) (signals : List Signal) :
    state.woken signals = state := by
  cases state with
  | running task => rfl
  | finished result => rfl
  | parked task signal => exact awake.elim

def ofTask : Except StoreError Task → CallState
  | .ok task => running task
  | .error cause => finished (.error cause)

end CallState

namespace Cluster

/-- The calls of some parcels are as far as they were, unless they were parked. -/
def Spares (cluster next : Cluster) (parcels : List Parcel) : Prop :=
  ∀ parcel ∈ parcels, ∀ (call : Nat) (state : CallState), parcel.state.call? = some call →
    cluster.call? parcel.handle.node call = some state → state.IsAwake →
      next.call? parcel.handle.node call = some state

variable {cluster : Cluster} {parcels : List Parcel} {place call : Nat} {node : Node}

theorem Spares.refl (cluster : Cluster) (parcels : List Parcel) : cluster.Spares cluster parcels :=
  fun _ _ _ _ _ found _ => found

theorem spares_called (target : cluster.nodes[place]? = some node)
    (task : Except StoreError Task) (parcels : List Parcel) :
    cluster.Spares (cluster.setNode place { node with service := node.service.call task })
      parcels := by
  intro parcel _ call state _ found _
  rw [call_set target]
  split
  · rename_i here
    rw [← here, call_at target] at found
    simp only [Service.call]
    rw [List.getElem?_append_left (List.getElem?_eq_some_iff.mp found).1]
    exact found
  · exact found

theorem spares_worked {service : Service} {task : Task} (parcels : List Parcel)
    (target : cluster.nodes[place]? = some node)
    (running : node.service.calls[call]? = some (.running task))
    (stepped : node.service.step? call = some service)
    (others : ∀ parcel ∈ parcels, ¬parcel.IsAt place call) :
    cluster.Spares (cluster.setNode place { node with service }) parcels := by
  intro parcel member index state made found awake
  rw [call_set target]
  split
  · rename_i here
    have apart : call ≠ index := fun same => others parcel member ⟨here.symm, same ▸ made⟩
    rw [← here, call_at target] at found
    rw [(worked_calls running stepped).2 index, if_neg apart, found, Option.map_some,
      awake.woken]
  · exact found

theorem reaches_set {next : Node} {other : Nat} (target : cluster.nodes[place]? = some node)
    (outage : next.outage? = node.outage?) (reaches : cluster.Reaches other) :
    (cluster.setNode place next).Reaches other := by
  obtain ⟨reached, there, up⟩ := reaches
  by_cases here : place = other
  · subst other
    rw [target] at there
    cases there
    exact ⟨next, by rw [node_set target, if_pos rfl], outage.trans up⟩
  · exact ⟨reached, by rw [node_set target, if_neg here]; exact there, up⟩

end Cluster

/-! ## What happens without faults -/

namespace Network

/-- What may happen next in a network without faults. No answer is made up or lost, and a request
is given up only if its replica is out of reach. -/
inductive Befalls (network : Network) (record : List Deed) :
    List Deed → List Labour → Network → Prop
  | refused {index : Nat} {parcel : Parcel} {sent : List (String × Request)} {faults : List Fault}
      {cause : TransportError} (found : network.parcels[index]? = some parcel)
      (unsent : parcel.state = .unsent) (left : faults ⊆ network.faults)
      (away : ¬network.cluster.Reaches parcel.handle.node) :
      Befalls network record [] []
        ({ network with sent, faults }.record index parcel (.error cause))
  | delivered {index : Nat} {parcel : Parcel} {sent : List (String × Request)}
      {faults : List Fault} {node : Node} (found : network.parcels[index]? = some parcel)
      (unsent : parcel.state = .unsent) (left : faults ⊆ network.faults)
      (target : network.cluster.nodes[parcel.handle.node]? = some node) :
      Befalls network record [.reaches parcel.exchange parcel.handle.node parcel.request] []
        { network with
          sent
          faults
          cluster := network.cluster.setNode parcel.handle.node
            { node with service := node.service.call parcel.request.task }
          parcels := network.parcels.set index
            { parcel with state := .delivered node.service.calls.length false } }
  | worked {place call : Nat} {node : Node} {task : Task} {service : Service}
      (target : network.cluster.nodes[place]? = some node)
      (running : node.service.calls[call]? = some (.running task))
      (stepped : node.service.step? call = some service) :
      Befalls network record [.works place node.service.replica task]
        [⟨network.employer? record place call, place, node.service.replica, task⟩]
        { network with cluster := network.cluster.setNode place { node with service } }
  | received {index : Nat} {parcel : Parcel} {answer : Except TransportError Reply}
      (found : network.parcels[index]? = some parcel)
      (answered : network.answer? parcel = some answer) :
      Befalls network record [] [] (network.record index parcel answer)
  | advanced {index : Nat} {job : Job} {posted? : Option (List Parcel)} {next : Network}
      (advances : Advances network index job posted?)
      (changes : network.Changes next index job posted?) :
      Befalls network record (network.posting index posted?) [] next
  | passed {milliseconds : Nat} : Befalls network record [] [] (network.pass milliseconds)
  | begun {session : Nat} {command : Command} {job : Job} {sequencer : Sequencer}
      {next : Network} (begins : Begins network session command job sequencer)
      (adds : network.Adds next job sequencer) :
      Befalls network record [.begins network.jobs.length session command job.operation?] [] next

variable {first network next : Network} {record deeds : List Deed} {log labours : List Labour}
  {job : Nat}

theorem unthreatened (faultless : network.faults = []) {effect : FaultEffect} {procedure : String} :
    ¬network.Threatens effect procedure := by
  rintro ⟨fault, member, _⟩
  rw [faultless] at member
  cases member

theorem befalls_of_undergo (faultless : network.faults = []) {occurrence : Occurrence}
    (undergone : network.undergo? occurrence = some (deeds, next)) :
    network.Befalls record deeds (network.labours record occurrence) next := by
  cases occurrence with
  | begin session command =>
      obtain ⟨job, sequencer, begins, adds⟩ := network.begin_adds session command
      cases undergone
      have last : (network.begin session command).jobs[network.jobs.length]? = some job := by
        simp [adds.jobs]
      rw [last]
      exact .begun begins adds
  | event event =>
      obtain ⟨last, performed, same⟩ := Option.map_eq_some_iff.mp undergone
      cases same
      cases event with
      | send index =>
          cases moves_of_send performed with
          | failed found unsent left why =>
              rw [deeds_recorded found]
              exact .refused found unsent left (why.resolve_left (unthreatened faultless))
          | forged found unsent left why => exact absurd why (unthreatened faultless)
          | @delivered _ parcel _ _ node isReplyLost found unsent left target up why =>
              have heard : isReplyLost = false := by
                cases isReplyLost with
                | false => rfl
                | true => exact absurd (why rfl) (unthreatened faultless)
              subst heard
              simp only [Network.deeds, found, List.length_set, if_true]
              exact .delivered found unsent left target
      | work place call =>
          obtain ⟨node, target, rest⟩ := Option.bind_eq_some_iff.mp performed
          obtain ⟨service, stepped, same⟩ := Option.bind_eq_some_iff.mp rest
          cases same
          have running := stepped
          unfold Service.step? at running
          split at running
          · rename_i task entry
            simp only [Network.deeds, labours, target, entry]
            exact .worked target entry stepped
          · cases running
      | receive index =>
          cases moves_of_perform performed with
          | received found answered => exact .received found answered
      | advance index =>
          obtain ⟨job, posted?, advances, changes⟩ := advance_changes performed
          rw [changes.deeds]
          exact .advanced advances changes
      | pass milliseconds =>
          cases performed
          exact .passed

theorem Befalls.happens (befalls : network.Befalls record deeds labours next) :
    network.Happens deeds next := by
  cases befalls with
  | refused found unsent left _ => exact .failed found unsent left
  | delivered found unsent left target => exact .delivered found unsent left target
  | worked target running stepped => exact .worked target running stepped
  | received found answered => exact .received found answered
  | advanced advances changes => exact .advanced advances changes
  | passed => exact .passed
  | begun begins adds => exact .begun begins adds

theorem Befalls.reaches (befalls : network.Befalls record deeds labours next) {place : Nat}
    (reaches : network.cluster.Reaches place) : next.cluster.Reaches place := by
  cases befalls with
  | refused => exact reaches
  | delivered _ _ _ target => exact Cluster.reaches_set target rfl reaches
  | worked target => exact Cluster.reaches_set target rfl reaches
  | received => exact reaches
  | advanced _ changes => exact changes.cluster ▸ reaches
  | passed => exact reaches
  | begun _ adds => exact adds.cluster ▸ reaches

/-! ## Parcels and calls -/

def Distinct (left right : Parcel) : Prop :=
  ∀ place call, left.IsAt place call → ¬right.IsAt place call

theorem Distinct.symm {left right : Parcel} (apart : Distinct left right) : Distinct right left :=
  fun place call there here => apart place call here there

instance : Std.Symm Distinct := ⟨fun _ _ => Distinct.symm⟩

/-- Whatever has happened in a network without faults, its parcels and calls are told apart, and
what was posted is known. -/
structure Traceable (network : Network) (record : List Deed) (log : List Labour) : Prop where
  faultless : network.faults = []
  numbered : network.Numbered
  posted : ∀ job exchange requests, .posts job exchange requests ∈ record →
    exchange < network.exchanges ∧ job < network.jobs.length
  begun : ∀ job session command operation?, .begins job session command operation? ∈ record →
    job < network.jobs.length
  employed : ∀ labour ∈ log, ∀ job, labour.job? = some job → job < network.jobs.length
  heard : ∀ parcel ∈ network.parcels, ∀ call isReplyLost,
    parcel.state = .delivered call isReplyLost → isReplyLost = false
  made : ∀ parcel ∈ network.parcels, ∀ place call, parcel.IsAt place call →
    (network.cluster.call? place call).isSome
  apart : network.parcels.Pairwise Distinct

theorem Traceable.start (faultless : network.faults = []) (still : network.parcels = []) :
    network.Traceable [] [] where
  faultless := faultless
  numbered := by simp [Numbered, still]
  posted := by simp
  begun := by simp
  employed := by simp
  heard := by simp [still]
  made := by simp [still]
  apart := by simp [still]

theorem Befalls.calls (befalls : network.Befalls record deeds labours next) {place call : Nat}
    (made : (network.cluster.call? place call).isSome) :
    (next.cluster.call? place call).isSome := by
  cases befalls with
  | refused => exact made
  | @delivered _ parcel _ _ node _ _ _ target =>
      rw [Cluster.call_set target]
      split
      · rename_i here
        rw [← here, Cluster.call_at target] at made
        have bound : call < node.service.calls.length := by simpa using made
        simp [Service.call, Nat.lt_succ_of_lt bound]
      · exact made
  | worked target running stepped =>
      rw [Cluster.call_set target]
      split
      · rename_i here
        rw [← here, Cluster.call_at target] at made
        rw [(Cluster.worked_calls running stepped).2 call]
        split
        · rfl
        · simpa using made
      · exact made
  | received => exact made
  | advanced _ changes => exact changes.cluster ▸ made
  | passed => exact made
  | begun _ adds => exact adds.cluster ▸ made

theorem Befalls.grows (befalls : network.Befalls record deeds labours next) :
    network.exchanges ≤ next.exchanges ∧ network.jobs.length ≤ next.jobs.length := by
  cases befalls with
  | refused => exact ⟨Nat.le_refl _, by simp [Network.record]⟩
  | delivered => exact ⟨Nat.le_refl _, Nat.le_refl _⟩
  | worked => exact ⟨Nat.le_refl _, Nat.le_refl _⟩
  | received => exact ⟨Nat.le_refl _, by simp [Network.record]⟩
  | advanced _ changes =>
      rw [changes.exchanges, changes.jobs, List.length_set]
      exact ⟨Nat.le_add_right _ _, Nat.le_refl _⟩
  | passed => exact ⟨Nat.le_refl _, Nat.le_refl _⟩
  | begun _ adds =>
      rw [adds.exchanges, adds.jobs, List.length_append]
      exact ⟨Nat.le_refl _, Nat.le_add_right _ _⟩

theorem Advances.inside {index : Nat} {after : Job} {posted? : Option (List Parcel)}
    (advances : Advances network index after posted?) : index < network.jobs.length := by
  cases advances with
  | woke found => exact (List.getElem?_eq_some_iff.mp found).1
  | unresolved found => exact (List.getElem?_eq_some_iff.mp found).1
  | began found => exact (List.getElem?_eq_some_iff.mp found).1
  | advanced found => exact (List.getElem?_eq_some_iff.mp found).1

/-- A job posts an exchange when it goes on, under a new number. -/
theorem Befalls.posts (befalls : network.Befalls record deeds labours next) {exchange : Nat}
    {requests : List (Nat × Request)} (posts : .posts job exchange requests ∈ deeds) :
    ∃ own posted, Advances network job own (some posted) ∧
      network.Changes next job own (some posted) ∧ exchange = network.exchanges := by
  cases befalls with
  | @advanced index own posted? _ advances changes =>
      cases posted? with
      | none => cases posts
      | some posted =>
          rw [posting, List.mem_singleton, Deed.posts.injEq] at posts
          obtain ⟨rfl, rfl, _⟩ := posts
          exact ⟨own, posted, advances, changes, rfl⟩
  | refused => cases posts
  | delivered => simp at posts
  | worked => simp at posts
  | received => cases posts
  | passed => cases posts
  | begun => simp at posts

theorem Befalls.posted (befalls : network.Befalls record deeds labours next) {exchange : Nat}
    {requests : List (Nat × Request)} (posts : .posts job exchange requests ∈ deeds) :
    exchange = network.exchanges ∧ exchange < next.exchanges ∧ job < network.jobs.length := by
  obtain ⟨own, posted, advances, changes, rfl⟩ := befalls.posts posts
  have started : next.exchanges = network.exchanges + 1 := changes.exchanges
  exact ⟨rfl, by omega, advances.inside⟩

theorem Befalls.begins (befalls : network.Befalls record deeds labours next) {session : Nat}
    {command : Command} {operation? : Option Operation}
    (begun : .begins job session command operation? ∈ deeds) :
    ∃ own sequencer, Begins network session command own sequencer ∧
      network.Adds next own sequencer ∧ job = network.jobs.length ∧
      deeds = [.begins job session command operation?] ∧ labours = [] := by
  cases befalls with
  | @begun _ _ own sequencer _ begins adds =>
      rw [List.mem_singleton, Deed.begins.injEq] at begun
      obtain ⟨rfl, rfl, rfl, rfl⟩ := begun
      exact ⟨own, sequencer, begins, adds, rfl, rfl, rfl⟩
  | advanced =>
      obtain ⟨_, _, same⟩ := posts_of_posting begun
      cases same
  | refused => cases begun
  | delivered => simp at begun
  | worked => simp at begun
  | received => cases begun
  | passed => cases begun

theorem Befalls.poster_kept (befalls : network.Befalls record deeds labours next) {exchange : Nat}
    (started : exchange < network.exchanges) :
    poster? (record ++ deeds) exchange = poster? record exchange := by
  have unposted : poster? deeds exchange = none := by
    refine poster_of_unposted fun poster requests posts => ?_
    have fresh := (befalls.posted posts).1
    omega
  rw [poster_append, unposted, Option.or_none]

theorem job_of_employer {place call : Nat} (traceable : network.Traceable record log)
    (employs : network.employer? record place call = some job) :
    job < network.jobs.length := by
  obtain ⟨parcel, _, posted⟩ := Option.bind_eq_some_iff.mp employs
  obtain ⟨requests, member⟩ := posts_of_poster posted
  exact (traceable.posted _ _ _ member).2

namespace Traceable

theorem parcels_heard (traceable : network.Traceable record log)
    (befalls : network.Befalls record deeds labours next) :
    ∀ parcel ∈ next.parcels, ∀ call isReplyLost,
      parcel.state = .delivered call isReplyLost → isReplyLost = false := by
  intro parcel member call isReplyLost state
  cases befalls with
  | refused => exact traceable.heard parcel (List.mem_of_mem_eraseIdx member) call _ state
  | received => exact traceable.heard parcel (List.mem_of_mem_eraseIdx member) call _ state
  | worked => exact traceable.heard parcel member call _ state
  | passed => exact traceable.heard parcel member call _ state
  | begun _ adds => exact traceable.heard parcel (adds.parcels ▸ member) call _ state
  | delivered =>
      rcases List.mem_or_eq_of_mem_set member with old | rfl
      · exact traceable.heard parcel old call _ state
      · exact (ParcelState.delivered.inj state).2.symm
  | advanced advances changes =>
      rw [changes.parcels] at member
      rcases List.mem_append.mp member with old | fresh
      · exact traceable.heard parcel old call _ state
      · rw [(advances.posted_fresh parcel fresh).2] at state
        cases state

theorem parcels_made (traceable : network.Traceable record log)
    (befalls : network.Befalls record deeds labours next) :
    ∀ parcel ∈ next.parcels, ∀ place call, parcel.IsAt place call →
      (next.cluster.call? place call).isSome := by
  intro parcel member place call there
  have before : parcel ∈ network.parcels → (next.cluster.call? place call).isSome := fun old =>
    befalls.calls (traceable.made parcel old place call there)
  cases befalls with
  | refused => exact before (List.mem_of_mem_eraseIdx member)
  | received => exact before (List.mem_of_mem_eraseIdx member)
  | worked => exact before member
  | passed => exact before member
  | begun _ adds => exact before (adds.parcels ▸ member)
  | @delivered _ moved _ _ node found _ _ target =>
      rcases List.mem_or_eq_of_mem_set member with old | rfl
      · exact before old
      · obtain ⟨rfl, made⟩ := there
        cases made
        have called := Cluster.call_made target moved.request.task
        simp only [called, Option.isSome_some]
  | advanced advances changes =>
      rw [changes.parcels] at member
      rcases List.mem_append.mp member with old | fresh
      · exact before old
      · have unsent := (advances.posted_fresh parcel fresh).2
        rw [Parcel.IsAt, unsent] at there
        cases there.2

theorem parcels_apart (traceable : network.Traceable record log)
    (befalls : network.Befalls record deeds labours next) : next.parcels.Pairwise Distinct := by
  have apart := traceable.apart
  cases befalls with
  | refused => exact apart.sublist (List.eraseIdx_sublist ..)
  | received => exact apart.sublist (List.eraseIdx_sublist ..)
  | worked => exact apart
  | passed => exact apart
  | begun _ adds => exact adds.parcels ▸ apart
  | @delivered index moved _ _ node found _ _ target =>
      have bound := (List.getElem?_eq_some_iff.mp found).1
      refine (List.Perm.pairwise_iff Distinct.symm (List.set_perm_cons_eraseIdx bound _)).mpr ?_
      refine List.pairwise_cons.mpr ⟨?_, apart.sublist (List.eraseIdx_sublist ..)⟩
      rintro other member place call ⟨rfl, made⟩ there
      cases made
      have known := traceable.made other (List.mem_of_mem_eraseIdx member) _ _ there
      rw [Cluster.call_at target] at known
      simp at known
  | advanced advances changes =>
      rw [changes.parcels]
      refine List.pairwise_append.mpr ⟨apart, ?_, ?_⟩
      · refine List.pairwise_of_forall_mem_list ?_
        intro left member right _ place call here
        rw [Parcel.IsAt, (advances.posted_fresh left member).2] at here
        cases here.2
      · intro left _ right member place call _ there
        rw [Parcel.IsAt, (advances.posted_fresh right member).2] at there
        cases there.2

theorem befalls (traceable : network.Traceable record log)
    (befalls : network.Befalls record deeds labours next) :
    next.Traceable (record ++ deeds) (log ++ labours) where
  faultless := by
    have left := befalls.happens.faults
    rw [traceable.faultless] at left
    exact List.subset_nil.mp left
  numbered := befalls.happens.numbered traceable.numbered
  posted := by
    intro job exchange requests member
    have grows := befalls.grows
    rcases List.mem_append.mp member with old | new
    · have known := traceable.posted _ _ _ old
      exact ⟨by omega, by omega⟩
    · have posted := befalls.posted new
      exact ⟨posted.2.1, by omega⟩
  begun := by
    intro job session command operation? member
    have grows := befalls.grows
    rcases List.mem_append.mp member with old | new
    · have known := traceable.begun _ _ _ _ old
      omega
    · obtain ⟨own, sequencer, _, adds, rfl, _⟩ := befalls.begins new
      rw [adds.jobs, List.length_append, List.length_singleton]
      omega
  employed := by
    intro labour member job employs
    have grows := befalls.grows
    rcases List.mem_append.mp member with old | new
    · have known := traceable.employed labour old job employs
      omega
    · cases befalls with
      | worked =>
          rw [List.mem_singleton.mp new] at employs
          have known := job_of_employer traceable employs
          omega
      | _ => cases new
  heard := traceable.parcels_heard befalls
  made := traceable.parcels_made befalls
  apart := traceable.parcels_apart befalls

theorem poster_posting (traceable : network.Traceable record log) (index : Nat)
    (posted : List Parcel) :
    poster? (record ++ network.posting index (some posted)) network.exchanges = some index := by
  have unposted : poster? record network.exchanges = none := by
    refine poster_of_unposted fun poster requests posts => ?_
    have old := (traceable.posted _ _ _ posts).1
    omega
  rw [poster_append, unposted, Option.none_or]
  simp [posting, poster?]

/-- Two parcels that were made the same call are the same. -/
theorem parcel_at (traceable : network.Traceable record log) {parcel other : Parcel}
    {place call : Nat} (inside : parcel ∈ network.parcels) (member : other ∈ network.parcels)
    (here : parcel.IsAt place call) (there : other.IsAt place call) : parcel = other := by
  by_contra different
  exact traceable.apart.forall inside member different place call here there

end Traceable

/-! ## From the first network on -/

/-- A network that goes back to one without faults. -/
structure Stems (first network : Network) (record : List Deed) (log : List Labour) : Prop where
  traceable : network.Traceable record log
  descends : first.Descends network
  reaches : ∀ place, first.cluster.Reaches place → network.cluster.Reaches place

theorem Stems.befalls (stems : first.Stems network record log)
    (befalls : network.Befalls record deeds labours next) :
    first.Stems next (record ++ deeds) (log ++ labours) where
  traceable := stems.traceable.befalls befalls
  descends := stems.descends.happens befalls.happens
  reaches := fun place reached => befalls.reaches (stems.reaches place reached)

theorem Stems.continues (stems : first.Stems network record log) {index : Nat}
    {session later : Session} (there : first.sessions[index]? = some session)
    (found : network.sessions[index]? = some later) : Continues first network session later := by
  obtain ⟨before, known, continues⟩ := stems.descends.upholds.session_before found
  rw [there] at known
  cases known
  exact continues

namespace Chronicle

variable {last : Network} {session : Nat} {command : Command} {operation? : Option Operation}

theorem stems (chronicle : Chronicle first record log network) (faultless : first.faults = [])
    (still : first.parcels = []) : first.Stems network record log := by
  induction chronicle with
  | start => exact ⟨.start faultless still, .refl (by simp [Numbered, still]), fun _ => id⟩
  | step _ undergone induction =>
      exact induction.befalls (befalls_of_undergo induction.traceable.faultless undergone)

/-- What a job keeps to from its beginning, through all that befalls the network, it keeps to. -/
theorem kept_from_begin (keeps : Network → List Deed → List Labour → Prop)
    (chronicle : Chronicle first record log last) (faultless : first.faults = [])
    (still : first.parcels = []) (begun : .begins job session command operation? ∈ record)
    (starts : ∀ {network next : Network} {record : List Deed} {log : List Labour} {own : Job}
      {sequencer : Sequencer}, first.Stems network record log →
        Begins network session command own sequencer → network.Adds next own sequencer →
        network.jobs.length = job → keeps next (record ++ [.begins job session command operation?])
          log)
    (goes : ∀ {network next : Network} {record deeds : List Deed} {log labours : List Labour},
      first.Stems network record log → job < network.jobs.length →
        network.Befalls record deeds labours next → keeps network record log →
        keeps next (record ++ deeds) (log ++ labours)) : keeps last record log := by
  induction chronicle with
  | start => cases begun
  | @step record deeds log network next occurrence earlier undergone induction =>
      have stems := earlier.stems faultless still
      have befalls : network.Befalls record deeds (network.labours record occurrence) next :=
        befalls_of_undergo stems.traceable.faultless undergone
      rcases List.mem_append.mp begun with old | new
      · exact goes stems (stems.traceable.begun _ _ _ _ old) befalls (induction old)
      · obtain ⟨own, sequencer, begins, adds, last, same, none⟩ := befalls.begins new
        rw [same, none, List.append_nil]
        exact starts stems begins adds last.symm

end Chronicle

theorem Traceable.done_before (traceable : network.Traceable record log)
    (unknown : network.jobs.length ≤ job) (select : StoreEvent → Option String) (place : Nat) :
    doneFor select log job place = [] := by
  refine done_nothing fun labour member own => ?_
  have known := traceable.employed labour member job own
  omega

end Network

end TupleSpace
