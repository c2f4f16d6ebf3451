import TupleSpace.Proofs.JobWork

/-!
# The mail of a job

In a network without faults all that concerns a job is its mail, the requests of its own that are
not answered yet. Whatever befalls the network does one of a few things to the mail, and nothing
else that the job could tell.
-/

namespace TupleSpace

def mail (record : List Deed) (job : Nat) (parcels : List Parcel) : List Parcel :=
  parcels.filter fun parcel => poster? record parcel.exchange = some job

namespace Network

variable {network next : Network} {record deeds : List Deed} {log labours : List Labour} {job : Nat}

theorem Traceable.employer_of_mail (traceable : network.Traceable record log) {parcel : Parcel}
    {place call : Nat} (inside : parcel ∈ mail record job network.parcels)
    (here : parcel.IsAt place call) : network.employer? record place call = some job := by
  obtain ⟨member, posted⟩ := List.mem_filter.mp inside
  unfold employer?
  cases found : network.parcels.find? (·.IsAt place call) with
  | none => exact absurd here (by simpa using List.find?_eq_none.mp found parcel member)
  | some other =>
      have there : other.IsAt place call := by simpa using List.find?_some found
      have same := traceable.parcel_at (List.mem_of_find?_eq_some found) member there here
      rw [Option.bind_some, same]
      simpa using posted

theorem mail_of_employer {place call : Nat}
    (employs : network.employer? record place call = some job) :
    ∃ parcel ∈ mail record job network.parcels, parcel.IsAt place call := by
  obtain ⟨parcel, found, posted⟩ := Option.bind_eq_some_iff.mp employs
  exact ⟨parcel, List.mem_filter.mpr ⟨List.mem_of_find?_eq_some found, by simpa using posted⟩,
    by simpa using List.find?_some found⟩

section Mail

variable {parcels posted : List Parcel} {parcel : Parcel} {index : Nat}

theorem mail_apart (record : List Deed) (job : Nat) (found : parcels[index]? = some parcel) :
    (mail record job parcels).Perm (mail record job (parcel :: parcels.eraseIdx index)) := by
  obtain ⟨bound, same⟩ := List.getElem?_eq_some_iff.mp found
  subst same
  exact (List.getElem_cons_eraseIdx_perm bound).symm.filter _

theorem mail_set (record : List Deed) (job : Nat) (found : parcels[index]? = some parcel)
    (later : Parcel) :
    (mail record job (parcels.set index later)).Perm
      (mail record job (later :: parcels.eraseIdx index)) :=
  (List.set_perm_cons_eraseIdx (List.getElem?_eq_some_iff.mp found).1 later).filter _

theorem mail_unposted
    (unposted : ∀ poster exchange requests, .posts poster exchange requests ∉ deeds) :
    mail (record ++ deeds) job parcels = mail record job parcels := by
  refine List.filter_congr fun parcel _ => ?_
  rw [poster_append, poster_of_unposted fun poster => unposted poster parcel.exchange,
    Option.or_none]

theorem mail_own (own : poster? record parcel.exchange = some job) :
    mail record job (parcel :: parcels) = parcel :: mail record job parcels := by
  simp [mail, own]

theorem mail_other (other : poster? record parcel.exchange ≠ some job) :
    mail record job (parcel :: parcels) = mail record job parcels := by
  simp [mail, other]

end Mail

/-- What befalls a network, as far as it concerns a job with its mail. Of the other jobs it matters
only that they never have an answer recorded to an exchange of this one. -/
inductive Affects (network next : Network) (record deeds : List Deed) (job : Nat)
    (before after : List Parcel) : List Labour → Prop
  | apart {labours : List Labour} (same : after.Perm before)
      (spares : network.cluster.Spares next.cluster before)
      (others : ∀ labour ∈ labours, labour.job? ≠ some job)
      (still : next.jobs[job]? = network.jobs[job]? ∨
        ∃ exchange replica answer, poster? record exchange ≠ some job ∧
          next.jobs[job]? = (network.jobs[job]?).map (.record exchange replica answer)) :
      Affects network next record deeds job before after labours
  | refused {parcel : Parcel} (inside : parcel ∈ before)
      (away : ¬network.cluster.Reaches parcel.handle.node) :
      Affects network next record deeds job before after []
  | delivered {parcel : Parcel} {rest : List Parcel} {call : Nat}
      (split : before.Perm (parcel :: rest))
      (moved : after.Perm ({ parcel with state := .delivered call false } :: rest))
      (made : next.cluster.call? parcel.handle.node call = some (.ofTask parcel.request.task))
      (spares : network.cluster.Spares next.cluster rest)
      (unsent : parcel.state = .unsent) (still : next.jobs[job]? = network.jobs[job]?) :
      Affects network next record deeds job before after []
  | worked {parcel : Parcel} {rest : List Parcel} {call : Nat} {replica : Replica} {task : Task}
      (split : before.Perm (parcel :: rest)) (same : after = before)
      (state : parcel.state.call? = some call)
      (running : network.cluster.call? parcel.handle.node call = some (.running task))
      (moved : next.cluster.call? parcel.handle.node call =
        some ((CallState.ofMove task (replica.step task).move).woken (replica.step task).signals))
      (spares : network.cluster.Spares next.cluster rest)
      (still : next.jobs[job]? = network.jobs[job]?) :
      Affects network next record deeds job before after
        [⟨some job, parcel.handle.node, replica, task⟩]
  | received {parcel : Parcel} {rest : List Parcel} {call : Nat}
      {result : Except StoreError Answer} (split : before.Perm (parcel :: rest))
      (fewer : after.Perm rest) (state : parcel.state.call? = some call)
      (finished : network.cluster.call? parcel.handle.node call = some (.finished result))
      (same : next.cluster = network.cluster)
      (told : next.jobs[job]? = (network.jobs[job]?).map (.record parcel.exchange
        parcel.handle.qualifier (.ok (parcel.request.reply result)))) :
      Affects network next record deeds job before after []
  | advanced {own : Job} {posted? : Option (List Parcel)}
      (advances : Advances network job own posted?) (now : next.jobs[job]? = some own)
      (posted : after = before ++ posted?.getD [])
      (posts : posted?.isSome → poster? (record ++ deeds) network.exchanges = some job)
      (same : next.cluster = network.cluster) :
      Affects network next record deeds job before after []

theorem Traceable.answered (traceable : network.Traceable record log) {parcel : Parcel}
    {answer : Except TransportError Reply} (inside : parcel ∈ network.parcels)
    (answered : network.answer? parcel = some answer) :
    ∃ call result, parcel.state.call? = some call ∧
      network.cluster.call? parcel.handle.node call = some (.finished result) ∧
        answer = .ok (parcel.request.reply result) := by
  unfold answer? at answered
  cases state : parcel.state with
  | unsent =>
      rw [state] at answered
      cases answered
  | delivered call isReplyLost =>
      rw [state, traceable.heard parcel inside call isReplyLost state] at answered
      obtain ⟨node, target, rest⟩ := Option.bind_eq_some_iff.mp answered
      obtain ⟨result, finished, same⟩ := Option.bind_eq_some_iff.mp rest
      cases same
      obtain ⟨found, there, result_eq⟩ := Option.bind_eq_some_iff.mp finished
      refine ⟨call, result, rfl, ?_, rfl⟩
      rw [Cluster.call_at target, there]
      cases found with
      | finished other =>
          cases result_eq
          rfl
      | running task => cases result_eq
      | parked task signal => cases result_eq

theorem Traceable.mail_kept (traceable : network.Traceable record log) (job : Nat)
    (befalls : network.Befalls record deeds labours next) {parcels : List Parcel}
    (known : parcels ⊆ network.parcels) :
    mail (record ++ deeds) job parcels = mail record job parcels := by
  refine List.filter_congr fun parcel member => ?_
  rw [befalls.poster_kept (traceable.numbered parcel (known member))]

theorem record_idle {errand : Errand} (idle : errand.attempt? = none) (exchange : Nat)
    (replica : String) (answer : Except TransportError Reply) :
    errand.record exchange replica answer = errand := by
  obtain ⟨_, _, _, _, _, _, _⟩ := errand
  cases idle
  unfold Errand.record
  split <;> rfl

theorem record_job (network : Network) (index job : Nat) (parcel : Parcel)
    (answer : Except TransportError Reply) :
    (network.record index parcel answer).jobs[job]? =
      (network.jobs[job]?).map (.record parcel.exchange parcel.handle.qualifier answer) :=
  List.getElem?_map

/-- A parcel that is answered, or given up, is in the mail of one job. -/
private theorem Traceable.affects_recorded {sent : List (String × Request)} {faults : List Fault}
    {parcel : Parcel} {index : Nat} {answer : Except TransportError Reply}
    (found : network.parcels[index]? = some parcel)
    (other : poster? record parcel.exchange ≠ some job) :
    network.Affects ({ network with sent, faults }.record index parcel answer) record deeds job
      (mail record job network.parcels) (mail record job (network.parcels.eraseIdx index)) [] := by
  have same := mail_apart record job found
  rw [mail_other other] at same
  exact .apart same.symm (.refl _ _) (by simp) (Or.inr ⟨_, _, _, other, record_job _ _ _ _ _⟩)

private theorem Traceable.affects_worked {place call : Nat} {node : Node} {task : Task}
    {service : Service} (traceable : network.Traceable record log)
    (target : network.cluster.nodes[place]? = some node)
    (running : node.service.calls[call]? = some (.running task))
    (stepped : node.service.step? call = some service) :
    network.Affects { network with cluster := network.cluster.setNode place { node with service } }
      record deeds job (mail record job network.parcels) (mail record job network.parcels)
      [⟨network.employer? record place call, place, node.service.replica, task⟩] := by
  have apart : (mail record job network.parcels).Pairwise Distinct :=
    traceable.apart.sublist List.filter_sublist
  by_cases own : network.employer? record place call = some job
  · obtain ⟨parcel, inside, rfl, state⟩ := mail_of_employer own
    obtain ⟨before, behind, split⟩ := List.append_of_mem inside
    have front : (mail record job network.parcels).Perm (parcel :: (before ++ behind)) :=
      split ▸ List.perm_middle
    have others := List.pairwise_cons.mp ((front.pairwise_iff Distinct.symm).mp apart)
    have spares := Cluster.spares_worked (before ++ behind) target running stepped
      fun other member there => others.1 other member _ _ ⟨rfl, state⟩ there
    rw [own]
    refine .worked front rfl state ((Cluster.call_at target).trans running) ?_ spares rfl
    rw [Cluster.call_set target, if_pos rfl, (Cluster.worked_calls running stepped).2 call,
      if_pos rfl, Option.map_some]
  · have spares := Cluster.spares_worked (mail record job network.parcels) target running
      stepped fun parcel member there => own (traceable.employer_of_mail member there)
    exact .apart (.refl _) spares (by simpa using own) (Or.inl rfl)

private theorem Traceable.affects_delivered {sent : List (String × Request)} {faults : List Fault}
    {parcel : Parcel} {index : Nat} {node : Node}
    (found : network.parcels[index]? = some parcel) (unsent : parcel.state = .unsent)
    (target : network.cluster.nodes[parcel.handle.node]? = some node) :
    network.Affects
      { network with
        sent
        faults
        cluster := network.cluster.setNode parcel.handle.node
          { node with service := node.service.call parcel.request.task }
        parcels := network.parcels.set index
          { parcel with state := .delivered node.service.calls.length false } }
      record deeds job (mail record job network.parcels)
      (mail record job (network.parcels.set index
        { parcel with state := .delivered node.service.calls.length false })) [] := by
  have before := mail_apart record job found
  have after := mail_set record job found
    { parcel with state := .delivered node.service.calls.length false }
  have spares := fun parcels => Cluster.spares_called target parcel.request.task parcels
  have same : ({ parcel with state := .delivered node.service.calls.length false } :
    Parcel).exchange = parcel.exchange := rfl
  by_cases own : poster? record parcel.exchange = some job
  · rw [mail_own own] at before
    rw [mail_own (same ▸ own)] at after
    refine .delivered before after ?_ (spares _) unsent rfl
    rw [Cluster.call_made target]
    cases parcel.request.task <;> rfl
  · rw [mail_other own] at before
    rw [mail_other (same ▸ own)] at after
    exact .apart (after.trans before.symm) (spares _) (by simp) (Or.inl rfl)

private theorem Traceable.affects_advanced {index : Nat} {own : Job}
    {posted? : Option (List Parcel)} (traceable : network.Traceable record log)
    (advances : Advances network index own posted?)
    (changes : network.Changes next index own posted?) :
    network.Affects next record (network.posting index posted?) job
      (mail record job network.parcels)
      (mail (record ++ network.posting index posted?) job next.parcels) [] := by
  have befalls : network.Befalls record _ _ next := .advanced advances changes
  have fresh : ∀ parcel ∈ posted?.getD [],
      poster? (record ++ network.posting index posted?) parcel.exchange = some index := by
    intro parcel member
    rw [(advances.posted_fresh parcel member).1]
    cases posted? with
    | none => cases member
    | some posted => exact traceable.poster_posting index posted
  have later : mail (record ++ network.posting index posted?) job next.parcels =
      mail record job network.parcels ++
        mail (record ++ network.posting index posted?) job (posted?.getD []) := by
    rw [changes.parcels, mail, List.filter_append]
    congr 1
    exact traceable.mail_kept job befalls (List.Subset.refl _)
  rw [later]
  by_cases same : index = job
  · subst same
    have all : mail (record ++ network.posting index posted?) index (posted?.getD []) =
        posted?.getD [] :=
      List.filter_eq_self.mpr fun parcel member => by simpa using fresh parcel member
    rw [all]
    refine .advanced advances ?_ rfl ?_ changes.cluster
    · have inside := advances.inside
      simp [changes.jobs, inside]
    · intro started
      obtain ⟨posted, rfl⟩ := Option.isSome_iff_exists.mp started
      exact traceable.poster_posting index posted
  · have none : mail (record ++ network.posting index posted?) job (posted?.getD []) = [] := by
      refine List.filter_eq_nil_iff.mpr fun parcel member => ?_
      rw [fresh parcel member]
      simpa using same
    rw [none, List.append_nil]
    refine .apart (.refl _) (changes.cluster ▸ .refl _ _) (by simp) (Or.inl ?_)
    rw [changes.jobs, List.getElem?_set_ne same]

/-- Whatever befalls a network concerns a job in one of a few ways. -/
theorem Traceable.affects (traceable : network.Traceable record log)
    (befalls : network.Befalls record deeds labours next) (known : job < network.jobs.length) :
    network.Affects next record deeds job (mail record job network.parcels)
      (mail (record ++ deeds) job next.parcels) labours := by
  have kept := traceable.mail_kept job befalls (List.Subset.refl _)
  cases befalls with
  | @refused index parcel sent faults cause found unsent left away =>
      rw [List.append_nil]
      by_cases own : poster? record parcel.exchange = some job
      · refine .refused (List.mem_filter.mpr ⟨List.mem_of_getElem? found, ?_⟩) away
        simpa using own
      · exact Traceable.affects_recorded found own
  | @received index parcel answer found answered =>
      rw [List.append_nil]
      by_cases own : poster? record parcel.exchange = some job
      · obtain ⟨call, result, state, finished, rfl⟩ :=
          traceable.answered (List.mem_of_getElem? found) answered
        have split := mail_apart record job found
        rw [mail_own own] at split
        exact .received split (.refl _) state finished rfl (record_job _ _ _ _ _)
      · exact Traceable.affects_recorded found own
  | delivered found unsent left target =>
      rw [mail_unposted (by simp)]
      exact Traceable.affects_delivered found unsent target
  | worked target running stepped =>
      rw [kept]
      exact traceable.affects_worked target running stepped
  | advanced advances changes => exact traceable.affects_advanced advances changes
  | passed =>
      rw [List.append_nil]
      exact .apart (.refl _) (.refl _ _) (by simp) (Or.inl rfl)
  | begun _ adds =>
      rw [adds.parcels, kept]
      refine .apart (.refl _) (adds.cluster ▸ .refl _ _) (by simp) (Or.inl ?_)
      rw [adds.jobs, List.getElem?_append_left known]

theorem Traceable.mail_before (traceable : network.Traceable record log)
    (unknown : network.jobs.length ≤ job) (parcels : List Parcel) : mail record job parcels = [] := by
  refine List.filter_eq_nil_iff.mpr fun parcel _ own => ?_
  obtain ⟨requests, posts⟩ := posts_of_poster (of_decide_eq_true own)
  have known := (traceable.posted _ _ _ posts).2
  omega

theorem Traceable.mail_begun (traceable : network.Traceable record log)
    (unknown : network.jobs.length ≤ job) (parcels : List Parcel) (session : Nat)
    (command : Command) (operation? : Option Operation) :
    mail (record ++ [.begins job session command operation?]) job parcels = [] := by
  rw [mail_unposted (by simp)]
  exact traceable.mail_before unknown parcels

end Network

/-! ## Requests that are carried out in one step -/

/-- How a request that is carried out in one step fares. Something is true of its replica until
then, and something of the result from then on. -/
inductive Parcel.Bides (cluster : Cluster) (idle : Nat → Prop)
    (settled : Nat → Except StoreError Answer → Prop) (parcel : Parcel) : Prop
  | unsent (unsent : parcel.state = .unsent) (waits : idle parcel.handle.node)
  | running {call : Nat} {task : Task} (state : parcel.state.call? = some call)
      (made : parcel.request.task = .ok task)
      (running : cluster.call? parcel.handle.node call = some (.running task))
      (waits : idle parcel.handle.node)
  | finished {call : Nat} {result : Except StoreError Answer}
      (state : parcel.state.call? = some call)
      (finished : cluster.call? parcel.handle.node call = some (.finished result))
      (settled : settled parcel.handle.node result)

namespace Parcel.Bides

variable {cluster next : Cluster} {parcel : Parcel} {parcels : List Parcel} {call : Nat}
  {idle later : Nat → Prop} {settled afterwards : Nat → Except StoreError Answer → Prop}

theorem mono (bides : parcel.Bides cluster idle settled) (spares : cluster.Spares next parcels)
    (inside : parcel ∈ parcels) (waiting : idle parcel.handle.node → later parcel.handle.node)
    (settling : ∀ result, settled parcel.handle.node result →
      afterwards parcel.handle.node result) : parcel.Bides next later afterwards := by
  cases bides with
  | unsent unsent waits => exact .unsent unsent (waiting waits)
  | running state made running waits =>
      exact .running state made (spares parcel inside _ _ state running trivial) (waiting waits)
  | finished state finished settled =>
      exact .finished state (spares parcel inside _ _ state finished trivial)
        (settling _ settled)

theorem waits (bides : parcel.Bides cluster idle settled) (unsent : parcel.state = .unsent) :
    idle parcel.handle.node := by
  cases bides with
  | unsent _ waits => exact waits
  | running state => simp [unsent, ParcelState.call?] at state
  | finished state => simp [unsent, ParcelState.call?] at state

theorem delivered {isReplyLost : Bool} (bides : parcel.Bides cluster idle settled)
    (unsent : parcel.state = .unsent)
    (made : next.call? parcel.handle.node call = some (.ofTask parcel.request.task))
    (refused : ∀ cause, parcel.request.task = .error cause → idle parcel.handle.node →
      settled parcel.handle.node (.error cause)) :
    ({ parcel with state := .delivered call isReplyLost } : Parcel).Bides next idle settled := by
  have waits := bides.waits unsent
  cases asked : parcel.request.task with
  | ok task =>
      rw [asked] at made
      exact .running rfl asked made waits
  | error cause =>
      rw [asked] at made
      exact .finished rfl made (refused cause asked waits)

theorem of_running {task : Task} (bides : parcel.Bides cluster idle settled)
    (state : parcel.state.call? = some call)
    (running : cluster.call? parcel.handle.node call = some (.running task)) :
    parcel.request.task = .ok task ∧ idle parcel.handle.node := by
  cases bides with
  | unsent unsent => simp [unsent, ParcelState.call?] at state
  | running other made ran waits =>
      rw [state] at other
      cases other
      rw [running] at ran
      cases ran
      exact ⟨made, waits⟩
  | finished other finished =>
      rw [state] at other
      cases other
      rw [running] at finished
      cases finished

theorem of_finished {result : Except StoreError Answer} (bides : parcel.Bides cluster idle settled)
    (state : parcel.state.call? = some call)
    (finished : cluster.call? parcel.handle.node call = some (.finished result)) :
    settled parcel.handle.node result := by
  cases bides with
  | unsent unsent => simp [unsent, ParcelState.call?] at state
  | running other made running =>
      rw [state] at other
      cases other
      rw [finished] at running
      cases running
  | finished other past settled =>
      rw [state] at other
      cases other
      rw [finished] at past
      cases past
      exact settled

end Parcel.Bides

end TupleSpace
