import Mathlib.Data.List.Count
import TupleSpace.Proofs.JobMail
import TupleSpace.Proofs.Sorting

/-!
# Puts to replicas that share names

A client names the replicas that it sends a request to, and a name stands for the first replica that
has it. So of replicas that share a name the first is sent what is meant for all of them, and the
others are sent nothing. A put that succeeds has still had an answer for each.
-/

namespace TupleSpace

/-- The replicas of a table that the requests to all of its names go to. -/
def firstPlaces (table : List (String × Nat)) : List Nat :=
  table.filterMap fun row => table.lookup row.1

/-- The tuples that a job has had accepted at a replica: stored, or handed to a queued take. -/
def accepted (log : List Labour) (job place : Nat) : List String :=
  doneFor StoreEvent.accepted? log job place

/-! ## What is sent where -/

namespace ReplicaSet

variable {set : ReplicaSet} {handles : List Handle}

theorem lookup_table (handles : List Handle) (name : String) :
    (ReplicaSet.mk handles).table.lookup name =
      (handles.find? (fun handle => handle.qualifier == name)).map (·.node) := by
  induction handles with
  | nil => rfl
  | cons handle rest induction =>
      change ((handle.qualifier, handle.node) :: (ReplicaSet.mk rest).table).lookup name = _
      rw [List.lookup_cons, List.find?_cons, BEq.comm]
      cases handle.qualifier == name with
      | true => rfl
      | false => exact induction

theorem places_of_handles {targets : List String} (found : set.handlesOf targets = .ok handles) :
    handles.map (·.node) = targets.filterMap fun name => set.table.lookup name := by
  unfold handlesOf at found
  induction targets generalizing handles with
  | nil =>
      cases found
      rfl
  | cons name rest induction =>
      rw [List.mapM_cons] at found
      cases first : set.handle name with
      | error cause =>
          rw [first] at found
          cases found
      | ok handle =>
          cases others : rest.mapM set.handle with
          | error cause =>
              rw [first, others] at found
              cases found
          | ok tail =>
              rw [first, others] at found
              cases found
              have place : set.table.lookup name = some handle.node := by
                unfold ReplicaSet.handle at first
                split at first
                · rename_i named
                  cases first
                  rw [lookup_table set.handles name, named]
                  rfl
                · cases first
              rw [List.map_cons, List.filterMap_cons, place, induction others]

theorem places_asked (found : set.handlesOf set.qualifiers = .ok handles) :
    handles.map (·.node) = firstPlaces set.table := by
  rw [places_of_handles found, firstPlaces, qualifiers_eq, List.filterMap_map]
  rfl

end ReplicaSet

/-! ## A put under way -/

def Parcel.isOpen (cluster : Cluster) (parcel : Parcel) : Bool :=
  match parcel.state.call?.bind (cluster.call? parcel.handle.node) with
  | some (.finished _) => false
  | _ => true

structure Volley (cluster : Cluster) (mail : List Parcel) (log : List Labour) (job : Nat)
    (tuple : String) (places : List Nat) (exchange : Exchange) : Prop where
  valid : checkTuple tuple = .ok ()
  request : exchange.request = .put tuple
  expected : exchange.expected? = some .acknowledgement
  waits : exchange.wait = .count places.length
  unfailed : exchange.collector.failures = []
  counted : mail.length + exchange.collector.responses.length = places.length
  looked : exchange.next ≠ .count → mail = []
  bides : ∀ parcel ∈ mail, parcel.request = .put tuple ∧ cluster.Reaches parcel.handle.node ∧
    parcel.Bides cluster (fun _ => True) (fun _ result => result = .ok .done)
  served : ∃ served : List Nat,
    (served ++ (mail.filter (·.isOpen cluster)).map (·.handle.node)).Perm places ∧
      ∀ place, accepted log job place = List.replicate (served.count place) tuple

variable {cluster next : Cluster} {mail later rest parcels : List Parcel} {log labours : List Labour}
  {job call : Nat} {tuple : String} {places : List Nat} {exchange : Exchange} {parcel : Parcel}

section Open

theorem Parcel.open_of_unsent (cluster : Cluster) (unsent : parcel.state = .unsent) :
    parcel.isOpen cluster = true := by
  simp [isOpen, unsent, ParcelState.call?]

theorem Parcel.open_of_running {task : Task} (state : parcel.state.call? = some call)
    (running : cluster.call? parcel.handle.node call = some (.running task)) :
    parcel.isOpen cluster = true := by
  simp [isOpen, state, running]

theorem Parcel.open_of_finished {result : Except StoreError Answer}
    (state : parcel.state.call? = some call)
    (finished : cluster.call? parcel.handle.node call = some (.finished result)) :
    parcel.isOpen cluster = false := by
  simp [isOpen, state, finished]

theorem Parcel.Bides.open_kept {idle : Nat → Prop} {settled : Nat → Except StoreError Answer → Prop}
    (bides : parcel.Bides cluster idle settled) (spares : cluster.Spares next parcels)
    (inside : parcel ∈ parcels) : parcel.isOpen next = parcel.isOpen cluster := by
  cases bides with
  | unsent unsent => rw [open_of_unsent next unsent, open_of_unsent cluster unsent]
  | running state made running =>
      rw [open_of_running state running,
        open_of_running state (spares parcel inside _ _ state running trivial)]
  | finished state finished =>
      rw [open_of_finished state finished,
        open_of_finished state (spares parcel inside _ _ state finished trivial)]

end Open

theorem Replica.put_accepted (replica : Replica) (valid : checkTuple tuple = .ok ()) :
    (replica.step (.put tuple)).move = .finish (.ok .done) ∧
      replica.event (.put tuple) = .accepted tuple := by
  have put : ∃ store, replica.store.put tuple = .ok store := by
    unfold Store.put
    rw [valid]
    dsimp only
    split
    · exact ⟨_, rfl⟩
    · exact ⟨_, rfl⟩
  obtain ⟨store, put⟩ := put
  simp [event, step, put]

namespace Volley

theorem perm (volley : Volley cluster mail log job tuple places exchange) (same : later.Perm mail) :
    Volley cluster later log job tuple places exchange where
  valid := volley.valid
  request := volley.request
  expected := volley.expected
  waits := volley.waits
  unfailed := volley.unfailed
  counted := same.length_eq ▸ volley.counted
  looked := fun looked => by
    have nothing := volley.looked looked
    subst nothing
    exact same.eq_nil
  bides := fun parcel member => volley.bides parcel (same.mem_iff.mp member)
  served := by
    obtain ⟨served, split, told⟩ := volley.served
    exact ⟨served, (((same.filter _).map _).append_left served).trans split, told⟩

theorem spared (volley : Volley cluster mail log job tuple places exchange)
    (spares : cluster.Spares next mail)
    (reaches : ∀ place, cluster.Reaches place → next.Reaches place)
    (others : ∀ labour ∈ labours, labour.job? ≠ some job) :
    Volley next mail (log ++ labours) job tuple places exchange := by
  refine { volley with bides := ?_, served := ?_ }
  · intro parcel member
    obtain ⟨request, reached, bides⟩ := volley.bides parcel member
    exact ⟨request, reaches _ reached, bides.mono spares member id fun _ => id⟩
  · obtain ⟨served, split, told⟩ := volley.served
    have same : mail.filter (·.isOpen next) = mail.filter (·.isOpen cluster) :=
      List.filter_congr fun parcel member =>
        (volley.bides parcel member).2.2.open_kept spares member
    refine ⟨served, same ▸ split, fun place => ?_⟩
    rw [accepted, done_append, done_nothing others, List.append_nil]
    exact told place

theorem unlooked (volley : Volley cluster mail log job tuple places exchange)
    (inside : parcel ∈ mail) : exchange.next = .count := by
  by_contra looked
  rw [volley.looked looked] at inside
  cases inside

theorem delivered (volley : Volley cluster (parcel :: rest) log job tuple places exchange)
    (unsent : parcel.state = .unsent)
    (made : next.call? parcel.handle.node call = some (.ofTask parcel.request.task))
    (spares : cluster.Spares next rest)
    (reaches : ∀ place, cluster.Reaches place → next.Reaches place) :
    Volley next ({ parcel with state := .delivered call false } :: rest) log job tuple places
      exchange := by
  obtain ⟨request, reached, bides⟩ := volley.bides parcel List.mem_cons_self
  have unlooked := volley.unlooked List.mem_cons_self
  refine { volley with
    looked := fun looked => absurd unlooked looked, bides := ?_, served := ?_ }
  · intro other member
    rcases List.mem_cons.mp member with rfl | old
    · refine ⟨request, reaches _ reached, ?_⟩
      refine bides.delivered unsent made fun cause refused _ => ?_
      rw [request] at refused
      cases refused
    · obtain ⟨asked, near, stands⟩ := volley.bides other (List.mem_cons_of_mem _ old)
      exact ⟨asked, reaches _ near, stands.mono spares old id fun _ => id⟩
  · obtain ⟨served, split, told⟩ := volley.served
    refine ⟨served, ?_, told⟩
    have same : rest.filter (·.isOpen next) = rest.filter (·.isOpen cluster) :=
      List.filter_congr fun other member =>
        (volley.bides other (List.mem_cons_of_mem _ member)).2.2.open_kept spares member
    have running : next.call? parcel.handle.node call = some (.running (.put tuple)) := by
      rw [made, request]
      rfl
    have state : ({ parcel with state := .delivered call false } : Parcel).state.call? =
        some call := rfl
    rw [List.filter_cons_of_pos (Parcel.open_of_unsent cluster unsent)] at split
    rw [List.filter_cons_of_pos (Parcel.open_of_running state running), same]
    exact split

theorem worked (volley : Volley cluster (parcel :: rest) log job tuple places exchange)
    {replica : Replica} {task : Task} (state : parcel.state.call? = some call)
    (running : cluster.call? parcel.handle.node call = some (.running task))
    (moved : next.call? parcel.handle.node call =
      some ((CallState.ofMove task (replica.step task).move).woken (replica.step task).signals))
    (spares : cluster.Spares next rest)
    (reaches : ∀ place, cluster.Reaches place → next.Reaches place) :
    Volley next (parcel :: rest) (log ++ [⟨some job, parcel.handle.node, replica, task⟩]) job
      tuple places exchange := by
  obtain ⟨request, reached, bides⟩ := volley.bides parcel List.mem_cons_self
  have made := (bides.of_running state running).1
  rw [request] at made
  cases made
  obtain ⟨done, event⟩ := replica.put_accepted volley.valid
  rw [done] at moved
  have finished : next.call? parcel.handle.node call = some (.finished (.ok .done)) := moved
  refine { volley with bides := ?_, served := ?_ }
  · intro other member
    rcases List.mem_cons.mp member with rfl | old
    · exact ⟨request, reaches _ reached, .finished state finished rfl⟩
    · obtain ⟨asked, near, stands⟩ := volley.bides other (List.mem_cons_of_mem _ old)
      exact ⟨asked, reaches _ near, stands.mono spares old id fun _ => id⟩
  · obtain ⟨served, split, told⟩ := volley.served
    have same : rest.filter (·.isOpen next) = rest.filter (·.isOpen cluster) :=
      List.filter_congr fun other member =>
        (volley.bides other (List.mem_cons_of_mem _ member)).2.2.open_kept spares member
    rw [List.filter_cons_of_pos (Parcel.open_of_running state running), List.map_cons] at split
    refine ⟨parcel.handle.node :: served, ?_, fun place => ?_⟩
    · rw [List.filter_cons_of_neg (by simp [Parcel.open_of_finished state finished]), same]
      exact List.perm_middle.symm.trans split
    · rw [accepted, done_append, done_one, event]
      change accepted log job place ++ _ = _
      rw [told place, List.count_cons]
      by_cases here : parcel.handle.node = place
      · simp [here, StoreEvent.accepted?, List.replicate_succ']
      · simp [here]

theorem answered (volley : Volley cluster (parcel :: rest) log job tuple places exchange)
    {result : Except StoreError Answer} (state : parcel.state.call? = some call)
    (finished : cluster.call? parcel.handle.node call = some (.finished result)) :
    Volley cluster rest log job tuple places
      (exchange.record parcel.handle.qualifier (.ok (parcel.request.reply result))) := by
  obtain ⟨request, _, bides⟩ := volley.bides parcel List.mem_cons_self
  have unlooked := volley.unlooked List.mem_cons_self
  have stored : result = .ok .done := bides.of_finished state finished
  have outcome : exchange.outcome parcel.handle.qualifier (.ok (parcel.request.reply result)) =
      .ok (parcel.handle.qualifier, .put) := by
    rw [stored, request]
    simp [Exchange.outcome, Request.reply, Except.map, Request.response, volley.expected,
      Response.meets, Response.isAcknowledgement]
  rw [Exchange.record, outcome]
  refine { volley with
    unfailed := volley.unfailed, counted := ?_, looked := ?_, bides := ?_, served := ?_ }
  · have counted := volley.counted
    rw [List.length_cons] at counted
    simp only [Collector.record, List.length_append, List.length_singleton]
    omega
  · exact fun looked => absurd unlooked looked
  · exact fun other member => volley.bides other (List.mem_cons_of_mem _ member)
  · obtain ⟨served, split, told⟩ := volley.served
    refine ⟨served, ?_, told⟩
    rw [List.filter_cons_of_neg (by simp [Parcel.open_of_finished state finished])] at split
    exact split

theorem looks (volley : Volley cluster mail log job tuple places exchange)
    {progress : Exchange.Progress} (looked : exchange.look? = some progress) :
    mail = [] ∧
      ((∃ next, progress = .goOn { exchange with next } ∧
          Volley cluster mail log job tuple places { exchange with next }) ∨
        progress = .finished (.ok exchange.collector.responses)) := by
  unfold Exchange.look? at looked
  cases next : exchange.next with
  | count =>
      rw [next] at looked
      dsimp only at looked
      split at looked
      · rename_i enough
        cases looked
        have counted := volley.counted
        have unfailed := volley.unfailed
        have nothing : mail = [] := by
          rw [volley.waits, Collector.satisfies, decide_eq_true_eq, unfailed] at enough
          rw [List.length_nil] at enough
          exact List.length_eq_zero_iff.mp (by omega)
        exact ⟨nothing, Or.inl ⟨_, rfl, { volley with looked := fun _ => nothing }⟩⟩
      · cases looked
  | failure =>
      rw [next, Collector.firstFailure?, volley.unfailed] at looked
      cases looked
      have nothing := volley.looked (by simp [next])
      exact ⟨nothing, Or.inl ⟨_, rfl, { volley with looked := fun _ => nothing }⟩⟩
  | replies =>
      rw [next] at looked
      cases looked
      exact ⟨volley.looked (by simp [next]), Or.inr rfl⟩

theorem served_all (volley : Volley cluster [] log job tuple places exchange) (place : Nat) :
    accepted log job place = List.replicate (places.count place) tuple := by
  obtain ⟨served, split, told⟩ := volley.served
  rw [List.filter_nil, List.map_nil, List.append_nil] at split
  rw [told place, split.count_eq]

theorem posted {set : ReplicaSet} {handles : List Handle} (number clock : Nat)
    (asked : (Query.put tuple).ask set = .ok (exchange, handles))
    (valid : checkTuple tuple = .ok ())
    (reached : ∀ row ∈ set.table, cluster.Reaches row.2)
    (nothing : ∀ place, accepted log job place = []) :
    Volley cluster
      (handles.map fun handle =>
        { exchange := number, handle, request := exchange.request, due := clock + handle.delay })
      log job tuple (firstPlaces set.table) exchange := by
  unfold Query.ask ReplicaSet.askAll ReplicaSet.ask at asked
  dsimp only at asked
  cases found : set.handlesOf set.qualifiers with
  | error cause =>
      rw [found] at asked
      cases asked
  | ok others =>
      rw [found] at asked
      cases asked
      have places := ReplicaSet.places_asked found
      obtain ⟨names, known⟩ := ReplicaSet.handles_found found
      have sizes : (firstPlaces set.table).length = handles.length := by
        rw [← places, List.length_map]
      have asked : set.size = handles.length := by
        rw [ReplicaSet.size, ← List.length_map (·.qualifier), ← ReplicaSet.qualifiers, ← names,
          List.length_map]
      constructor
      case valid => exact valid
      case request => rfl
      case expected => rfl
      case waits => rw [sizes, ← asked]
      case unfailed => rfl
      case counted => simp [sizes]
      case looked => exact fun looked => absurd rfl looked
      case bides =>
        intro parcel member
        obtain ⟨handle, inside, rfl⟩ := List.mem_map.mp member
        exact ⟨rfl, reached _ (known handle inside), .unsent rfl trivial⟩
      case served =>
        refine ⟨[], ?_, nothing⟩
        have all : ∀ parcels : List Parcel, (∀ parcel ∈ parcels, parcel.state = .unsent) →
            parcels.filter (·.isOpen cluster) = parcels := fun parcels unsent =>
          List.filter_eq_self.mpr fun parcel member =>
            Parcel.open_of_unsent cluster (unsent parcel member)
        rw [all _ (by simp), List.map_map, ← places]
        exact List.Perm.refl _

end Volley

/-! ## The job of a put -/

/-- How far the job of a put has come, whose requests go to some places. -/
inductive PutStage (record : List Deed) (job : Nat) (cluster : Cluster) (mail : List Parcel)
    (log : List Labour) (session : Nat) (tuple : String) (places : List Nat) : Job → Prop
  | begins {errand : Errand} (whose : errand.session = session)
      (operation : errand.operation = .query (.put tuple)) (idle : errand.attempt? = none)
      (unsent : mail = []) (nothing : ∀ place, accepted log job place = []) :
      PutStage record job cluster mail log session tuple places (.running errand)
  | gathers {errand : Errand} {set : ReplicaSet} {client : ClientId} {exchange : Exchange}
      (whose : errand.session = session) (operation : errand.operation = .query (.put tuple))
      (attempt : errand.attempt? = some ⟨set, client, .asking (.put tuple) exchange⟩)
      (own : poster? record errand.exchange = some job)
      (numbers : ∀ parcel ∈ mail, parcel.exchange = errand.exchange)
      (volley : Volley cluster mail log job tuple places exchange) :
      PutStage record job cluster mail log session tuple places (.running errand)
  | ended {result : Except ClientError Outcome} (answered : mail = [])
      (served : ∀ outcome, result = .ok outcome →
        ∀ place, accepted log job place = List.replicate (places.count place) tuple) :
      PutStage record job cluster mail log session tuple places (.finished result)

namespace PutStage

variable {record deeds : List Deed} {session : Nat} {own : Job}

theorem undisturbed (stage : PutStage record job cluster mail log session tuple places own)
    {exchange : Nat} (other : poster? record exchange ≠ some job) (replica : String)
    (answer : Except TransportError Reply) : own.record exchange replica answer = own := by
  cases stage with
  | begins whose operation idle => rw [Job.record, Network.record_idle idle]
  | gathers whose operation attempt posted =>
      rw [Job.record, Errand.record, if_neg]
      intro same
      exact other (same ▸ posted)
  | ended => rfl

theorem spared (stage : PutStage record job cluster mail log session tuple places own)
    (same : later.Perm mail) (spares : cluster.Spares next mail)
    (reaches : ∀ place, cluster.Reaches place → next.Reaches place)
    (others : ∀ labour ∈ labours, labour.job? ≠ some job) :
    PutStage (record ++ deeds) job next later (log ++ labours) session tuple places own := by
  have log_same : ∀ place, accepted (log ++ labours) job place = accepted log job place := by
    intro place
    rw [accepted, done_append, done_nothing others, List.append_nil]
    rfl
  have empty : mail = [] → later = [] := by
    rintro rfl
    exact same.eq_nil
  cases stage with
  | begins whose operation idle unsent nothing =>
      exact .begins whose operation idle (empty unsent) fun place =>
        (log_same place).trans (nothing place)
  | gathers whose operation attempt posted numbers volley =>
      refine .gathers whose operation attempt ?_ ?_ ((volley.spared spares reaches others).perm same)
      · exact poster_still posted
      · exact fun parcel member => numbers parcel (same.mem_iff.mp member)
  | ended answered served =>
      exact .ended (empty answered) fun outcome same place =>
        (log_same place).trans (served outcome same place)

theorem gathering (stage : PutStage record job cluster mail log session tuple places own)
    (split : mail.Perm (parcel :: rest)) :
    ∃ errand set client exchange, own = .running errand ∧ errand.session = session ∧
      errand.operation = .query (.put tuple) ∧
      errand.attempt? = some ⟨set, client, .asking (.put tuple) exchange⟩ ∧
      poster? record errand.exchange = some job ∧
      (∀ other ∈ parcel :: rest, other.exchange = errand.exchange) ∧
      Volley cluster (parcel :: rest) log job tuple places exchange := by
  cases stage with
  | begins _ _ _ unsent =>
      rw [unsent] at split
      exact absurd split.nil_eq (by simp)
  | gathers whose operation attempt posted numbers volley =>
      exact ⟨_, _, _, _, rfl, whose, operation, attempt, posted,
        fun other member => numbers other (split.mem_iff.mpr member), volley.perm split.symm⟩
  | ended answered =>
      rw [answered] at split
      exact absurd split.nil_eq (by simp)

end PutStage

namespace Network

variable {network after first : Network} {record deeds : List Deed} {session index : Nat}
  {own : Job} {errand : Errand} {table : List (String × Nat)} {posted? : Option (List Parcel)}

theorem Ends.put_begins {cause : ClientError} (ends : Ends errand (.error cause) own)
    (whose : errand.session = session) (operation : errand.operation = .query (.put tuple))
    (nothing : ∀ place, accepted log job place = []) :
    PutStage record job cluster [] log session tuple places own := by
  cases ends with
  | finished => exact .ended rfl (by simp)
  | retried retries transport => exact .begins whose operation rfl rfl nothing

theorem put_asked (set : ReplicaSet) (tuple : String) :
    (∃ cause, AttemptStep.asking set (.put tuple) = .failing cause) ∨
      checkTuple tuple = .ok () ∧ ∃ exchange handles,
        (Query.put tuple).ask set = .ok (exchange, handles) ∧
          AttemptStep.asking set (.put tuple) =
            .post (.asking (.put tuple) exchange) exchange.request handles := by
  unfold AttemptStep.asking Query.check
  dsimp only
  cases valid : checkTuple tuple with
  | error cause => exact Or.inl ⟨_, rfl⟩
  | ok done =>
      cases asked : (Query.put tuple).ask set with
      | error cause => exact Or.inl ⟨_, rfl⟩
      | ok pair => exact Or.inr ⟨rfl, pair.1, pair.2, rfl, rfl⟩

/-- The first step of a put sends a request for each of its replicas, or fails. -/
theorem Installs.put_starts {set : ReplicaSet} {client : ClientId} {policy : TakePolicy}
    (installs : Installs network errand set client
      (Attempt.start set client policy (.query (.put tuple))) own posted?)
    (whose : errand.session = session) (operation : errand.operation = .query (.put tuple))
    (posts : posted?.isSome → poster? record network.exchanges = some job)
    (reached : ∀ row ∈ set.table, cluster.Reaches row.2)
    (nothing : ∀ place, accepted log job place = []) :
    PutStage record job cluster (posted?.getD []) log session tuple (firstPlaces set.table) own := by
  rw [Attempt.start] at installs
  rcases put_asked set tuple with ⟨cause, failed⟩ | ⟨valid, exchange, handles, asked, sent⟩
  · rw [failed] at installs
    cases installs with
    | ended ends => exact ends.put_begins whose operation nothing
  · rw [sent] at installs
    cases installs with
    | posted =>
        refine .gathers whose operation rfl (posts rfl) ?_
          (.posted network.exchanges network.clock asked valid reached nothing)
        intro parcel member
        obtain ⟨handle, _, rfl⟩ := List.mem_map.mp member
        rfl

theorem Advances.put_goes (advances : Advances network job own posted?)
    (stage : ∃ before, network.jobs[job]? = some before ∧
      PutStage record job network.cluster mail log session tuple (firstPlaces table) before)
    (finds : ∀ found, network.sessions[session]? = some found → network.Finds found table)
    (reached : ∀ row ∈ table, network.cluster.Reaches row.2)
    (posts : posted?.isSome → poster? (record ++ deeds) network.exchanges = some job) :
    PutStage (record ++ deeds) job network.cluster (mail ++ posted?.getD []) log session tuple
      (firstPlaces table) own := by
  obtain ⟨before, there, stage⟩ := stage
  cases advances with
  | woke found =>
      rw [found] at there
      cases there
      cases stage
  | unresolved found idle _ ends =>
      rw [found] at there
      cases there
      cases stage with
      | begins whose operation _ unsent nothing =>
          subst unsent
          exact ends.put_begins whose operation nothing
      | gathers _ _ attempt =>
          rw [idle] at attempt
          cases attempt
  | began found idle known same installs =>
      rw [found] at there
      cases there
      cases stage with
      | gathers _ _ attempt =>
          rw [idle] at attempt
          cases attempt
      | begins whose operation _ unsent nothing =>
          subst unsent
          have table := same table (finds _ (whose ▸ known))
          rw [operation] at installs
          subst table
          exact installs.put_starts whose operation posts reached nothing
  | advanced found under stepped installs =>
      rw [found] at there
      cases there
      cases stage with
      | begins _ _ idle =>
          rw [idle] at under
          cases under
      | gathers whose operation attempt posted numbers volley =>
          rw [attempt] at under
          cases under
          obtain ⟨progress, looked, rfl⟩ := Option.map_eq_some_iff.mp stepped
          obtain ⟨nothing, ⟨look, rfl, volley⟩ | rfl⟩ := volley.looks looked
          · subst nothing
            cases installs with
            | wentOn =>
                exact .gathers whose operation rfl (poster_still posted) (by simp) volley
          · subst nothing
            cases installs with
            | ended ends =>
                cases ends with
                | finished => exact .ended rfl fun _ _ => volley.served_all

theorem Affects.put_goes (affects : network.Affects after record deeds job mail later labours)
    (stage : ∃ before, network.jobs[job]? = some before ∧
      PutStage record job network.cluster mail log session tuple (firstPlaces table) before)
    (finds : ∀ found, network.sessions[session]? = some found → network.Finds found table)
    (reached : ∀ row ∈ table, network.cluster.Reaches row.2)
    (reaches : ∀ place, network.cluster.Reaches place → after.cluster.Reaches place) :
    ∃ own, after.jobs[job]? = some own ∧ PutStage (record ++ deeds) job after.cluster later
      (log ++ labours) session tuple (firstPlaces table) own := by
  obtain ⟨before, there, stage⟩ := stage
  cases affects with
  | apart same spares others still =>
      refine ⟨before, ?_, stage.spared same spares reaches others⟩
      rcases still with still | ⟨exchange, replica, answer, other, told⟩
      · exact still.trans there
      · rw [told, there, Option.map_some, stage.undisturbed other]
  | refused inside away =>
      obtain ⟨front, back, split⟩ := List.append_of_mem inside
      obtain ⟨_, _, _, _, _, _, _, _, _, _, volley⟩ :=
        stage.gathering (split ▸ List.perm_middle)
      exact absurd (volley.bides _ List.mem_cons_self).2.1 away
  | @delivered parcel rest call split moved made spares unsent still =>
      obtain ⟨errand, set, client, exchange, rfl, whose, operation, attempt, own, numbers, volley⟩ :=
        stage.gathering split
      rw [List.append_nil]
      refine ⟨_, still.trans there, .gathers whose operation attempt (poster_still own) ?_
        ((volley.delivered unsent made spares reaches).perm moved)⟩
      intro other member
      rcases List.mem_cons.mp (moved.mem_iff.mp member) with rfl | old
      · exact numbers parcel List.mem_cons_self
      · exact numbers other (List.mem_cons_of_mem _ old)
  | worked split same state running moved spares still =>
      obtain ⟨errand, set, client, exchange, rfl, whose, operation, attempt, own, numbers, volley⟩ :=
        stage.gathering split
      subst same
      refine ⟨_, still.trans there, .gathers whose operation attempt (poster_still own) ?_
        ((volley.worked state running moved spares reaches).perm split)⟩
      exact fun parcel member => numbers parcel (split.mem_iff.mp member)
  | received split fewer state finished same told =>
      obtain ⟨errand, set, client, exchange, rfl, whose, operation, attempt, own, numbers, volley⟩ :=
        stage.gathering split
      rw [there, Option.map_some, numbers _ List.mem_cons_self, Job.record, Errand.record,
        if_pos rfl, attempt] at told
      rw [List.append_nil, same]
      refine ⟨_, told, .gathers whose operation rfl (poster_still own) ?_
        ((volley.answered state finished).perm fewer)⟩
      exact fun parcel member => numbers parcel (List.mem_cons_of_mem _ (fewer.mem_iff.mp member))
  | advanced advances now posted posts same =>
      rw [List.append_nil, same]
      subst posted
      exact ⟨_, now, advances.put_goes ⟨before, there, stage⟩ finds reached posts⟩

/-- The job of a put is on its way or has ended, in a network where its replicas are reached. -/
structure Putting (job session : Nat) (tuple : String) (table : List (String × Nat))
    (network : Network) (record : List Deed) (log : List Labour) : Prop where
  reached : ∀ row ∈ table, network.cluster.Reaches row.2
  stage : ∃ own, network.jobs[job]? = some own ∧ PutStage record job network.cluster
    (TupleSpace.mail record job network.parcels) log session tuple (firstPlaces table) own

namespace Putting

variable {found : Session} (stems : first.Stems network record log)
  (there : first.sessions[index]? = some found)
include stems there

theorem of_begins {own : Job} {sequencer : Sequencer} {next : Network}
    (quorum : found.config.takeMode = .quorum)
    (reached : ∀ row ∈ table, first.cluster.Reaches row.2)
    (begins : Begins network index (.put tuple) own sequencer)
    (adds : network.Adds next own sequencer) (last : network.jobs.length = job)
    (operation? : Option Operation) :
    Putting job index tuple table next (record ++ [.begins job index (.put tuple) operation?])
      log := by
  refine ⟨fun row member => ?_, own, by simp [adds.jobs, ← last], ?_⟩
  · rw [adds.cluster]
    exact stems.reaches _ (reached row member)
  · rw [stems.traceable.mail_begun (Nat.le_of_eq last)]
    cases begins with
    | ended delays =>
        refine .ended rfl fun outcome same => ?_
        obtain ⟨_, _, other⟩ := delays outcome same
        cases other
    | puts =>
        exact .begins rfl rfl rfl rfl fun place =>
          stems.traceable.done_before (Nat.le_of_eq last) _ place
    | putsInOrder known sequenced =>
        rw [(stems.continues there known).config, quorum] at sequenced
        cases sequenced

theorem befalls {next : Network} {deeds : List Deed} {labours : List Labour}
    (finds : first.Finds found table) (known : job < network.jobs.length)
    (befalls : network.Befalls record deeds labours next)
    (putting : Putting job index tuple table network record log) :
    Putting job index tuple table next (record ++ deeds) (log ++ labours) := by
  refine ⟨fun row member => befalls.reaches (putting.reached row member), ?_⟩
  exact (stems.traceable.affects befalls known).put_goes putting.stage
    (fun _ known => (stems.continues there known).finds table finds) putting.reached
    fun _ => befalls.reaches

end Putting

/-- A put that has succeeded has had its tuple accepted wherever its requests went. -/
theorem Chronicle.put_served {last : Network} {found : Session} {outcome : Outcome}
    {operation? : Option Operation} (chronicle : Chronicle first record log last)
    (faultless : first.faults = []) (still : first.parcels = [])
    (there : first.sessions[index]? = some found) (quorum : found.config.takeMode = .quorum)
    (finds : first.Finds found table) (reached : ∀ row ∈ table, first.cluster.Reaches row.2)
    (begun : .begins job index (.put tuple) operation? ∈ record)
    (ended : last.jobs[job]? = some (.finished (.ok outcome))) (place : Nat) :
    accepted log job place = List.replicate ((firstPlaces table).count place) tuple := by
  have finish : Putting job index tuple table last record log := by
    refine chronicle.kept_from_begin (Putting job index tuple table) faultless still begun ?_ ?_
    · intro network next record log own sequencer stems begins adds last
      exact .of_begins stems there quorum reached begins adds last _
    · intro network next record deeds log labours stems known befalls putting
      exact .befalls stems there finds known befalls putting
  obtain ⟨own, known, stage⟩ := finish.stage
  rw [ended] at known
  cases known
  cases stage with
  | ended answered served => exact served outcome rfl place

end Network

/-! ## What a lookup finds -/

/-- The replicas of a lookup have addresses of their own, with a started replica behind each. -/
structure Cluster.Serves (cluster : Cluster) (found : List Descriptor) : Prop where
  addresses : (found.map (·.address)).Nodup
  started : ∀ descriptor ∈ found, ∃ place,
    cluster.listener? descriptor.address = some place ∧ cluster.Reaches place
  alone : ∀ left ∈ found, ∀ right ∈ found,
    cluster.listener? left.address = cluster.listener? right.address → left.address = right.address

/-- How many of the replicas found have the name of one of them, if it comes first among these. -/
def share (found : List Descriptor) (descriptor : Descriptor) : Nat :=
  if found.find? (·.qualifier == descriptor.qualifier) = some descriptor then
    found.countP (·.qualifier == descriptor.qualifier)
  else 0

def Cluster.handleOf (cluster : Cluster) (descriptor : Descriptor) : Handle :=
  { descriptor, node := (cluster.listener? descriptor.address).getD 0 }

namespace Cluster.Serves

variable {found : List Descriptor} {descriptor : Descriptor} {place : Nat}

theorem connects (serves : cluster.Serves found) :
    Network.connectAll cluster found = .ok (found.map cluster.handleOf) := by
  have each : ∀ part : List Descriptor, part ⊆ found →
      Network.connectAll cluster part = .ok (part.map cluster.handleOf) := by
    intro part known
    induction part with
    | nil => rfl
    | cons descriptor rest induction =>
        obtain ⟨place, listens, _⟩ := serves.started descriptor (known List.mem_cons_self)
        have connected : cluster.connect descriptor = .ok place := by
          rw [connect, listens]
        rw [Network.connectAll, connected, induction (List.subset_of_cons_subset known)]
        simp [Except.map, handleOf, listens]
  exact each found (List.Subset.refl _)

theorem same_of_place (serves : cluster.Serves found) {other : Descriptor}
    (member : descriptor ∈ found) (inside : other ∈ found)
    (place : (cluster.handleOf other).node = (cluster.handleOf descriptor).node) :
    other = descriptor := by
  obtain ⟨here, listens, _⟩ := serves.started descriptor member
  obtain ⟨there, heard, _⟩ := serves.started other inside
  have same : there = here := by simpa [handleOf, listens, heard] using place
  exact List.inj_on_of_nodup_map serves.addresses inside member
    (serves.alone other inside descriptor member (by rw [listens, heard, same]))

/-- The requests of a put that go to a place, counted at the lookup that they come from. -/
theorem count_eq (cluster : Cluster) (found : List Descriptor) (place : Nat) :
    (firstPlaces (ReplicaSet.ofHandles (found.map cluster.handleOf)).table).count place =
      found.countP fun descriptor =>
        (found.find? (·.qualifier == descriptor.qualifier)).map (cluster.handleOf · |>.node) ==
          some place := by
  have named : ∀ name, (ReplicaSet.ofHandles (found.map cluster.handleOf)).table.lookup name =
      (found.find? (·.qualifier == name)).map (cluster.handleOf · |>.node) := by
    intro name
    rw [ReplicaSet.ofHandles, ReplicaSet.lookup_table, Sorting.find_sort, List.find?_map]
    · exact Option.map_map _ _ _
    · intro left right here there
      rw [beq_iff_eq] at here there
      rw [here, there]
      exact (Sorting.name_order_iff name name).mpr (String.le_refl name)
  rw [firstPlaces, List.count_filterMap]
  simp only [named]
  rw [ReplicaSet.table, List.countP_map, ReplicaSet.ofHandles, (Sorting.sort_perm _ _).countP_eq,
    List.countP_map]
  rfl

theorem count_share (serves : cluster.Serves found) (member : descriptor ∈ found)
    (listens : cluster.listener? descriptor.address = some place) :
    (firstPlaces (ReplicaSet.ofHandles (found.map cluster.handleOf)).table).count place =
      share found descriptor := by
  have here : (cluster.handleOf descriptor).node = place := by simp [handleOf, listens]
  -- whoever's requests go to the place has the name of the replica there, which comes first
  have first : ∀ {name : String} {other : Descriptor},
      found.find? (·.qualifier == name) = some other → (cluster.handleOf other).node = place →
        other = descriptor ∧ name = descriptor.qualifier := by
    intro name other named same
    have known := serves.same_of_place member (List.mem_of_find?_eq_some named) (same.trans here.symm)
    have spelled := List.find?_some named
    rw [beq_iff_eq, known] at spelled
    exact ⟨known, spelled.symm⟩
  rw [count_eq, share]
  split
  · rename_i leads
    refine List.countP_congr fun other _ => ?_
    rw [beq_iff_eq, beq_iff_eq, Option.map_eq_some_iff]
    constructor
    · rintro ⟨target, named, same⟩
      exact (first named same).2
    · intro same
      exact ⟨descriptor, by rw [same, leads], here⟩
  · rename_i follows
    refine List.countP_eq_zero.mpr fun other _ goes => follows ?_
    rw [beq_iff_eq, Option.map_eq_some_iff] at goes
    obtain ⟨target, named, same⟩ := goes
    obtain ⟨rfl, spelled⟩ := first named same
    rw [← spelled]
    exact named

theorem count_elsewhere (serves : cluster.Serves found)
    (apart : ∀ descriptor ∈ found, cluster.listener? descriptor.address ≠ some place) :
    (firstPlaces (ReplicaSet.ofHandles (found.map cluster.handleOf)).table).count place = 0 := by
  rw [count_eq]
  refine List.countP_eq_zero.mpr fun other _ goes => ?_
  rw [beq_iff_eq, Option.map_eq_some_iff] at goes
  obtain ⟨target, named, same⟩ := goes
  have inside := List.mem_of_find?_eq_some named
  obtain ⟨there, heard, _⟩ := serves.started target inside
  refine apart target inside ?_
  rw [heard, ← same]
  simp [handleOf, heard]

end Cluster.Serves

theorem share_one_iff (found : List Descriptor) :
    (∀ descriptor ∈ found, share found descriptor = 1) ↔ (found.map (·.qualifier)).Nodup := by
  have counted : ∀ name, (found.map (·.qualifier)).count name =
      found.countP (·.qualifier == name) := by
    intro name
    rw [List.count, List.countP_map]
    rfl
  constructor
  · intro each
    refine List.nodup_iff_count_le_one.mpr fun name => ?_
    by_cases inside : name ∈ found.map (·.qualifier)
    · obtain ⟨descriptor, member, rfl⟩ := List.mem_map.mp inside
      have one := each descriptor member
      unfold share at one
      split at one
      · rw [counted, one]
      · cases one
    · rw [List.count_eq_zero.mpr inside]
      exact Nat.zero_le 1
  · intro names descriptor member
    have leads : found.find? (·.qualifier == descriptor.qualifier) = some descriptor := by
      cases named : found.find? (·.qualifier == descriptor.qualifier) with
      | none =>
          have missing := List.find?_eq_none.mp named descriptor member
          simp at missing
      | some other =>
          have spelled := List.find?_some named
          rw [beq_iff_eq] at spelled
          rw [List.inj_on_of_nodup_map names (List.mem_of_find?_eq_some named) member spelled]
    rw [share, if_pos leads, ← counted]
    exact List.count_eq_one_of_mem names (List.mem_map_of_mem member)

namespace Network

variable {first last : Network} {record : List Deed} {index : Nat} {session : Session}
  {found : List Descriptor} {operation? : Option Operation} {outcome : Outcome}

/-- Of the replicas that a session finds, the first under a name accepts a tuple that is put once
for each replica of that name, and the others do not accept it. So every replica found accepts it
exactly once just if their names are distinct. -/
theorem put_shares (chronicle : Chronicle first record log last) (faultless : first.faults = [])
    (still : first.parcels = []) (there : first.sessions[index]? = some session)
    (quorum : session.config.takeMode = .quorum) (unresolved : session.replicas? = none)
    (lookup : first.registry.lookup session.config.serviceName session.config.qualifier? = found)
    (serves : first.cluster.Serves found)
    (begun : .begins job index (.put tuple) operation? ∈ record)
    (ended : last.jobs[job]? = some (.finished (.ok outcome))) :
    (∀ descriptor ∈ found, ∀ place, first.cluster.listener? descriptor.address = some place →
      accepted log job place = List.replicate (share found descriptor) tuple) ∧
    (∀ place, (∀ descriptor ∈ found, first.cluster.listener? descriptor.address ≠ some place) →
      accepted log job place = []) ∧
    ((∀ descriptor ∈ found, ∀ place, first.cluster.listener? descriptor.address = some place →
        accepted log job place = [tuple]) ↔ (found.map (·.qualifier)).Nodup) := by
  -- The session has no replicas yet, so it comes by those that its look-up gives.
  have finds : first.Finds session
      (ReplicaSet.ofHandles (found.map first.cluster.handleOf)).table := by
    refine ⟨fun set kept => ?_, fun set looked => ?_⟩
    · rw [unresolved] at kept
      cases kept
    · unfold lookUp at looked
      rw [lookup] at looked
      cases found with
      | nil => cases looked
      | cons descriptor rest =>
          dsimp only at looked
          rw [serves.connects] at looked
          cases looked
          rfl
  have reached : ∀ row ∈ (ReplicaSet.ofHandles (found.map first.cluster.handleOf)).table,
      first.cluster.Reaches row.2 := by
    intro row member
    obtain ⟨handle, inside, rfl⟩ := List.mem_map.mp member
    obtain ⟨descriptor, known, rfl⟩ :=
      List.mem_map.mp ((Sorting.sort_perm _ _).mem_iff.mp inside)
    obtain ⟨place, listens, reaches⟩ := serves.started descriptor known
    simpa [Cluster.handleOf, listens] using reaches
  have served := chronicle.put_served faultless still there quorum finds reached begun ended
  have shares : ∀ descriptor ∈ found, ∀ place,
      first.cluster.listener? descriptor.address = some place →
        accepted log job place = List.replicate (share found descriptor) tuple := by
    intro descriptor member place listens
    rw [served place, serves.count_share member listens]
  refine ⟨shares, fun place apart => ?_, ?_⟩
  · rw [served place, serves.count_elsewhere apart]
    rfl
  · rw [← share_one_iff]
    constructor
    · intro each descriptor member
      obtain ⟨place, listens, _⟩ := serves.started descriptor member
      have lengths := congrArg List.length (each descriptor member place listens)
      rw [shares descriptor member place listens, List.length_replicate] at lengths
      exact lengths
    · intro each descriptor member place listens
      rw [shares descriptor member place listens, each descriptor member]
      rfl

def twins : Network :=
  { registry := ⟨[("TupleSpaces", [⟨"A", "local:1"⟩, ⟨"A", "local:2"⟩])]⟩
    cluster :=
      { nodes := [{ qualifier := "A", service := {} }, { qualifier := "A", service := {} }]
        listeners := [("local:2", 1), ("local:1", 0)] }
    sessions := [{ client := ⟨1⟩ }] }

private def putToTwins : List Occurrence :=
  [.begin 0 (.put "<a>"), .event (.advance 0), .event (.send 0), .event (.send 1),
    .event (.work 0 0), .event (.work 0 1), .event (.receive 0), .event (.receive 0),
    .event (.advance 0), .event (.advance 0), .event (.advance 0)]

theorem put_shares_of_twins :
    ∃ record log last, Chronicle twins record log last ∧
      last.jobs[0]? = some (.finished (.ok .done)) ∧
      accepted log 0 0 = ["<a>", "<a>"] ∧ accepted log 0 1 = [] := by
  have done : (twins.relate? [] [] putToTwins).map (fun last =>
      (last.2.2.jobs[0]?, last.1.contains (.begins 0 0 (.put "<a>")
        (some (.query (.put "<a>")))))) = some (some (.finished (.ok .done)), true) := by
    decide +kernel
  obtain ⟨⟨record, log, last⟩, related, outcome⟩ := Option.map_eq_some_iff.mp done
  obtain ⟨ended, begun⟩ := Prod.mk.inj outcome
  have chronicle : Chronicle twins record log last := chronicle_of_relate .start related
  have serves : twins.cluster.Serves [⟨"A", "local:1"⟩, ⟨"A", "local:2"⟩] := by
    refine ⟨by decide, ?_, by decide⟩
    simp only [List.mem_cons, List.not_mem_nil, or_false, forall_eq_or_imp, forall_eq]
    exact ⟨⟨0, rfl, _, rfl, rfl⟩, 1, rfl, _, rfl, rfl⟩
  have there : twins.sessions[0]? = some { client := ⟨1⟩ } := rfl
  have lookup : twins.registry.lookup "TupleSpaces" none =
      [⟨"A", "local:1"⟩, ⟨"A", "local:2"⟩] := rfl
  obtain ⟨shares, _⟩ := put_shares chronicle rfl rfl there rfl rfl lookup serves
    (List.contains_iff_mem.mp begun) ended
  exact ⟨record, log, last, chronicle, ended, shares ⟨"A", "local:1"⟩ (by simp) 0 rfl,
    shares ⟨"A", "local:2"⟩ (by simp) 1 rfl⟩

/-- A put that succeeds has stored two copies at one replica and none at the other. -/
theorem put_misses_namesake :
    ∃ record log last, Chronicle twins record log last ∧
      .begins 0 0 (.put "<a>") (some (.query (.put "<a>"))) ∈ record ∧
      last.jobs[0]? = some (.finished (.ok .done)) ∧
      twins.registry.lookup "TupleSpaces" none = [⟨"A", "local:1"⟩, ⟨"A", "local:2"⟩] ∧
      last.cluster.values 0 = ["<a>", "<a>"] ∧ last.cluster.values 1 = [] := by
  have done : (twins.relate? [] [] putToTwins).map (fun last =>
      (last.1.contains (.begins 0 0 (.put "<a>") (some (.query (.put "<a>")))),
        last.2.2.jobs[0]?, last.2.2.cluster.values 0, last.2.2.cluster.values 1)) =
          some (true, some (.finished (.ok .done)), ["<a>", "<a>"], []) := by
    decide +kernel
  obtain ⟨⟨record, log, last⟩, related, outcome⟩ := Option.map_eq_some_iff.mp done
  simp only [Prod.mk.injEq] at outcome
  obtain ⟨begun, ended, here, there⟩ := outcome
  exact ⟨record, log, last, chronicle_of_relate .start related, List.contains_iff_mem.mp begun,
    ended, rfl, here, there⟩

end Network

end TupleSpace
