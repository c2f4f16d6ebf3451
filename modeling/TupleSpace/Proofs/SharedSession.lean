import TupleSpace.Proofs.LoneTake
import TupleSpace.Proofs.TakeWork

/-!
# Takes that share a session

Two takes of one session have one client id, so each of them may free or remove what the other has
had reserved. While they run and nothing else does, every removal is done for one of them. What the
replicas have lost is therefore what the takes have had removed, and that is more than they return if
one of them fails halfway through its removals.
-/

namespace TupleSpace

def Begun (record : List Deed) (job : Nat) : Prop :=
  ∃ session command operation?, .begins job session command operation? ∈ record

def lostAt (log : List Labour) (place : Nat) : List String :=
  log.filterMap fun labour =>
    if labour.place = place then (labour.replica.event labour.task).committed? else none

theorem Begun.mono {record : List Deed} {job : Nat} (begun : Begun record job)
    (deeds : List Deed) : Begun (record ++ deeds) job := by
  obtain ⟨session, command, operation?, member⟩ := begun
  exact ⟨session, command, operation?, List.mem_append_left _ member⟩

theorem Replica.lost_of_plain (replica : Replica) (task : Task) {removed? : Option String}
    (event : replica.event task = removed?.elim .quiet .committed) :
    replica.store.space.values.Perm
      (removed?.toList ++ (replica.step task).replica.store.space.values) := by
  have undergoes := replica.undergoes_step task
  generalize (replica.step task).replica.store = next at undergoes
  rw [event] at undergoes
  cases removed? with
  | none =>
      cases undergoes with
      | quiet same => exact same ▸ .refl _
  | some tuple =>
      cases undergoes with
      | committed gone => exact gone

namespace Network

/-! ## For whom replicas work -/

/-- Whatever is going on was begun: every job that runs, and every call as a request in transit of
such a job. -/
structure Engaged (network : Network) (record : List Deed) (log : List Labour) : Prop where
  jobs : ∀ job errand, network.jobs[job]? = some (.running errand) → Begun record job
  posters : ∀ job exchange requests, .posts job exchange requests ∈ record → Begun record job
  parcels : ∀ parcel ∈ network.parcels, ∃ job, poster? record parcel.exchange = some job
  calls : ∀ place call task, network.cluster.call? place call = some (.running task) →
    ∃ parcel ∈ network.parcels, parcel.IsAt place call
  labours : ∀ labour ∈ log, ∃ job, labour.job? = some job ∧ Begun record job

variable {first network next : Network} {record deeds : List Deed} {log labours : List Labour}

namespace Engaged

theorem start (quiet : network.IsQuiet) : network.Engaged [] [] where
  jobs := fun job errand running =>
    absurd rfl (quiet.jobs _ (List.mem_of_getElem? running) errand)
  posters := by simp
  parcels := by simp [quiet.parcels]
  calls := by
    intro place call task running
    obtain ⟨node, target, there⟩ := Option.bind_eq_some_iff.mp running
    exact absurd rfl
      (quiet.calls node (List.mem_of_getElem? target) _ (List.mem_of_getElem? there) task)
  labours := by simp

theorem employs (engaged : network.Engaged record log) (traceable : network.Traceable record log)
    {place call : Nat} {task : Task}
    (running : network.cluster.call? place call = some (.running task)) :
    ∃ job, network.employer? record place call = some job ∧ Begun record job := by
  obtain ⟨parcel, inside, here⟩ := engaged.calls place call task running
  obtain ⟨job, posted⟩ := engaged.parcels parcel inside
  obtain ⟨requests, posts⟩ := posts_of_poster posted
  have mine : parcel ∈ mail record job network.parcels :=
    List.mem_filter.mpr ⟨inside, by simpa using posted⟩
  exact ⟨job, traceable.employer_of_mail mine here, engaged.posters _ _ _ posts⟩

theorem next_jobs (engaged : network.Engaged record log)
    (befalls : network.Befalls record deeds labours next) {job : Nat} {errand : Errand}
    (running : next.jobs[job]? = some (.running errand)) : Begun (record ++ deeds) job := by
  have recorded : ∀ {exchange : Nat} {replica : String} {answer : Except TransportError Reply},
      (network.jobs[job]?).map (fun before => before.record exchange replica answer) =
        some (.running errand) → Begun (record ++ deeds) job := by
    intro exchange replica answer told
    obtain ⟨before, there, same⟩ := Option.map_eq_some_iff.mp told
    obtain ⟨earlier, rfl, _⟩ := Job.running_of_record same
    exact (engaged.jobs job earlier there).mono deeds
  cases befalls with
  | refused => exact recorded (record_job _ _ _ _ _ ▸ running)
  | received => exact recorded (record_job _ _ _ _ _ ▸ running)
  | delivered => exact (engaged.jobs job errand running).mono _
  | worked => exact (engaged.jobs job errand running).mono _
  | passed => exact (engaged.jobs job errand running).mono _
  | @advanced index own posted? _ advances changes =>
      rw [changes.job_at] at running
      split at running
      · rename_i same
        subst same
        obtain ⟨_, _, rfl⟩ := Option.map_eq_some_iff.mp running
        rcases advances.from_running with ⟨earlier, there⟩ | ⟨⟨_, ended⟩, _⟩
        · exact (engaged.jobs _ earlier there).mono _
        · cases ended
      · exact (engaged.jobs job errand running).mono _
  | @begun session command _ _ _ begins adds =>
      rcases adds.job_cases running with before | ⟨rfl, _⟩
      · exact (engaged.jobs job errand before).mono _
      · exact ⟨session, command, _, List.mem_append_right _ (List.mem_singleton_self _)⟩

theorem next_posters (engaged : network.Engaged record log)
    (befalls : network.Befalls record deeds labours next) {job exchange : Nat}
    {requests : List (Nat × Request)} (posts : .posts job exchange requests ∈ record ++ deeds) :
    Begun (record ++ deeds) job := by
  rcases List.mem_append.mp posts with old | new
  · exact (engaged.posters _ _ _ old).mono deeds
  · obtain ⟨own, posted, advances, _⟩ := befalls.posts new
    rcases advances.from_running with ⟨errand, running⟩ | ⟨_, none⟩
    · exact (engaged.jobs _ errand running).mono _
    · cases none

theorem next_parcels (engaged : network.Engaged record log)
    (traceable : network.Traceable record log)
    (befalls : network.Befalls record deeds labours next) :
    ∀ parcel ∈ next.parcels, ∃ job, poster? (record ++ deeds) parcel.exchange = some job := by
  intro parcel member
  have before : ∀ other ∈ network.parcels, other.exchange = parcel.exchange →
      ∃ job, poster? (record ++ deeds) parcel.exchange = some job := by
    intro other old same
    obtain ⟨job, posted⟩ := engaged.parcels other old
    exact ⟨job, same ▸ poster_still posted⟩
  cases befalls with
  | refused => exact before parcel (List.mem_of_mem_eraseIdx member) rfl
  | received => exact before parcel (List.mem_of_mem_eraseIdx member) rfl
  | worked => exact before parcel member rfl
  | passed => exact before parcel member rfl
  | begun _ adds => exact before parcel (adds.parcels ▸ member) rfl
  | delivered found =>
      rcases List.mem_or_eq_of_mem_set member with old | rfl
      · exact before parcel old rfl
      · exact before _ (List.mem_of_getElem? found) rfl
  | @advanced index _ posted? _ advances changes =>
      rw [changes.parcels] at member
      rcases List.mem_append.mp member with old | fresh
      · exact before parcel old rfl
      · rw [(advances.posted_fresh parcel fresh).1]
        cases posted? with
        | none => cases fresh
        | some posted => exact ⟨index, traceable.poster_posting index posted⟩

/-- If nothing is woken, only new requests make new calls run. -/
theorem next_calls (engaged : network.Engaged record log)
    (traceable : network.Traceable record log)
    (befalls : network.Befalls record deeds labours next)
    (silent : ∀ labour ∈ labours, (labour.replica.step labour.task).signals = [])
    {place call : Nat} {task : Task}
    (running : next.cluster.call? place call = some (.running task)) :
    ∃ parcel ∈ next.parcels, parcel.IsAt place call := by
  cases befalls with
  | @refused index parcel _ _ cause found unsent =>
      obtain ⟨other, inside, here⟩ := engaged.calls place call task running
      rcases mem_answered found inside with rfl | left
      · simp [Parcel.IsAt, unsent, ParcelState.call?] at here
      · exact ⟨other, left, here⟩
  | @received index parcel answer found answered =>
      obtain ⟨other, inside, here⟩ := engaged.calls place call task running
      rcases mem_answered found inside with rfl | left
      · obtain ⟨made, result, state, finished, _⟩ := traceable.answered inside answered
        obtain ⟨rfl, same⟩ := here
        rw [state] at same
        cases same
        change network.cluster.call? other.handle.node call = _ at running
        rw [finished] at running
        cases running
      · exact ⟨other, left, here⟩
  | @delivered index parcel sent faults node found unsent left target =>
      -- Only the call that is made now is new, and any other was running before.
      have old : network.cluster.call? place call = some (.running task) →
          ∃ other ∈ network.parcels.set index
            { parcel with state := .delivered node.service.calls.length false },
            other.IsAt place call := by
        intro running
        obtain ⟨other, inside, here⟩ := engaged.calls place call task running
        rcases mem_answered found inside with rfl | rest
        · simp [Parcel.IsAt, unsent, ParcelState.call?] at here
        · exact ⟨other, (mem_moved found).mpr (Or.inr rest), here⟩
      rw [Cluster.call_set target] at running
      split at running
      · rename_i here
        subst here
        by_cases last : call = node.service.calls.length
        · subst last
          exact ⟨_, (mem_moved found).mpr (Or.inl rfl), rfl, rfl⟩
        · have bound := (List.getElem?_eq_some_iff.mp running).1
          simp only [Service.call, List.length_append, List.length_singleton] at bound
          simp only [Service.call] at running
          rw [List.getElem?_append_left (by omega)] at running
          exact old ((Cluster.call_at target).trans running)
      · exact old running
  | @worked other index node labour service target there stepped =>
      -- Nothing is woken, so whichever call runs now was running before.
      have quiet := silent _ List.mem_cons_self
      rw [Cluster.call_set target] at running
      split at running
      · rename_i here
        subst here
        rw [(Cluster.worked_calls there stepped).2 call, quiet] at running
        by_cases same : index = call
        · subst same
          exact engaged.calls _ _ labour ((Cluster.call_at target).trans there)
        · rw [if_neg same] at running
          obtain ⟨state, known, woken⟩ := Option.map_eq_some_iff.mp running
          have still : state = .running task := by
            cases state with
            | running _ => exact woken
            | parked _ _ => exact woken
            | finished _ => exact woken
          exact engaged.calls _ _ task ((Cluster.call_at target).trans (still ▸ known))
      · exact engaged.calls place call task running
  | @advanced index own posted? _ advances changes =>
      rw [changes.cluster] at running
      obtain ⟨other, inside, here⟩ := engaged.calls place call task running
      exact ⟨other, changes.parcels ▸ List.mem_append_left _ inside, here⟩
  | passed => exact engaged.calls place call task running
  | begun _ adds =>
      rw [adds.cluster] at running
      rw [adds.parcels]
      exact engaged.calls place call task running

theorem befalls (engaged : network.Engaged record log) (traceable : network.Traceable record log)
    (befalls : network.Befalls record deeds labours next)
    (silent : ∀ labour ∈ labours, ∀ job, labour.job? = some job → Begun record job →
      (labour.replica.step labour.task).signals = []) :
    next.Engaged (record ++ deeds) (log ++ labours) := by
  have employed : ∀ labour ∈ labours, ∃ job, labour.job? = some job ∧ Begun record job := by
    intro labour member
    cases befalls with
    | worked target running stepped =>
        rw [List.mem_singleton.mp member]
        exact engaged.employs traceable ((Cluster.call_at target).trans running)
    | _ => cases member
  constructor
  case jobs => exact fun job errand => engaged.next_jobs befalls
  case posters => exact fun job exchange requests => engaged.next_posters befalls
  case parcels => exact engaged.next_parcels traceable befalls
  case calls =>
    intro place call task
    refine engaged.next_calls traceable befalls fun labour member => ?_
    obtain ⟨job, mine, begun⟩ := employed labour member
    exact silent labour member job mine begun
  case labours =>
    intro labour member
    rcases List.mem_append.mp member with old | new
    · obtain ⟨job, mine, begun⟩ := engaged.labours labour old
      exact ⟨job, mine, begun.mono deeds⟩
    · obtain ⟨job, mine, begun⟩ := employed labour new
      exact ⟨job, mine, begun.mono deeds⟩

end Engaged

theorem Chronicle.engaged (chronicle : Chronicle first record log network)
    (faultless : first.faults = []) (quiet : first.IsQuiet)
    (silent : ∀ labour ∈ log, ∀ job, labour.job? = some job → Begun record job →
      (labour.replica.step labour.task).signals = []) : network.Engaged record log := by
  induction chronicle with
  | start => exact .start quiet
  | @step record deeds log network next occurrence earlier undergone induction =>
      have traceable := (earlier.stems faultless quiet.parcels).traceable
      have befalls : network.Befalls record deeds (network.labours record occurrence) next :=
        befalls_of_undergo traceable.faultless undergone
      have engaged := induction fun labour member job mine begun =>
        silent labour (List.mem_append_left _ member) job mine (begun.mono deeds)
      exact engaged.befalls traceable befalls fun labour member job mine begun =>
        silent labour (List.mem_append_right _ member) job mine (begun.mono deeds)

/-! ## What replicas lose -/

theorem Befalls.values (befalls : network.Befalls record deeds labours next)
    (plain : ∀ labour ∈ labours, labour.IsPlain) (place : Nat) :
    (network.cluster.values place).Perm
      (lostAt labours place ++ next.cluster.values place) := by
  cases befalls with
  | refused => exact .refl _
  | received => exact .refl _
  | passed => exact .refl _
  | advanced _ changes => exact changes.cluster ▸ .refl _
  | begun _ adds => exact adds.cluster ▸ .refl _
  | delivered _ _ _ target => exact Cluster.values_called target _ ▸ .refl _
  | @worked other index node task service target running stepped =>
      obtain ⟨_, removed?, event⟩ := plain _ List.mem_cons_self
      have replica := (Cluster.worked_calls running stepped).1
      have lost := (node.service.replica.lost_of_plain task event)
      rw [← replica] at lost
      rw [Cluster.values_set target, lostAt, List.filterMap_cons, List.filterMap_nil]
      by_cases here : other = place
      · subst here
        dsimp only at event
        rw [if_pos rfl, if_pos rfl, event, Cluster.values, target]
        cases removed? <;> exact lost
      · rw [if_neg here, if_neg here]
        exact .refl _

/-- Whatever was stored is still stored, or it was removed by steps of takes. -/
theorem Chronicle.values (chronicle : Chronicle first record log network)
    (faultless : first.faults = []) (still : first.parcels = [])
    (plain : ∀ labour ∈ log, labour.IsPlain) (place : Nat) :
    (first.cluster.values place).Perm (lostAt log place ++ network.cluster.values place) := by
  induction chronicle with
  | start => exact .refl _
  | @step record deeds log network next occurrence earlier undergone induction =>
      have traceable := (earlier.stems faultless still).traceable
      have befalls : network.Befalls record deeds (network.labours record occurrence) next :=
        befalls_of_undergo traceable.faultless undergone
      have before := induction fun labour member => plain labour (List.mem_append_left _ member)
      have now := befalls.values
        (fun labour member => plain labour (List.mem_append_right _ member)) place
      rw [lostAt, List.filterMap_append, List.append_assoc]
      exact before.trans (now.append_left _)

end Network

theorem removed_for_two {log : List Labour} {left right : Nat} (apart : left ≠ right)
    (two : ∀ labour ∈ log, labour.job? = some left ∨ labour.job? = some right) (place : Nat) :
    (lostAt log place).Perm (removedFor log left place ++ removedFor log right place) := by
  induction log with
  | nil => exact .refl _
  | cons labour rest induction =>
      have later := induction fun other member => two other (List.mem_cons_of_mem _ member)
      have at_once : lostAt (labour :: rest) place =
          lostAt [labour] place ++ lostAt rest place :=
        List.filterMap_append (l := [labour])
      have each : ∀ job, removedFor (labour :: rest) job place =
          removedFor [labour] job place ++ removedFor rest job place := by
        intro job
        rw [← List.singleton_append, removedFor, done_append]
        rfl
      have own : ∀ job, labour.job? = some job →
          removedFor [labour] job place = lostAt [labour] place := by
        intro job mine
        refine List.filterMap_congr fun labour member => ?_
        rw [List.mem_singleton.mp member]
        simp only [mine, true_and]
      have other : ∀ job, labour.job? ≠ some job → removedFor [labour] job place = [] := by
        intro job foreign
        exact done_nothing fun _ member => List.mem_singleton.mp member ▸ foreign
      rw [at_once, each, each]
      rcases two labour List.mem_cons_self with mine | mine
      · rw [own left mine, other right (by simp [mine, apart]), List.nil_append,
          List.append_assoc]
        exact later.append_left _
      · rw [own right mine, other left (by simp [mine, apart.symm]), List.nil_append]
        refine (later.append_left _).trans ?_
        rw [← List.append_assoc, ← List.append_assoc]
        exact List.perm_append_comm.append_right _

def returned : Except ClientError Outcome → List String
  | .ok (.tuple tuple) => [tuple]
  | _ => []

namespace Removes

variable {table : List (String × Nat)} {removed : Nat → List String}
  {result : Except ClientError Outcome}

/-- A take has had removed what it has returned, and something in vain only if it has failed. -/
theorem in_vain (removes : Removes table removed result) {row : String × Nat}
    (member : row ∈ table) :
    ∃ vain, removed row.2 = returned result ++ vain ∧
      (vain = [] ↔ ∀ cause, result = .error cause → removed row.2 = []) := by
  cases result with
  | error cause => exact ⟨_, rfl, fun nothing _ _ => nothing, fun nothing => nothing cause rfl⟩
  | ok outcome =>
      obtain ⟨tuple, rfl, each⟩ := removes
      exact ⟨[], each row member, by simp⟩

end Removes

namespace Network

variable {first last : Network} {record : List Deed} {log : List Labour} {index left right : Nat}
  {session : Session} {source other : String} {op? also? : Option Operation}
  {table : List (String × Nat)} {given received : Except ClientError Outcome}

/-- Of two takes by quorum of one session each that succeeds has had its tuple removed once at every
replica. Each that fails has had nothing removed, unless a replica rejected its removal: then it may
have had one copy of one tuple removed at each of the others. That is all that the replicas have
lost. So they have lost just what the takes have returned exactly if no removal of a take that has
failed was carried out. -/
theorem shared_takes_account (chronicle : Chronicle first record log last)
    (faultless : first.faults = []) (quiet : first.IsQuiet)
    (there : first.sessions[index]? = some session) (quorum : session.config.takeMode = .quorum)
    (fixed : first.IsFixed session table) (reached : ∀ row ∈ table, first.cluster.Reaches row.2)
    (apart : left ≠ right) (one : .begins left index (.take source) op? ∈ record)
    (two : .begins right index (.take other) also? ∈ record)
    (alone : ∀ job, Begun record job → job = left ∨ job = right)
    (done : last.jobs[left]? = some (.finished given))
    (ended : last.jobs[right]? = some (.finished received)) :
    Removes table (removedFor log left) given ∧ Removes table (removedFor log right) received ∧
      (∀ row ∈ table, (first.cluster.values row.2).Perm
        (removedFor log left row.2 ++ removedFor log right row.2 ++ last.cluster.values row.2)) ∧
      ((∀ row ∈ table, (first.cluster.values row.2).Perm
          (returned given ++ returned received ++ last.cluster.values row.2)) ↔
        ∀ row ∈ table, ∀ cause, (given = .error cause → removedFor log left row.2 = []) ∧
          (received = .error cause → removedFor log right row.2 = [])) := by
  obtain ⟨took, plain⟩ := chronicle.take_removes faultless quiet.parcels there quorum fixed reached
    one
  obtain ⟨taken, simple⟩ := chronicle.take_removes faultless quiet.parcels there quorum fixed
    reached two
  have own : ∀ labour ∈ log, ∀ job, labour.job? = some job → Begun record job →
      labour.IsPlain := by
    intro labour member job mine begun
    rcases alone job begun with rfl | rfl
    · exact plain labour member mine
    · exact simple labour member mine
  have engaged := chronicle.engaged faultless quiet fun labour member job mine begun =>
    (own labour member job mine begun).1
  have lost : ∀ row ∈ table, (first.cluster.values row.2).Perm
      (removedFor log left row.2 ++ removedFor log right row.2 ++ last.cluster.values row.2) := by
    intro row _
    have all : ∀ labour ∈ log, labour.IsPlain := by
      intro labour member
      obtain ⟨job, mine, begun⟩ := engaged.labours labour member
      exact own labour member job mine begun
    have for_two : ∀ labour ∈ log, labour.job? = some left ∨ labour.job? = some right := by
      intro labour member
      obtain ⟨job, mine, begun⟩ := engaged.labours labour member
      rcases alone job begun with rfl | rfl
      · exact Or.inl mine
      · exact Or.inr mine
    exact (chronicle.values faultless quiet.parcels all row.2).trans
      ((removed_for_two apart for_two row.2).append_right _)
  refine ⟨took _ done, taken _ ended, lost, forall₂_congr fun row member => ?_⟩
  obtain ⟨vain, removed, vain_iff⟩ := (took _ done).in_vain member
  obtain ⟨wasted, also, wasted_iff⟩ := (taken _ ended).in_vain member
  have all := lost row member
  rw [forall_and, ← vain_iff, ← wasted_iff]
  rw [removed, also] at all
  constructor
  · intro returns
    -- What was removed in vain is lost besides what was returned, so there is none of it.
    have sizes := (all.symm.trans returns).length_eq
    simp only [List.length_append] at sizes
    exact ⟨List.length_eq_zero_iff.mp (by omega), List.length_eq_zero_iff.mp (by omega)⟩
  · rintro ⟨rfl, rfl⟩
    simpa using all

def pairWith (tuples : List String) : Network :=
  let service : Service :=
    { replica := { store := { space := ⟨tuples.map fun tuple => ⟨tuple, none⟩⟩ } } }
  { registry := ⟨[("TupleSpaces", [⟨"A", "local:1"⟩, ⟨"B", "local:2"⟩])]⟩
    cluster :=
      { nodes := [{ qualifier := "A", service }, { qualifier := "B", service }]
        listeners := [("local:2", 1), ("local:1", 0)] }
    sessions := [{ client := ⟨1⟩, config := { take := { policy := { maxRetries := 1 } } } }] }

/-- The second take asks for reservations after the first has had its tuple removed, and before the
first is told so. -/
private def takingTurns : List Occurrence :=
  [.begin 0 (.take "<a>"), .event (.advance 0), .event (.send 0), .event (.send 1),
    .event (.work 0 0), .event (.work 1 0), .event (.receive 0), .event (.receive 0),
    .event (.advance 0), .event (.advance 0), .event (.advance 0), .begin 0 (.take "<b>"),
    .event (.advance 1), .event (.send 0), .event (.work 0 1), .event (.send 1),
    .event (.work 1 1), .event (.send 2), .event (.work 0 2), .event (.send 3),
    .event (.work 1 2), .event (.receive 0), .event (.receive 0), .event (.receive 0),
    .event (.receive 0), .event (.advance 0), .event (.advance 0), .event (.advance 0),
    .event (.advance 1), .event (.advance 1), .event (.advance 1), .event (.send 0),
    .event (.work 0 3), .event (.send 1), .event (.work 1 3), .event (.receive 0),
    .event (.receive 0), .event (.advance 1), .event (.advance 1), .event (.advance 1)]

theorem shared_takes_account_of_turns :
    ∃ record log last, Chronicle (pairWith ["<a>", "<b>"]) record log last ∧
      last.jobs[0]? = some (.finished (.ok (.tuple "<a>"))) ∧
      last.jobs[1]? = some (.finished (.ok (.tuple "<b>"))) ∧
      ∀ row ∈ [("A", 0), ("B", 1)], ((pairWith ["<a>", "<b>"]).cluster.values row.2).Perm
        (["<a>"] ++ ["<b>"] ++ last.cluster.values row.2) := by
  have done : ((pairWith ["<a>", "<b>"]).relate? [] [] takingTurns).map
        (fun last => (last.2.2.jobs, last.1.filter (· matches .begins ..))) =
      some ([.finished (.ok (.tuple "<a>")), .finished (.ok (.tuple "<b>"))],
        [.begins 0 0 (.take "<a>") (some (.take "<a>")),
          .begins 1 0 (.take "<b>") (some (.take "<b>"))]) := by
    decide +kernel
  obtain ⟨⟨record, log, last⟩, related, outcome⟩ := Option.map_eq_some_iff.mp done
  obtain ⟨jobs, begun⟩ := Prod.mk.inj outcome
  dsimp only at jobs begun
  have chronicle : Chronicle (pairWith ["<a>", "<b>"]) record log last :=
    chronicle_of_relate .start related
  have quiet : (pairWith ["<a>", "<b>"]).IsQuiet := by
    refine ⟨rfl, by simp [pairWith], ?_⟩
    intro node member state inside
    simp only [pairWith, List.mem_cons, List.not_mem_nil, or_false] at member
    rcases member with rfl | rfl <;> cases inside
  have looked : (pairWith ["<a>", "<b>"]).lookUp { take := { policy := { maxRetries := 1 } } } =
      .ok ⟨[⟨⟨"A", "local:1"⟩, 0, 0⟩, ⟨⟨"B", "local:2"⟩, 1, 0⟩]⟩ := by
    decide +kernel
  have fixed : (pairWith ["<a>", "<b>"]).IsFixed
      { client := ⟨1⟩, config := { take := { policy := { maxRetries := 1 } } } }
      [("A", 0), ("B", 1)] := by
    refine ⟨by simp, by simp, by simp, fun set found => ?_⟩
    rw [looked] at found
    cases found
    rfl
  have reached : ∀ row ∈ [("A", 0), ("B", 1)],
      (pairWith ["<a>", "<b>"]).cluster.Reaches row.2 := by
    simp only [List.mem_cons, List.not_mem_nil, or_false, forall_eq_or_imp, forall_eq]
    exact ⟨⟨_, rfl, rfl⟩, _, rfl, rfl⟩
  have inside : ∀ deed ∈ [Deed.begins 0 0 (.take "<a>") (some (.take "<a>")),
      .begins 1 0 (.take "<b>") (some (.take "<b>"))], deed ∈ record := by
    rw [← begun]
    exact fun deed member => (List.mem_filter.mp member).1
  have alone : ∀ job, Begun record job → job = 0 ∨ job = 1 := by
    rintro job ⟨session, command, operation?, member⟩
    have known : Deed.begins job session command operation? ∈
        record.filter (· matches .begins ..) := List.mem_filter.mpr ⟨member, rfl⟩
    rw [begun] at known
    rcases List.mem_cons.mp known with same | rest
    · exact Or.inl (Deed.begins.inj same).1
    · exact Or.inr (Deed.begins.inj (List.mem_singleton.mp rest)).1
  have one : last.jobs[0]? = some (.finished (.ok (.tuple "<a>"))) := by rw [jobs]; rfl
  have two : last.jobs[1]? = some (.finished (.ok (.tuple "<b>"))) := by rw [jobs]; rfl
  have there : (pairWith ["<a>", "<b>"]).sessions[0]? =
      some { client := ⟨1⟩, config := { take := { policy := { maxRetries := 1 } } } } := rfl
  have left : .begins 0 0 (.take "<a>") (some (.take "<a>")) ∈ record := inside _ (by simp)
  have right : .begins 1 0 (.take "<b>") (some (.take "<b>")) ∈ record := inside _ (by simp)
  obtain ⟨_, _, _, lost⟩ := shared_takes_account chronicle rfl quiet there rfl fixed reached
    Nat.zero_ne_one left right alone one two
  exact ⟨record, log, last, chronicle, one, two, lost.mpr (by simp)⟩

private def crossing : List Occurrence :=
  [.begin 0 (.take "<a>"), .begin 0 (.take "<a>"), .event (.advance 0), .event (.send 0),
    .event (.send 1), .event (.work 0 0), .event (.work 1 0), .event (.receive 0),
    .event (.receive 0), .event (.advance 0), .event (.advance 0), .event (.advance 0),
    .event (.send 0), .event (.work 0 1), .event (.advance 1), .event (.send 2),
    .event (.send 3), .event (.work 0 2), .event (.work 1 1), .event (.receive 2),
    .event (.receive 2), .event (.advance 1), .event (.advance 1), .event (.advance 1),
    .event (.send 2), .event (.work 1 2), .event (.receive 2), .event (.advance 1),
    .event (.advance 1), .event (.advance 1), .event (.send 1), .event (.work 1 3),
    .event (.receive 0), .event (.receive 0), .event (.advance 0), .event (.advance 0),
    .event (.send 0), .event (.send 1), .event (.work 0 3), .event (.work 1 4),
    .event (.receive 0), .event (.receive 0), .event (.advance 0), .event (.advance 0),
    .event (.advance 0)]

/-- One replica has carried the removal of the first take out when the second take finds the tuple
held at the other one alone, and has it freed there. Both takes fail, and the first replica has lost
its tuple. -/
theorem shared_takes_lose_a_tuple :
    ∃ record log last given received, Chronicle (pairWith ["<a>"]) record log last ∧
      record.filter (· matches .begins ..) =
        [.begins 0 0 (.take "<a>") (some (.take "<a>")),
          .begins 1 0 (.take "<a>") (some (.take "<a>"))] ∧
      last.jobs = [.finished given, .finished received] ∧
      returned given = [] ∧ returned received = [] ∧
      (pairWith ["<a>"]).cluster.values 0 = ["<a>"] ∧ last.cluster.values 0 = [] ∧
      ¬((pairWith ["<a>"]).cluster.values 0).Perm
        (returned given ++ returned received ++ last.cluster.values 0) := by
  have done : ((pairWith ["<a>"]).relate? [] [] crossing).map
        (fun last => (last.1.filter (· matches .begins ..), last.2.2.jobs,
          last.2.2.cluster.values 0)) =
      some ([.begins 0 0 (.take "<a>") (some (.take "<a>")),
          .begins 1 0 (.take "<a>") (some (.take "<a>"))],
        [.finished (.error (.rejected "B" (.notHolder "<a>" ⟨1⟩))),
          .finished (.error (.backoffExceeded 1))], []) := by
    decide +kernel
  obtain ⟨⟨record, log, last⟩, related, outcome⟩ := Option.map_eq_some_iff.mp done
  simp only [Prod.mk.injEq] at outcome
  obtain ⟨begun, jobs, left⟩ := outcome
  refine ⟨record, log, last, _, _, chronicle_of_relate .start related, begun, jobs, rfl, rfl, rfl,
    left, ?_⟩
  rw [left]
  intro same
  exact absurd same.length_eq (by decide)

end Network

end TupleSpace
