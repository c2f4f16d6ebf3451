import TupleSpace.Proofs.NetworkHistory

/-!
# Numbers drawn for calls that fail

A session that takes in a total order draws the number of a put or a take before it looks its
replicas up. So a call that fails has drawn its number whatever it failed for, unless its argument
was refused or there was nothing to draw from: also when no replica was found or none could be
connected, and nothing was sent.

The registry, the replicas and the faults may be others at every moment, and a lookup may fail for
reasons of its own.
-/

namespace TupleSpace

def Command.isMutation : Command → Bool
  | .put _ | .take _ => true
  | _ => false

/-- Whether a call failed before a number was drawn for it. -/
def ClientError.isRefusal : ClientError → Bool
  | .invalid _ | .sequencer .notConfigured => true
  | _ => false

theorem ClientError.late_of_outage {cause : ClientError} (outage : cause.isOutage = true) :
    cause.isRefusal = false := by
  cases cause <;> first | rfl | cases outage

namespace Network

/-- What a network may turn into while the registry, the replicas and the faults change freely and
lookups may fail. -/
inductive Course (first : Network) : Network → Prop
  | start : Course first first
  | event {network next : Network} {event : NetworkEvent} (earlier : Course first network)
      (performed : network.perform? event = some next) : Course first next
  | turned {network : Network} (earlier : Course first network) (registry : Registry)
      (cluster : Cluster) (faults : List Fault) :
      Course first { network with registry, cluster, faults }
  | unresolved {network : Network} {index : Nat} {errand : Errand} {cause : ClientError}
      (earlier : Course first network) (found : network.jobs[index]? = some (.running errand))
      (idle : errand.attempt? = none) (outage : cause.isOutage = true) :
      Course first (network.conclude index errand (.error cause))

end Network

/-! ## Exchanges -/

inductive Starts : Except ClientError (Exchange × List Handle) → Prop
  | asked {exchange : Exchange} {handles : List Handle}
      (unfailed : exchange.collector.failures = []) : Starts (.ok (exchange, handles))
  | stopped {cause : ClientError} (late : cause.isRefusal = false) : Starts (.error cause)

section

variable {exchange : Exchange} {query : Query} {set : ReplicaSet} {cause : ClientError}

theorem Exchange.outcome_late {replica : String} {answer : Except TransportError Reply}
    (failed : exchange.outcome replica answer = .error cause) : cause.isRefusal = false := by
  unfold outcome at failed
  split at failed
  · cases failed
    rfl
  · cases failed
    rfl
  · split at failed
    · cases failed
    · split at failed
      · cases failed
      · cases failed
        rfl

theorem ReplicaSet.handles_late {names : List String}
    (failed : set.handlesOf names = .error cause) : cause.isRefusal = false := by
  unfold handlesOf at failed
  induction names generalizing cause with
  | nil => cases failed
  | cons name rest induction =>
      rw [List.mapM_cons] at failed
      cases found : set.handle name with
      | error other =>
          rw [found] at failed
          cases failed
          unfold handle at found
          split at found <;> cases found
          rfl
      | ok handle =>
          cases others : rest.mapM set.handle with
          | error other =>
              rw [found, others] at failed
              cases failed
              exact induction others
          | ok handles =>
              rw [found, others] at failed
              cases failed

theorem ReplicaSet.ask_starts (set : ReplicaSet) (targets : List String) (request : Request)
    (expected? : Option Expected) (wait : Wait) :
    Starts (set.ask targets request expected? wait) := by
  unfold ask
  cases handles : set.handlesOf targets with
  | error other => exact .stopped (handles_late handles)
  | ok handles => exact .asked rfl

theorem Query.ask_starts (query : Query) (set : ReplicaSet) : Starts (query.ask set) := by
  cases query with
  | read pattern =>
      unfold ask
      dsimp only
      split
      · exact .stopped rfl
      · exact set.ask_starts _ _ _ _
  | _ => exact set.ask_starts _ _ _ _

theorem Query.conclude_late {replies : List (String × Response)}
    (failed : query.conclude replies = .error cause) : cause.isRefusal = false := by
  unfold conclude at failed
  split at failed
  case h_3 | h_4 =>
    split at failed
    · cases failed
    · cases failed
      rfl
  all_goals cases failed

end

/-! ## Jobs that pursue a query -/

/-- An exchange that has not failed for want of a number or of a valid argument. -/
def AttemptStage.Asks (query : Query) : AttemptStage → Prop
  | .asking own exchange =>
      own = query ∧ ∀ cause ∈ exchange.collector.failures, cause.isRefusal = false
  | _ => False

inductive AttemptStep.Pursues (query : Query) : AttemptStep → Prop
  | ended {outcome : Outcome} : Pursues query (.ended (.ok outcome))
  | failed {cause : ClientError} (late : cause.isRefusal = false) :
      Pursues query (.ended (.error cause))
  | wentOn {stage : AttemptStage} (asks : stage.Asks query) : Pursues query (.goOn stage)
  | posted {stage : AttemptStage} {request : Request} {handles : List Handle}
      (asks : stage.Asks query) : Pursues query (.post stage request handles)

/-- A job for a query that was given a number, or what has come of it. -/
inductive Job.Pursues (query : Query) : Job → Prop
  | running {errand : Errand} (operation : errand.operation = .query query)
      (under : ∀ attempt, errand.attempt? = some attempt → attempt.stage.Asks query) :
      Pursues query (.running errand)
  | ended {outcome : Outcome} : Pursues query (.finished (.ok outcome))
  | failed {cause : ClientError} (late : cause.isRefusal = false) :
      Pursues query (.finished (.error cause))

section

variable {query : Query} {errand : Errand} {job : Job}

theorem start_pursues (valid : query.check = .ok ()) (set : ReplicaSet) (client : ClientId)
    (policy : TakePolicy) : (Attempt.start set client policy (.query query)).Pursues query := by
  have starts := query.ask_starts set
  unfold Attempt.start AttemptStep.asking
  dsimp only
  rw [valid]
  generalize query.ask set = asked at starts
  cases starts with
  | asked unfailed => exact .posted ⟨rfl, by simp [unfailed]⟩
  | stopped late => exact .failed late

theorem advance_pursues {attempt : Attempt} {step : AttemptStep}
    (asks : attempt.stage.Asks query) (stepped : attempt.advance? = some step) :
    step.Pursues query := by
  unfold Attempt.advance? at stepped
  cases stage : attempt.stage with
  | asking own exchange =>
      rw [stage] at asks stepped
      obtain ⟨rfl, late⟩ := asks
      obtain ⟨progress, looked, rfl⟩ := Option.map_eq_some_iff.mp stepped
      unfold Exchange.look? at looked
      split at looked
      · split at looked
        · cases looked
          exact .wentOn ⟨rfl, late⟩
        · cases looked
      · split at looked
        · rename_i cause first
          cases looked
          exact .failed (late cause (List.mem_of_head? first))
        · cases looked
          exact .wentOn ⟨rfl, late⟩
      · cases looked
        cases concluded : own.conclude exchange.collector.responses with
        | ok outcome =>
            dsimp only
            rw [concluded]
            exact .ended
        | error cause =>
            dsimp only
            rw [concluded]
            exact .failed (Query.conclude_late concluded)
  | _ =>
      rw [stage] at asks
      exact asks.elim

theorem record_pursues {attempt : Attempt} (asks : attempt.stage.Asks query) (replica : String)
    (answer : Except TransportError Reply) : (attempt.record replica answer).stage.Asks query := by
  unfold Attempt.record
  cases stage : attempt.stage with
  | asking own exchange =>
      rw [stage] at asks
      obtain ⟨rfl, late⟩ := asks
      refine ⟨rfl, ?_⟩
      unfold Exchange.record
      cases outcome : exchange.outcome replica answer with
      | ok reply => exact late
      | error cause =>
          intro other member
          rcases List.mem_append.mp member with old | new
          · exact late other old
          · exact List.mem_singleton.mp new ▸ Exchange.outcome_late outcome
  | _ =>
      rw [stage] at asks
      exact asks.elim

theorem Job.Pursues.record (pursues : job.Pursues query) (exchange : Nat) (replica : String)
    (answer : Except TransportError Reply) : (job.record exchange replica answer).Pursues query := by
  cases pursues with
  | @running errand operation under =>
      refine .running ?_ fun attempt recorded => ?_
      · rw [Errand.record_eq]
        exact operation
      · rw [Errand.attempt_record] at recorded
        split at recorded
        · obtain ⟨before, there, rfl⟩ := Option.map_eq_some_iff.mp recorded
          exact record_pursues (under before there) replica answer
        · exact under attempt recorded
  | ended => exact .ended
  | failed late => exact .failed late

end

namespace Network

variable {network next last first : Network} {index : Nat} {errand : Errand} {query : Query}

theorem Ends.pursues {job : Job} {cause : ClientError} (operation : errand.operation = .query query)
    (late : cause.isRefusal = false) (ends : Ends errand (.error cause) job) :
    job.Pursues query := by
  cases ends with
  | finished => exact .failed late
  | retried retries transport => exact .running operation (by simp)

theorem Installs.pursues {replicas : ReplicaSet} {client : ClientId} {step : AttemptStep}
    {job : Job} {posted? : Option (List Parcel)} (operation : errand.operation = .query query)
    (pursues : step.Pursues query)
    (installs : Installs network errand replicas client step job posted?) :
    job.Pursues query := by
  cases pursues with
  | ended =>
      cases installs with
      | ended ends =>
          cases ends with
          | finished => exact .ended
  | failed late =>
      cases installs with
      | ended ends => exact ends.pursues operation late
  | wentOn asks =>
      cases installs with
      | wentOn => exact .running operation fun attempt same => by cases same; exact asks
  | posted asks =>
      cases installs with
      | posted => exact .running operation fun attempt same => by cases same; exact asks

inductive Turns : Job → Job → Prop
  | woke {wake : Nat} : Turns (.sleeping wake) (.finished (.ok .done))
  | unresolved {errand : Errand} {cause : ClientError} {job : Job} (outage : cause.isOutage = true)
      (ends : Ends errand (.error cause) job) : Turns (.running errand) job
  | began {network : Network} {errand : Errand} {replicas : ReplicaSet} {client : ClientId}
      {policy : TakePolicy} {job : Job} {posted? : Option (List Parcel)}
      (installs : Installs network errand replicas client
        (Attempt.start replicas client policy errand.operation) job posted?) :
      Turns (.running errand) job
  | advanced {network : Network} {errand : Errand} {attempt : Attempt} {step : AttemptStep}
      {job : Job} {posted? : Option (List Parcel)} (under : errand.attempt? = some attempt)
      (stepped : attempt.advance? = some step)
      (installs : Installs network errand attempt.replicas attempt.client step job posted?) :
      Turns (.running errand) job

theorem Turns.pursues {before after : Job} (turns : Turns before after)
    (valid : query.check = .ok ()) (pursues : before.Pursues query) : after.Pursues query := by
  cases pursues with
  | @running errand operation under =>
      cases turns with
      | unresolved outage ends => exact ends.pursues operation (ClientError.late_of_outage outage)
      | began installs =>
          rw [operation] at installs
          exact installs.pursues operation (start_pursues valid _ _ _)
      | advanced attempted stepped installs =>
          exact installs.pursues operation (advance_pursues (under _ attempted) stepped)
  | ended => cases turns
  | failed late => cases turns

theorem advance_turns (performed : network.advance? index = some next) :
    ∃ before after posted?, network.jobs[index]? = some before ∧ Turns before after ∧
      network.Changes next index after posted? := by
  have moves : network.Moves (.advance index) next := moves_of_perform performed
  cases moves with
  | @began _ errand found idle =>
      obtain ⟨cause, job, outage, ends, changes⟩ |
        ⟨session, replicas, job, posted?, _, _, installs, changes⟩ :=
        network.begin_attempt_cases index errand
      · exact ⟨_, job, none, found, .unresolved outage ends, changes⟩
      · exact ⟨_, job, posted?, found, .began installs, changes⟩
  | @advanced _ errand attempt step found under stepped =>
      obtain ⟨job, posted?, installs, changes⟩ :=
        network.install_changes index errand attempt.replicas attempt.client step
      exact ⟨_, job, posted?, found, .advanced under stepped installs, changes⟩
  | woke found => exact ⟨_, _, none, found, .woke, changes_set_job network index _⟩

structure Lasting (keeps : Job → Prop) : Prop where
  recorded : ∀ job exchange replica answer, keeps job → keeps (job.record exchange replica answer)
  turned : ∀ before after, Turns before after → keeps before → keeps after

def Has (network : Network) (index : Nat) (keeps : Job → Prop) : Prop :=
  ∃ job, network.jobs[index]? = some job ∧ keeps job

namespace Lasting

variable {keeps : Job → Prop}

theorem changed (lasting : Lasting keeps) {other : Nat} {before after : Job}
    {posted? : Option (List Parcel)} (found : network.jobs[other]? = some before)
    (turns : Turns before after) (changes : network.Changes next other after posted?)
    (has : network.Has index keeps) : next.Has index keeps := by
  obtain ⟨later, known, kept⟩ := has
  unfold Has
  rw [changes.job_at]
  split
  · rename_i same
    subst same
    rw [found] at known
    cases known
    exact ⟨after, by simp [found], lasting.turned _ _ turns kept⟩
  · exact ⟨later, known, kept⟩

theorem answered (lasting : Lasting keeps) (has : network.Has index keeps) (exchange : Nat)
    (replica : String) (answer : Except TransportError Reply)
    (jobs : next.jobs = network.jobs.map (.record exchange replica answer)) :
    next.Has index keeps := by
  obtain ⟨later, known, held⟩ := has
  exact ⟨_, by rw [jobs, List.getElem?_map, known]; rfl, lasting.recorded _ _ _ _ held⟩

theorem event (lasting : Lasting keeps) {event : NetworkEvent}
    (performed : network.perform? event = some next) (has : network.Has index keeps) :
    next.Has index keeps := by
  cases event with
  | advance other =>
      obtain ⟨before, after, posted?, found, turns, changes⟩ := advance_turns performed
      exact lasting.changed found turns changes has
  | send parcel =>
      cases moves_of_perform performed with
      | failed => exact lasting.answered has _ _ _ rfl
      | forged => exact lasting.answered has _ _ _ rfl
      | delivered => exact has
  | receive parcel =>
      cases moves_of_perform performed with
      | received => exact lasting.answered has _ _ _ rfl
  | work place call =>
      cases moves_of_perform performed with
      | worked => exact has
  | pass milliseconds =>
      cases performed
      exact has

theorem of_finished (outcome : Except ClientError Outcome) : Lasting (· = .finished outcome) where
  recorded job _ _ _ same := by
    rw [same]
    rfl
  turned _ _ turns same := by
    subst same
    cases turns

theorem of_pursues (valid : query.check = .ok ()) : Lasting (·.Pursues query) where
  recorded _ exchange replica answer pursues := pursues.record exchange replica answer
  turned _ _ turns := turns.pursues valid

end Lasting

theorem Course.keeps {keeps : Job → Prop} (course : Course first last) (lasting : Lasting keeps)
    (has : first.Has index keeps) : last.Has index keeps := by
  induction course with
  | start => exact has
  | turned _ _ _ _ kept => exact kept
  | unresolved _ found _ outage kept =>
      obtain ⟨after, ends, changes⟩ := conclude_changes _ _ _ _
      exact lasting.changed found (.unresolved outage ends) changes kept
  | event _ performed kept => exact lasting.event performed kept

/-- Whatever goes on, no number is drawn but when a call begins. -/
theorem Course.sequencer_kept (course : Course first last) :
    last.sequencer = first.sequencer := by
  induction course with
  | start => rfl
  | turned _ _ _ _ kept => exact kept
  | unresolved _ _ _ _ kept =>
      obtain ⟨_, _, changes⟩ := conclude_changes _ _ _ _
      exact changes.sequencer.trans kept
  | @event _ _ event _ performed kept =>
      cases event with
      | advance other =>
          obtain ⟨_, _, _, changes⟩ := advance_changes performed
          exact changes.sequencer.trans kept
      | _ => cases moves_of_perform performed <;> exact kept

/-! ## Calls of sessions that take in a total order -/

theorem begin_refused_or_drawn {session : Session} {command : Command}
    (there : network.sessions[index]? = some session)
    (mode : session.config.takeMode = .sequenced) (mutation : command.isMutation = true) :
    (∃ cause, cause.isRefusal = true ∧
        network.begin index command = network.addJob (.finished (.error cause))) ∨
      ∃ query, query.check = .ok () ∧
        network.begin index command =
          { network with sequencer := network.sequencer.issue.2 }.addJob
            (.running { session := index, operation := .query query }) := by
  cases command with
  | put tuple =>
      unfold begin Session.put
      rw [there]
      dsimp only
      cases checked : checkTuple tuple with
      | error e => exact Or.inl ⟨_, rfl, rfl⟩
      | ok done =>
          dsimp only [Session.ordered]
          rw [mode]
          unfold Session.issue
          cases session.isSequenced with
          | false => exact Or.inl ⟨_, rfl, rfl⟩
          | true =>
              refine Or.inr ⟨_, ?_, rfl⟩
              rw [Query.check, checked]
              rfl
  | take pattern =>
      unfold begin Session.take
      rw [there]
      dsimp only
      cases checked : checkPattern pattern with
      | error e => exact Or.inl ⟨_, rfl, rfl⟩
      | ok done =>
          dsimp only [Session.ordered]
          rw [mode]
          unfold Session.issue
          cases session.isSequenced with
          | false => exact Or.inl ⟨_, rfl, rfl⟩
          | true =>
              refine Or.inr ⟨_, ?_, rfl⟩
              rw [Query.check, checked]
              rfl
  | _ => cases mutation

theorem issue_differs (sequencer : Sequencer) : sequencer.issue.2 ≠ sequencer := by
  intro same
  have next : (sequencer.next + 1) % UInt64.size = sequencer.next := congrArg (·.next) same
  simp only [UInt64.size] at next
  omega

/-- A put or a take that fails leaves the sequencer as it was if it was refused before a number was
drawn, and only then. Whatever else it failed for, the number it has drawn is gone. -/
theorem failed_call_draws {session : Session} {command : Command} {cause : ClientError}
    (there : network.sessions[index]? = some session)
    (mode : session.config.takeMode = .sequenced) (mutation : command.isMutation = true)
    (course : Course (network.begin index command) last)
    (ended : last.jobs[network.jobs.length]? = some (.finished (.error cause))) :
    (last.sequencer = network.sequencer ↔ cause.isRefusal = true) ∧
      (cause.isRefusal = false → last.sequencer = network.sequencer.issue.2) := by
  obtain ⟨refusal, refused, begun⟩ | ⟨query, valid, begun⟩ :=
    begin_refused_or_drawn there mode mutation
  · rw [begun] at course
    obtain ⟨later, known, same⟩ := course.keeps (.of_finished (.error refusal))
      ⟨_, List.getElem?_concat_length, rfl⟩
    rw [ended, same] at known
    cases known
    have kept : last.sequencer = network.sequencer := course.sequencer_kept
    simp [kept, refused]
  · rw [begun] at course
    obtain ⟨later, known, pursues⟩ := course.keeps (.of_pursues valid)
      ⟨_, List.getElem?_concat_length, .running rfl (by simp)⟩
    rw [ended] at known
    cases known
    have drawn : last.sequencer = network.sequencer.issue.2 := course.sequencer_kept
    cases pursues with
    | failed late => simp [drawn, late, issue_differs]

def deserted : Network :=
  { sessions := [⟨⟨1⟩, { takeMode := .sequenced, callRetries := 1 }, true, none⟩] }

/-- The first lookup of a put fails at a connector, and the second one finds nothing. -/
theorem failed_call_draws_of_outage :
    ∃ last, Course (deserted.begin 0 (.put "<a>")) last ∧
      last.jobs = [.finished (.error (.noReplicas "TupleSpaces"))] ∧
      last.sequencer ≠ deserted.sequencer ∧ last.sequencer = ⟨2⟩ := by
  let errand : Errand := { session := 0, operation := .query (.sequencedPut 1 "<a>") }
  let cause : ClientError := .transport (.unreachable "A" "refused")
  have retried : Course (deserted.begin 0 (.put "<a>"))
      ((deserted.begin 0 (.put "<a>")).conclude 0 errand (.error cause)) :=
    .unresolved .start (by decide +kernel) rfl rfl
  have performed : (((deserted.begin 0 (.put "<a>")).conclude 0 errand (.error cause)).perform?
      (.advance 0)).map (·.jobs) =
        some [.finished (.error (.noReplicas "TupleSpaces"))] := by
    decide +kernel
  obtain ⟨last, performed, jobs⟩ := Option.map_eq_some_iff.mp performed
  have course := Course.event retried performed
  have there : deserted.sessions[0]? =
      some ⟨⟨1⟩, { takeMode := .sequenced, callRetries := 1 }, true, none⟩ := rfl
  obtain ⟨kept, drawn⟩ := failed_call_draws there rfl rfl course (by rw [jobs]; rfl)
  have changed : last.sequencer ≠ deserted.sequencer := fun same => by cases kept.mp same
  exact ⟨last, course, jobs, changed, drawn rfl⟩

/-- No replica is registered, so a put fails without having sent anything, and its number is
gone. -/
theorem number_drawn_unsent :
    ∃ last, Course (deserted.begin 0 (.put "<a>")) last ∧
      last.jobs = [.finished (.error (.noReplicas "TupleSpaces"))] ∧ last.sent = [] ∧
      deserted.sequencer.next = 1 ∧ last.sequencer.next = 2 := by
  have performed : ((deserted.begin 0 (.put "<a>")).perform? (.advance 0)).map
      (fun last => (last.jobs, last.sent, last.sequencer.next)) =
        some ([.finished (.error (.noReplicas "TupleSpaces"))], [], 2) := by
    decide +kernel
  obtain ⟨last, performed, same⟩ := Option.map_eq_some_iff.mp performed
  obtain ⟨jobs, sent, next⟩ : _ ∧ _ ∧ _ := by simpa only [Prod.mk.injEq] using same
  exact ⟨last, .event .start performed, jobs, sent, rfl, next⟩

end Network

end TupleSpace
