import TupleSpace.Proofs.NetworkHistory
import TupleSpace.Proofs.TakeRelease

/-!
# Jobs of other clients

What a client holds is changed by requests alone that name it, and a take sends none that name
another client. So a job shuns a client if it is no take of that client; it still does after every
step, and whatever it posts does not concern the client.
-/

namespace TupleSpace

namespace TakeMachine

structure Minds (client : ClientId) (decided : TakeMachine × Except ClientError TakeAction) :
    Prop where
  whose : decided.1.client = client
  request : ∀ targets request, decided.2 = .ok (.send targets request) →
    request.client? = some client

variable {machine : TakeMachine} {replies : List (String × Response)}

theorem ask_minds {stage : TakeStage} {targets : List String} {request : Request}
    (own : request.client? = some machine.client) :
    Minds machine.client (machine.ask stage targets request) := by
  refine ⟨rfl, fun others posted same => ?_⟩
  cases same
  exact own

theorem ask_reservations_minds (machine : TakeMachine) :
    Minds machine.client machine.askReservations := ask_minds rfl

theorem ask_pause_minds (machine : TakeMachine) : Minds machine.client machine.askPause := by
  unfold askPause
  dsimp only
  split
  · exact ⟨rfl, by simp⟩
  · exact ask_reservations_minds { machine with stage := .reserve }

theorem give_up_minds (machine : TakeMachine) : Minds machine.client machine.giveUp :=
  ⟨rfl, by simp [giveUp]⟩

theorem ask_release_minds (machine : TakeMachine) : Minds machine.client machine.askRelease := by
  unfold askRelease
  dsimp only
  split
  · split
    · exact give_up_minds { machine with locked := [], stage := .exhausted }
    · exact ask_pause_minds { machine with locked := [], stage := .pause }
  · refine ⟨rfl, fun targets request same => ?_⟩
    cases same
    rfl

theorem act_minds (machine : TakeMachine) : Minds machine.client machine.act := by
  unfold act
  split
  · exact ask_reservations_minds machine
  · exact ask_release_minds machine
  · exact ask_pause_minds machine
  · unfold askCommit
    split
    · exact ask_minds rfl
    · exact ⟨rfl, by simp⟩
  · unfold finish
    split
    · exact ⟨rfl, by simp⟩
    · exact ⟨rfl, by simp⟩
  · exact give_up_minds machine
  all_goals exact ⟨rfl, by simp⟩

theorem client_noted (machine : TakeMachine) (replies : List (String × Response)) :
    (machine.noteReservations replies).1.client = machine.client := by
  induction replies generalizing machine with
  | nil => rfl
  | cons reply rest induction =>
      unfold noteReservations
      split
      · rfl
      · exact induction machine
      · exact induction _

theorem client_settled (machine : TakeMachine) : machine.settleRound.client = machine.client := by
  unfold settleRound
  split
  · rfl
  · rfl
  · split
    · rfl
    · dsimp only
      split <;> rfl

theorem client_absorbed (machine : TakeMachine) (replies : List (String × Response)) :
    (machine.absorb replies).1.client = machine.client := by
  unfold absorb
  split
  · split <;> rfl
  · dsimp only
    split
    · rfl
    · split
      · have same := client_noted { machine with awaiting := [] } replies
        split
        · rename_i noted found
          rw [found] at same
          exact (client_settled noted).trans same
        · rename_i noted cause found
          rw [found] at same
          exact same
      · split <;> rfl
      · split <;> rfl

theorem step_minds (machine : TakeMachine) (replies : List (String × Response)) :
    Minds machine.client (machine.step replies) := by
  have same := machine.client_absorbed replies
  unfold step
  split
  · rename_i absorbed found
    rw [found] at same
    exact same ▸ act_minds absorbed
  · rename_i absorbed cause found
    rw [found] at same
    exact ⟨same, by simp⟩

end TakeMachine

/-! ## Attempts -/

namespace AttemptStage

/-- A stage of an attempt by some client that never comes to concern another one. -/
def Shuns (client own : ClientId) : AttemptStage → Prop
  | .asking _ _ | .abandoning _ _ => True
  | .taking machine _ | .pausing machine _ => own ≠ client ∧ machine.client ≠ client

end AttemptStage

namespace AttemptStep

def Shuns (client own : ClientId) : AttemptStep → Prop
  | .ended _ => True
  | .goOn stage => stage.Shuns client own
  | .post stage request _ => stage.Shuns client own ∧ request.client? ≠ some client

variable {client own : ClientId}

theorem failing_shuns (set : ReplicaSet) {whose : ClientId} (cause : ClientError)
    (other : whose ≠ client) : (failingTake set whose cause).Shuns client own := by
  unfold failingTake
  split
  · trivial
  · unfold abandoning
    split
    · rename_i exchange handles asked
      refine ⟨trivial, ?_⟩
      rw [(ReplicaSet.fan_out_asks asked).1]
      exact fun same => other (Option.some.inj same)
    · trivial

theorem driving_shuns (set : ReplicaSet) (machine : TakeMachine)
    (replies : List (String × Response)) (whose : own ≠ client)
    (other : machine.client ≠ client) : (driving set machine replies).Shuns client own := by
  have minds := machine.step_minds replies
  unfold driving
  split
  · rename_i next targets request decided
    rw [decided] at minds
    have apart : next.client ≠ client := minds.whose ▸ other
    split
    · rename_i exchange handles asked
      refine ⟨⟨whose, apart⟩, ?_⟩
      rw [(ReplicaSet.fan_out_asks asked).1]
      dsimp only
      rw [minds.request targets request rfl]
      exact fun same => other (Option.some.inj same)
    · exact failing_shuns set _ apart
  · rename_i next pause decided
    rw [decided] at minds
    exact ⟨whose, minds.whose ▸ other⟩
  · trivial
  · rename_i next cause decided
    rw [decided] at minds
    exact failing_shuns set cause (minds.whose ▸ other)

end AttemptStep

theorem ReplicaSet.ask_poses {set : ReplicaSet} {targets : List String} {request : Request}
    {expected? : Option Expected} {wait : Wait} {exchange : Exchange} {handles : List Handle}
    (asked : set.ask targets request expected? wait = .ok (exchange, handles)) :
    exchange.request = request ∧ exchange.expected? = expected? := by
  unfold ask at asked
  cases found : set.handlesOf targets with
  | error cause =>
      rw [found] at asked
      cases asked
  | ok others =>
      rw [found] at asked
      cases asked
      exact ⟨rfl, rfl⟩

namespace Query

def request : Query → Request
  | put tuple => .put tuple
  | read pattern => .read pattern
  | state _ => .state
  | sequencedPut number tuple => .sequencedPut tuple number
  | sequencedTake number pattern => .sequencedTake pattern number
  | fanOut _ request => request

theorem request_asked {query : Query} {set : ReplicaSet} {exchange : Exchange}
    {handles : List Handle} (asked : query.ask set = .ok (exchange, handles)) :
    exchange.request = query.request := by
  cases query with
  | read pattern =>
      unfold ask at asked
      dsimp only at asked
      split at asked
      · cases asked
      · exact (ReplicaSet.ask_poses asked).1
  | _ => exact (ReplicaSet.ask_poses asked).1

end Query

namespace Operation

def Shuns (client : ClientId) (operation : Operation) : Prop :=
  ∀ targets request, operation = .query (.fanOut targets request) → request.client? ≠ some client

end Operation

namespace Attempt

variable {client own : ClientId}

theorem start_shuns {set : ReplicaSet} {policy : TakePolicy} {operation : Operation}
    (shuns : operation.Shuns client)
    (other : ∀ pattern, operation = .take pattern → own ≠ client) :
    (start set own policy operation).Shuns client own := by
  cases operation with
  | query query =>
      unfold start AttemptStep.asking
      dsimp only
      split
      · trivial
      · split
        · rename_i exchange handles asked
          refine ⟨trivial, ?_⟩
          rw [Query.request_asked asked]
          cases query with
          | fanOut targets request => exact shuns targets request rfl
          | _ => simp [Query.request, Request.client?]
        · trivial
  | take pattern =>
      have apart := other pattern rfl
      unfold start AttemptStep.taking
      dsimp only
      split
      · trivial
      · exact AttemptStep.driving_shuns set _ [] apart apart

theorem advance_shuns {attempt : Attempt} {step : AttemptStep}
    (shuns : attempt.stage.Shuns client attempt.client)
    (stepped : attempt.advance? = some step) : step.Shuns client attempt.client := by
  unfold advance? at stepped
  split at stepped
  · obtain ⟨progress, _, rfl⟩ := Option.map_eq_some_iff.mp stepped
    split <;> trivial
  · rename_i machine exchange stage
    rw [stage] at shuns
    obtain ⟨progress, _, rfl⟩ := Option.map_eq_some_iff.mp stepped
    split
    · exact shuns
    · exact AttemptStep.failing_shuns _ _ shuns.1
    · exact AttemptStep.driving_shuns _ machine _ shuns.1 shuns.2
  · rename_i machine pause stage
    rw [stage] at shuns
    cases stepped
    exact AttemptStep.driving_shuns _ machine [] shuns.1 shuns.2
  · obtain ⟨progress, _, rfl⟩ := Option.map_eq_some_iff.mp stepped
    split <;> trivial

end Attempt

/-! ## Jobs -/

/-- An errand of a network that goes on from a first one, and no take of the client. -/
structure Errand.Shuns (first : Network) (client : ClientId) (errand : Errand) : Prop where
  operation : errand.operation.Shuns client
  other : ∀ pattern, errand.operation = .take pattern → ∀ session,
    first.sessions[errand.session]? = some session → session.client ≠ client
  attempt : ∀ attempt, errand.attempt? = some attempt →
    attempt.stage.Shuns client attempt.client

def Job.Shuns (first : Network) (client : ClientId) : Job → Prop
  | running errand => errand.Shuns first client
  | _ => True

variable {first network : Network} {client : ClientId} {errand : Errand} {job : Job}

theorem AttemptStage.shuns_record {attempt : Attempt}
    (shuns : attempt.stage.Shuns client attempt.client) (replica : String)
    (answer : Except TransportError Reply) :
    (attempt.record replica answer).stage.Shuns client (attempt.record replica answer).client := by
  obtain ⟨set, own, stage⟩ := attempt
  cases stage <;> exact shuns

theorem Job.shuns_record (shuns : job.Shuns first client) (exchange : Nat) (replica : String)
    (answer : Except TransportError Reply) :
    (job.record exchange replica answer).Shuns first client := by
  cases job with
  | running errand =>
      unfold Job.record Errand.record
      dsimp only
      split
      · refine ⟨shuns.operation, shuns.other, ?_⟩
        intro attempt under
        obtain ⟨before, had, rfl⟩ := Option.map_eq_some_iff.mp under
        exact AttemptStage.shuns_record (shuns.attempt before had) replica answer
      · exact shuns
  | sleeping wake => trivial
  | finished result => trivial

namespace Network

theorem Ends.shuns {result : Except ClientError Outcome} (ends : Ends errand result job)
    (shuns : errand.Shuns first client) : job.Shuns first client := by
  cases ends with
  | finished => trivial
  | retried retries transport =>
      exact ⟨shuns.operation, shuns.other, fun attempt none => by cases none⟩

theorem Installs.shuns {set : ReplicaSet} {own : ClientId} {step : AttemptStep}
    {posted? : Option (List Parcel)}
    (installs : Installs network errand set own step job posted?)
    (shuns : errand.Shuns first client) (steps : step.Shuns client own) :
    job.Shuns first client ∧
      ∀ parcel ∈ posted?.getD [], parcel.request.client? ≠ some client := by
  cases installs with
  | ended ends => exact ⟨ends.shuns shuns, by simp⟩
  | wentOn =>
      refine ⟨⟨shuns.operation, shuns.other, fun attempt under => ?_⟩, by simp⟩
      cases under
      exact steps
  | posted =>
      refine ⟨⟨shuns.operation, shuns.other, fun attempt under => ?_⟩, fun parcel member => ?_⟩
      · cases under
        exact steps.1
      · obtain ⟨handle, _, rfl⟩ := List.mem_map.mp member
        exact steps.2

theorem Advances.shuns {index : Nat} {posted? : Option (List Parcel)}
    (advances : Advances network index job posted?) (upholds : first.Upholds network)
    (shuns : ∀ errand, network.jobs[index]? = some (.running errand) → errand.Shuns first client) :
    job.Shuns first client ∧
      ∀ parcel ∈ posted?.getD [], parcel.request.client? ≠ some client := by
  cases advances with
  | woke found => exact ⟨trivial, by simp⟩
  | unresolved found idle other ends => exact ⟨ends.shuns (shuns _ found), by simp⟩
  | began found idle there table installs =>
      have before := shuns _ found
      obtain ⟨session, known, continues⟩ := upholds.session_before there
      refine installs.shuns before (Attempt.start_shuns before.operation ?_)
      intro pattern same
      rw [continues.client]
      exact before.other pattern same session known
  | advanced found under stepped installs =>
      have before := shuns _ found
      exact installs.shuns before (Attempt.advance_shuns (before.attempt _ under) stepped)

theorem Begins.shuns {index : Nat} {command : Command} {sequencer : Sequencer}
    (begins : Begins network index command job sequencer)
    (other : ∀ pattern, job.operation? = some (.take pattern) → ∀ session,
      first.sessions[index]? = some session → session.client ≠ client) :
    job.Shuns first client := by
  cases begins with
  | ended => trivial
  | sleeps => trivial
  | takes there quorum =>
      refine ⟨by simp [Operation.Shuns], ?_, by simp⟩
      intro pattern same
      cases same
      exact other _ rfl
  | _ => exact ⟨by simp [Operation.Shuns], by simp, by simp⟩

end Network

end TupleSpace
