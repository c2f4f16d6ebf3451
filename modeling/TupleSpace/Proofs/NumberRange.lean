import TupleSpace.Proofs.ReplicaStep
import TupleSpace.Proofs.SequencedService
import TupleSpace.Proofs.WireRoundTrip
import TupleSpace.Replica.Connection

/-!
# Numbers of 64 bits

Sequence numbers travel as numbers of 64 bits. Where those of the calls and the counter of the gate
are such, so are those in every reply.
-/

namespace TupleSpace

def Task.Fits : Task → Prop
  | .turn number _ _ => number < UInt64.size
  | _ => True

def CallState.Fits : CallState → Prop
  | .running task | .parked task _ => task.Fits
  | .finished (.error cause) => cause.Fits
  | .finished (.ok _) => True

/-- The numbers that the gate may answer with are of 64 bits. -/
structure Gate.Fits (gate : Gate) : Prop where
  next : gate.next < UInt64.size
  failed : ∀ {number : Nat} {record : OpRecord} {cause : StoreError},
    gate.record? number = some record → record.outcome = .failed cause → cause.Fits

structure Service.Fits (service : Service) : Prop where
  gate : service.replica.gate.Fits
  calls : ∀ state ∈ service.calls, state.Fits

theorem CallState.Fits.woken {state : CallState} (fits : state.Fits) (signals : List Signal) :
    (state.woken signals).Fits := by
  cases state with
  | parked task signal =>
      unfold CallState.woken
      dsimp only
      split <;> exact fits
  | _ => exact fits

theorem SequencedOp.refused_fits {op : SequencedOp} {store : Store} {cause : StoreError}
    (refused : (op.apply store).1 = .error cause) : cause.Fits := by
  rw [refused_for refused]
  cases op <;> trivial

theorem Pattern.refusal_fits {source : String} {cause : StoreError}
    (refused : parse source = .error cause) : cause.Fits :=
  @SequencedOp.refused_fits (.take source) {} cause
    (congrArg (·.1) (SequencedOp.take_refused {} refused))

theorem Gate.repeated_fits {gate : Gate} (fits : gate.Fits) {number : Nat}
    (bound : number < UInt64.size) {op : SequencedOp} {cause : StoreError}
    (answer : gate.repeated number op = .answer (.error cause)) : cause.Fits := by
  have stale : (StoreError.staleSequence number gate.next).Fits := ⟨bound, fits.next⟩
  unfold repeated at answer
  split at answer
  · rename_i record found
    split at answer
    · split at answer
      · cases answer
      · cases answer
      · rename_i failure outcome
        cases answer
        exact fits.failed found outcome
      · cases answer
    · cases answer
      exact stale
  · cases answer
    exact stale

theorem Gate.advance_fits {gate : Gate} (fits : gate.Fits) (next : gate.next + 1 < UInt64.size)
    {op : SequencedOp} {result : Except StoreError Applied}
    (failed : ∀ cause, result = .error cause → cause.Fits) :
    (gate.advance ⟨op, .ofResult result⟩).Fits := by
  refine ⟨next, fun {number record cause} found outcome => ?_⟩
  rcases record_advance found with ⟨rfl, rfl⟩ | earlier
  · cases result with
    | error fault =>
        cases outcome
        exact failed _ rfl
    | ok applied => cases applied <;> cases outcome
  · exact fits.failed earlier outcome

theorem Gate.amend_fits {gate : Gate} (fits : gate.Fits) (number : Nat) (tuple : String) :
    (gate.amend number (.taken tuple)).Fits := by
  refine ⟨by simpa using fits.next, fun {other record cause} found outcome => ?_⟩
  rw [record_of_amend] at found
  obtain ⟨old, earlier, rfl⟩ := Option.map_eq_some_iff.mp found
  split at outcome
  · cases outcome
  · exact fits.failed earlier outcome

theorem TurnGoal.after_fits (goal : TurnGoal) {number next : Nat} (task : Task)
    (bound : number < UInt64.size) (below : next < UInt64.size)
    {result : Except StoreError Applied} (failed : ∀ cause, result = .error cause → cause.Fits) :
    (CallState.ofMove task (goal.after number next result)).Fits := by
  cases result with
  | error cause => exact failed cause rfl
  | ok applied =>
      cases goal with
      | apply => trivial
      | put => trivial
      | take =>
          cases applied with
          | stored => exact ⟨bound, below⟩
          | taken tuple => trivial
          | queued ticket => trivial

namespace Replica

variable {replica : Replica} {task : Task}

theorem next_grows (replica : Replica) (task : Task) :
    replica.gate.next ≤ (replica.step task).replica.gate.next := by
  cases task with
  | turn number op goal =>
      by_cases now : number = replica.gate.next
      · subst now
        rw [step_now]
        exact Nat.le_succ _
      · rw [replica.step_out_of_turn now]
  | note number tuple => simp [step]
  | _ => rw [gate_step replica rfl]

theorem gate_fits_step (fits : replica.gate.Fits)
    (below : (replica.step task).replica.gate.next < UInt64.size) :
    (replica.step task).replica.gate.Fits := by
  cases task with
  | turn number op goal =>
      by_cases now : number = replica.gate.next
      · subst now
        rw [step_now] at below ⊢
        exact Gate.advance_fits fits below fun cause refused => SequencedOp.refused_fits refused
      · rw [replica.step_out_of_turn now]
        exact fits
  | note number tuple => exact Gate.amend_fits fits number tuple
  | _ =>
      rw [gate_step replica rfl]
      exact fits

/-- Whatever a step refuses, it refuses with numbers of 64 bits. -/
theorem move_fits_step (fits : replica.gate.Fits) (suits : task.Fits)
    (below : (replica.step task).replica.gate.next < UInt64.size) :
    (CallState.ofMove task (replica.step task).move).Fits := by
  cases task with
  | turn number op goal =>
      rcases Nat.lt_trichotomy number replica.gate.next with past | rfl | ahead
      · rw [step_past past]
        cases answer : replica.gate.repeated number op with
        | wait => exact suits
        | answer result =>
            refine goal.after_fits _ suits fits.next fun cause refused => ?_
            exact Gate.repeated_fits fits suits (refused ▸ answer)
      · rw [step_now] at below ⊢
        exact goal.after_fits _ suits below fun cause refused => SequencedOp.refused_fits refused
      · rw [step_ahead ahead]
        exact suits
  | put tuple =>
      simp only [step]
      cases put : replica.store.put tuple with
      | ok next => trivial
      | error cause =>
          have refused : ((SequencedOp.put tuple).apply replica.store).1 = .error cause := by
            simp [SequencedOp.apply, put]
          exact SequencedOp.refused_fits refused
  | commit tuple client =>
      simp only [step]
      cases commit : replica.store.space.commit tuple client with
      | ok next => trivial
      | error cause =>
          unfold Space.commit at commit
          split at commit <;> cases commit
          trivial
  | handoff ticket number? =>
      simp only [step]
      split
      · trivial
      · cases number? <;> trivial
  | _ =>
      simp only [step]
      first
        | trivial
        | split <;> trivial

end Replica

namespace Service

variable {service next : Service}

theorem fits_step {index : Nat} (fits : service.Fits) (stepped : service.step? index = some next)
    (below : next.replica.gate.next < UInt64.size) : next.Fits := by
  obtain ⟨task, running⟩ := step_running stepped
  have suits : task.Fits := fits.calls _ (List.mem_of_getElem? running)
  unfold step? at stepped
  simp only [running, Option.some.injEq] at stepped
  subst stepped
  refine ⟨Replica.gate_fits_step fits.gate below, fun state member => ?_⟩
  obtain ⟨before, stored, rfl⟩ := List.mem_map.mp member
  apply CallState.Fits.woken
  rcases List.mem_or_eq_of_mem_set stored with old | rfl
  · exact fits.calls before old
  · exact Replica.move_fits_step fits.gate suits below

theorem next_of_step {index : Nat} (stepped : service.step? index = some next) :
    service.replica.gate.next ≤ next.replica.gate.next := by
  obtain ⟨task, running⟩ := step_running stepped
  unfold step? at stepped
  simp only [running, Option.some.injEq] at stepped
  subst stepped
  exact service.replica.next_grows task

theorem next_of_settle (rounds : Nat) (service : Service) :
    service.replica.gate.next ≤ (settleFor rounds service).replica.gate.next := by
  induction rounds generalizing service with
  | zero => exact Nat.le_refl _
  | succ rounds induction =>
      unfold settleFor
      split
      · exact Nat.le_refl _
      · split
        · rename_i next stepped
          exact Nat.le_trans (next_of_step stepped) (induction next)
        · exact Nat.le_refl _

theorem fits_settle (rounds : Nat) (fits : service.Fits)
    (below : (settleFor rounds service).replica.gate.next < UInt64.size) :
    (settleFor rounds service).Fits := by
  induction rounds generalizing service with
  | zero => exact fits
  | succ rounds induction =>
      unfold settleFor at below ⊢
      split at below
      · exact fits
      · split at below
        · rename_i next stepped
          have reached := Nat.lt_of_le_of_lt (next_of_settle rounds next) below
          exact induction (fits_step fits stepped reached) below
        · exact fits

theorem fits_call {request : Request} (fits : service.Fits) (suits : request.Fits) :
    (service.call request.task).Fits := by
  refine ⟨fits.gate, fun state member => ?_⟩
  rcases List.mem_append.mp member with old | new
  · exact fits.calls state old
  · cases List.mem_singleton.mp new
    cases request with
    | read pattern | reserve pattern client =>
        simp only [Request.task]
        cases parsed : Pattern.parse pattern with
        | ok _ => trivial
        | error cause => exact Pattern.refusal_fits parsed
    | _ => exact suits

/-- As long as the counter of the gate is a number of 64 bits, so are the numbers of a reply. -/
theorem fits_answer {request : Request} (fits : service.Fits) (suits : request.Fits)
    (below : (service.answer? request).2.replica.gate.next < UInt64.size) {reply : Reply}
    (answered : (service.answer? request).1 = some reply) : reply.Fits := by
  have settled : (service.answer? request).2.Fits := fits_settle _ (fits_call fits suits) below
  obtain ⟨result, stored, rfl⟩ := Option.map_eq_some_iff.mp answered
  obtain ⟨state, present, finished⟩ := Option.bind_eq_some_iff.mp stored
  have told := settled.calls state (List.mem_of_getElem? present)
  cases state with
  | finished outcome =>
      cases finished
      cases result with
      | error cause => exact told
      | ok answer => trivial
  | _ => cases finished

end Service

end TupleSpace
