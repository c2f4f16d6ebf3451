import TupleSpace.Proofs.StoreConservation

/-!
# Numbers that come again

The gate remembers the latest operations with what came of them. What it remembers, and with it
the answer to every number that comes again, is read off the run: the turns so far, and the tuples
that queued takes were answered with.
-/

namespace TupleSpace

/-- A number had its turn: what was asked under it, and what came of it at once. -/
structure AppliedTurn where
  number : Nat
  op : SequencedOp
  result : Except StoreError Applied
deriving DecidableEq

structure Deliveries where
  turns : List AppliedTurn := []
  collected : List (Nat × String) := []
  /-- What the calls of queued takes were answered with, by number. -/
  delivered : List (Nat × String) := []

namespace Replica

def turn? (replica : Replica) : Task → Option AppliedTurn
  | .turn number op _ =>
      if number = replica.gate.next then some ⟨number, op, (op.apply replica.store).1⟩ else none
  | _ => none

def delivered? (replica : Replica) (task : Task) : Option (Nat × String) :=
  match task, (replica.step task).move with
  | .note number _, .finish (.ok (.tuple tuple)) => some (number, tuple)
  | _, _ => none

def deliveries (replica : Replica) (tasks : List Task) : Deliveries where
  turns := (replica.trace tasks).filterMap fun (before, task) => before.turn? task
  collected := (replica.events tasks).filterMap (·.collected?)
  delivered := (replica.trace tasks).filterMap fun (before, task) => before.delivered? task

end Replica

namespace Deliveries

variable {past later : Deliveries} {next number : Nat} {op : SequencedOp}

/-- What is to be remembered of a turn. -/
inductive CameTo (past : Deliveries) : AppliedTurn → OpOutcome → Prop
  | settled {turn : AppliedTurn} (final : ∀ ticket, turn.result ≠ .ok (.queued ticket)) :
      CameTo past turn (.ofResult turn.result)
  | received {turn : AppliedTurn} {ticket : Nat} {tuple : String}
      (queued : turn.result = .ok (.queued ticket)) (collected : (ticket, tuple) ∈ past.collected)
      (delivered : (turn.number, tuple) ∈ past.delivered) : CameTo past turn (.taken tuple)
  | waiting {turn : AppliedTurn} {ticket : Nat} (queued : turn.result = .ok (.queued ticket))
      (undelivered : ∀ tuple, (turn.number, tuple) ∉ past.delivered) : CameTo past turn .waiting

inductive Recalls (past : Deliveries) (next number : Nat) (op : SequencedOp) : Gate.Repeat → Prop
  | settled {result : Except StoreError Applied} (turn : ⟨number, op, result⟩ ∈ past.turns)
      (recent : next ≤ number + Gate.historyLength)
      (final : ∀ ticket, result ≠ .ok (.queued ticket)) :
      Recalls past next number op (.answer result)
  /-- The take was queued, and the answer is the tuple that its first call got. -/
  | received {ticket : Nat} {tuple : String}
      (turn : ⟨number, op, .ok (.queued ticket)⟩ ∈ past.turns)
      (recent : next ≤ number + Gate.historyLength) (collected : (ticket, tuple) ∈ past.collected)
      (delivered : (number, tuple) ∈ past.delivered) :
      Recalls past next number op (.answer (.ok (.taken tuple)))
  | waiting {ticket : Nat} (turn : ⟨number, op, .ok (.queued ticket)⟩ ∈ past.turns)
      (recent : next ≤ number + Gate.historyLength)
      (undelivered : ∀ tuple, (number, tuple) ∉ past.delivered) :
      Recalls past next number op .wait
  /-- The number came before the first one or too long ago, or with another operation. -/
  | stale (unknown : next ≤ number + Gate.historyLength →
      ∀ result, ⟨number, op, result⟩ ∉ past.turns) :
      Recalls past next number op (.answer (.error (.staleSequence number next)))

/-- Whatever waits for a tuple was queued, and whatever reports one has collected it. -/
def Warrants (past : Deliveries) : Task → Prop
  | .handoff ticket (some number) => ∃ op, ⟨number, op, .ok (.queued ticket)⟩ ∈ past.turns
  | .note number tuple => ∃ op ticket, ⟨number, op, .ok (.queued ticket)⟩ ∈ past.turns ∧
      (ticket, tuple) ∈ past.collected
  | _ => True

/-- The calls that may be made: any but notes, and waits for takes that were queued only. -/
def Admits (past : Deliveries) : Except StoreError Task → Prop
  | .ok (.note _ _) => False
  | .ok task => past.Warrants task
  | .error _ => True

def Extends (past later : Deliveries) : Prop :=
  past.turns ⊆ later.turns ∧ past.collected ⊆ later.collected

theorem Warrants.mono {task : Task} (warrants : past.Warrants task) (grown : past.Extends later) :
    later.Warrants task := by
  cases task with
  | handoff ticket number? =>
      cases number? with
      | none => trivial
      | some number =>
          obtain ⟨op, queued⟩ := warrants
          exact ⟨op, grown.1 queued⟩
  | note number tuple =>
      obtain ⟨op, ticket, queued, collected⟩ := warrants
      exact ⟨op, ticket, grown.1 queued, grown.2 collected⟩
  | _ => trivial

theorem came_to_result (turn : AppliedTurn)
    (undelivered : ∀ tuple, (turn.number, tuple) ∉ past.delivered) :
    past.CameTo turn (.ofResult turn.result) := by
  obtain ⟨number, op, result⟩ := turn
  cases result with
  | error cause => exact .settled nofun
  | ok applied =>
      cases applied with
      | queued ticket => exact .waiting rfl undelivered
      | _ => exact .settled nofun

theorem CameTo.mono {turn : AppliedTurn} {outcome : OpOutcome} (came : past.CameTo turn outcome)
    (collected : past.collected ⊆ later.collected)
    (same : ∀ tuple, (turn.number, tuple) ∈ later.delivered ↔
      (turn.number, tuple) ∈ past.delivered) :
    later.CameTo turn outcome := by
  cases came with
  | settled final => exact .settled final
  | received queued got delivered =>
      exact .received queued (collected got) ((same _).mpr delivered)
  | waiting queued undelivered =>
      exact .waiting queued fun tuple member => undelivered tuple ((same tuple).mp member)

end Deliveries

/-! ## What is remembered -/

namespace Gate

structure Recounts (first : Nat) (past : Deliveries) (gate : Gate) : Prop where
  started : first ≤ gate.next
  numbers : past.turns.map (·.number) = List.range' first (gate.next - first)
  length : gate.history.length = min (gate.next - first) historyLength
  delivered : ∀ {number : Nat} {tuple : String}, (number, tuple) ∈ past.delivered →
    number < gate.next
  records : ∀ {number : Nat} {record : OpRecord}, gate.record? number = some record →
    ∃ turn ∈ past.turns, turn.number = number ∧ turn.op = record.op ∧
      past.CameTo turn record.outcome

namespace Recounts

variable {first number : Nat} {past : Deliveries} {gate : Gate}

theorem remembered (recounts : gate.Recounts first past) (number : Nat) :
    (gate.record? number).isSome ↔
      first ≤ number ∧ number < gate.next ∧ gate.next ≤ number + historyLength := by
  have started := recounts.started
  unfold record?
  split
  · rw [Option.isSome_iff_ne_none, ne_eq, List.getElem?_eq_none_iff, recounts.length]
    omega
  · simp only [Option.isSome_none, Bool.false_eq_true, false_iff]
    omega

theorem turn_unique (recounts : gate.Recounts first past) {turn other : AppliedTurn}
    (here : turn ∈ past.turns) (there : other ∈ past.turns)
    (same : turn.number = other.number) : turn = other := by
  have distinct : (past.turns.map (·.number)).Nodup := recounts.numbers ▸ List.nodup_range'
  exact List.inj_on_of_nodup_map distinct here there same

theorem turn_between (recounts : gate.Recounts first past) {turn : AppliedTurn}
    (member : turn ∈ past.turns) : first ≤ turn.number ∧ turn.number < gate.next := by
  have number := List.mem_map_of_mem (f := (·.number)) member
  rw [recounts.numbers, List.mem_range'_1] at number
  have started := recounts.started
  omega

theorem recalls (recounts : gate.Recounts first past) (below : number < gate.next)
    (op : SequencedOp) : past.Recalls gate.next number op (gate.repeated number op) := by
  have remembered := recounts.remembered number
  unfold repeated
  cases found : gate.record? number with
  | none =>
      refine .stale fun recent result turn => ?_
      have between := recounts.turn_between turn
      rw [found] at remembered
      exact absurd (remembered.mpr ⟨between.1, below, recent⟩) Bool.false_ne_true
  | some record =>
      obtain ⟨_, _, recent⟩ := remembered.mp (by rw [found]; rfl)
      obtain ⟨turn, member, rfl, same, came⟩ := recounts.records found
      dsimp only
      split
      case isFalse other =>
        refine .stale fun _ result turn => ?_
        have equal := recounts.turn_unique member turn rfl
        exact other (same ▸ congrArg (·.op) equal)
      case isTrue asked =>
        obtain ⟨number, _, result⟩ := turn
        cases same.trans asked
        generalize record.outcome = outcome at came ⊢
        cases came with
        | settled final =>
            cases result with
            | error cause => exact .settled member recent final
            | ok applied =>
                cases applied with
                | queued ticket => exact absurd rfl (final ticket)
                | _ => exact .settled member recent final
        | received queued collected delivered =>
            cases queued
            exact .received member recent collected delivered
        | waiting queued undelivered =>
            cases queued
            exact .waiting member recent undelivered

theorem turn (recounts : gate.Recounts first past) (op : SequencedOp)
    (result : Except StoreError Applied) :
    (gate.advance ⟨op, .ofResult result⟩).Recounts first
      { past with turns := past.turns ++ [⟨gate.next, op, result⟩] } := by
  have started := recounts.started
  constructor
  case started => exact Nat.le_succ_of_le started
  case numbers =>
    have grown : gate.next + 1 - first = gate.next - first + 1 := by omega
    have last : first + (gate.next - first) = gate.next := by omega
    rw [List.map_append, recounts.numbers]
    simp only [advance, grown, List.range'_1_concat, last, List.map_cons, List.map_nil]
  case length =>
    change ((_ :: gate.history).take historyLength).length =
      min (gate.next + 1 - first) historyLength
    rw [List.length_take, List.length_cons, recounts.length]
    omega
  case delivered => exact fun member => Nat.lt_succ_of_lt (recounts.delivered member)
  case records =>
    intro number record found
    rcases record_advance found with ⟨rfl, rfl⟩ | earlier
    · refine ⟨_, List.mem_append_right _ (List.mem_singleton_self _), rfl, rfl, ?_⟩
      exact Deliveries.came_to_result ⟨gate.next, op, result⟩ fun tuple member =>
        absurd (recounts.delivered member) (Nat.lt_irrefl _)
    · obtain ⟨turn, member, same, asked, came⟩ := recounts.records earlier
      refine ⟨turn, List.mem_append_left _ member, same, asked, ?_⟩
      exact came.mono (List.Subset.refl _) fun _ => Iff.rfl

/-- Once the tuple of a queued take is reported, it is what is remembered of the take. -/
theorem note (recounts : gate.Recounts first past) {op : SequencedOp} {ticket : Nat}
    {tuple : String} (queued : ⟨number, op, .ok (.queued ticket)⟩ ∈ past.turns)
    (collected : (ticket, tuple) ∈ past.collected) :
    (gate.amend number (.taken tuple)).Recounts first
      { past with delivered := past.delivered ++ [(number, tuple)] } := by
  have next := gate.next_of_amend number (.taken tuple)
  constructor
  case started => exact next ▸ recounts.started
  case numbers => exact next ▸ recounts.numbers
  case length => rw [next, length_of_amend, recounts.length]
  case delivered =>
    intro other answer member
    rw [next]
    rcases List.mem_append.mp member with earlier | now
    · exact recounts.delivered earlier
    · cases List.mem_singleton.mp now
      exact (recounts.turn_between queued).2
  case records =>
    intro other record found
    rw [record_of_amend] at found
    obtain ⟨old, earlier, rfl⟩ := Option.map_eq_some_iff.mp found
    obtain ⟨⟨other, _, result⟩, member, rfl, asked, came⟩ := recounts.records earlier
    refine ⟨_, member, rfl, ?_⟩
    -- Only the record under the reported number changes, and only that number is delivered now.
    by_cases same : other = number
    · subst same
      cases recounts.turn_unique member queued rfl
      rw [if_pos rfl]
      exact ⟨asked, .received rfl collected (List.mem_append_right _ (List.mem_singleton_self _))⟩
    · rw [if_neg same]
      refine ⟨asked, came.mono (List.Subset.refl _) fun answer => ?_⟩
      simp [same]

theorem collect (recounts : gate.Recounts first past) (more : List (Nat × String)) :
    gate.Recounts first { past with collected := past.collected ++ more } := by
  constructor
  case started => exact recounts.started
  case numbers => exact recounts.numbers
  case length => exact recounts.length
  case delivered => exact recounts.delivered
  case records =>
    intro number record found
    obtain ⟨turn, member, same, asked, came⟩ := recounts.records found
    exact ⟨turn, member, same, asked, came.mono (List.subset_append_left _ _) fun _ => Iff.rfl⟩

/-- What happened to a number decides its answer, if no ticket was collected twice. -/
theorem recalls_iff (recounts : gate.Recounts first past)
    (once : (past.collected.map (·.1)).Nodup) (below : number < gate.next) (op : SequencedOp)
    (answer : Repeat) :
    gate.repeated number op = answer ↔ past.Recalls gate.next number op answer := by
  refine ⟨fun same => same ▸ recounts.recalls below op, fun told => ?_⟩
  have same : ∀ {result other : Except StoreError Applied}, ⟨number, op, result⟩ ∈ past.turns →
      ⟨number, op, other⟩ ∈ past.turns → result = other := fun here there =>
    congrArg (·.result) (recounts.turn_unique here there rfl)
  have found := recounts.recalls below op
  generalize gate.repeated number op = repeated at found
  cases found with
  | settled turn recent final =>
      cases told with
      | settled other => rw [same turn other]
      | received other => exact absurd (same turn other) (final _)
      | waiting other => exact absurd (same turn other) (final _)
      | stale unknown => exact absurd turn (unknown recent _)
  | received turn recent collected delivered =>
      cases told with
      | settled other _ final => exact absurd (same other turn) (final _)
      | received other _ got =>
          cases same turn other
          cases List.inj_on_of_nodup_map once collected got rfl
          rfl
      | waiting _ _ undelivered => exact absurd delivered (undelivered _)
      | stale unknown => exact absurd turn (unknown recent _)
  | waiting turn recent undelivered =>
      cases told with
      | settled other _ final => exact absurd (same other turn) (final _)
      | received _ _ _ delivered => exact absurd delivered (undelivered _)
      | waiting => rfl
      | stale unknown => exact absurd turn (unknown recent _)
  | stale unknown =>
      cases told with
      | settled turn recent => exact absurd turn (unknown recent _)
      | received turn recent => exact absurd turn (unknown recent _)
      | waiting turn recent => exact absurd turn (unknown recent _)
      | stale => rfl

end Recounts

/-- A call under the number would wait, before its turn or for the tuple of the first call. -/
def HoldsBack (gate : Gate) (number : Nat) (op : SequencedOp) : Prop :=
  gate.next < number ∨ number < gate.next ∧ gate.repeated number op = .wait

end Gate

theorem StoreEvent.collected_of_turn (op : SequencedOp) (result : Except StoreError Applied) :
    (ofTurn op result).collected? = none := by
  unfold ofTurn
  split <;> rfl

namespace Replica

variable {first : Nat} {replica : Replica}

theorem deliveries_concat (replica : Replica) (tasks : List Task) (task : Task) :
    replica.deliveries (tasks ++ [task]) =
      { turns := (replica.deliveries tasks).turns ++
          ((replica.carryOut tasks).turn? task).toList
        collected := (replica.deliveries tasks).collected ++
          ((replica.carryOut tasks).event task).collected?.toList
        delivered := (replica.deliveries tasks).delivered ++
          ((replica.carryOut tasks).delivered? task).toList } := by
  simp only [deliveries, trace_concat, events_concat, filter_map_concat]

theorem result_of_turn {tasks : List Task} {turn : AppliedTurn}
    (member : turn ∈ (replica.deliveries tasks).turns) :
    ∃ store, turn.result = (turn.op.apply store).1 := by
  obtain ⟨⟨before, task⟩, _, read⟩ := List.mem_filterMap.mp member
  cases task with
  | turn number op goal =>
      unfold turn? at read
      dsimp only at read
      split at read
      · cases read
        exact ⟨before.store, rfl⟩
      · cases read
  | _ => cases read

theorem extends_concat (replica : Replica) (tasks : List Task) (task : Task) :
    (replica.deliveries tasks).Extends (replica.deliveries (tasks ++ [task])) := by
  rw [deliveries_concat]
  exact ⟨List.subset_append_left _ _, List.subset_append_left _ _⟩

theorem recounts_step {tasks : List Task} {task : Task}
    (recounts : (replica.carryOut tasks).gate.Recounts first (replica.deliveries tasks))
    (warrants : (replica.deliveries tasks).Warrants task) :
    (replica.carryOut (tasks ++ [task])).gate.Recounts first
      (replica.deliveries (tasks ++ [task])) := by
  rw [carryOut_concat, deliveries_concat]
  generalize replica.deliveries tasks = past at recounts warrants ⊢
  generalize replica.carryOut tasks = replica at recounts ⊢
  cases task with
  | turn number op goal =>
      by_cases now : number = replica.gate.next
      · subst now
        rw [step_now]
        simpa [turn?, event, delivered?, takeTurn, StoreEvent.collected_of_turn] using
          recounts.turn op (op.apply replica.store).1
      · rw [replica.step_out_of_turn now]
        simpa [turn?, event, delivered?, now, StoreEvent.collected?] using recounts
  | note number tuple =>
      obtain ⟨op, ticket, queued, collected⟩ := warrants
      simpa [step, turn?, event, delivered?, StoreEvent.collected?] using
        recounts.note queued collected
  | _ =>
      rw [gate_step _ (by rfl)]
      simpa [turn?, delivered?] using recounts.collect _

theorem warrants_next {tasks : List Task} {task next : Task}
    (recounts : (replica.carryOut tasks).gate.Recounts first (replica.deliveries tasks))
    (warrants : (replica.deliveries tasks).Warrants task)
    (move : ((replica.carryOut tasks).step task).move = .goOn next) :
    (replica.deliveries (tasks ++ [task])).Warrants next := by
  rw [deliveries_concat]
  generalize replica.deliveries tasks = past at recounts warrants ⊢
  generalize replica.carryOut tasks = replica at recounts move ⊢
  cases task with
  | turn number op goal =>
      rcases Nat.lt_trichotomy number replica.gate.next with below | rfl | ahead
      · have recalls := recounts.recalls below op
        rw [step_past below] at move
        generalize replica.gate.repeated number op = repeated at recalls move
        cases recalls with
        | settled _ _ final =>
            obtain ⟨ticket, queued, _⟩ := TurnGoal.goes_on move
            exact absurd queued (final ticket)
        | received =>
            dsimp only at move
            obtain ⟨ticket, queued, _⟩ := TurnGoal.goes_on move
            cases queued
        | waiting => cases move
        | stale => cases move
      · rw [step_now] at move
        obtain ⟨ticket, queued, rfl⟩ := TurnGoal.goes_on move
        exact ⟨op, List.mem_append_right _ (by simp [turn?, queued])⟩
      · rw [step_ahead ahead] at move
        cases move
  | take pattern =>
      simp only [step] at move
      split at move
      · cases move
      · cases move
        trivial
  | handoff ticket number? =>
      cases collected : replica.store.collect? ticket with
      | none => simp [step, collected] at move
      | some pair =>
          cases number? with
          | none => simp [step, collected] at move
          | some number =>
              simp only [step, collected] at move
              cases move
              obtain ⟨op, queued⟩ := warrants
              refine ⟨op, ticket, List.mem_append_left _ queued, List.mem_append_right _ ?_⟩
              simp [event, step, collected, StoreEvent.collected?]
  | _ =>
      simp only [step] at move
      first
        | cases move
        | split at move <;> cases move

theorem gate_or_advanced (replica : Replica) (task : Task) :
    (replica.step task).replica.gate = replica.gate ∨
      (replica.step task).signals.contains .advanced = true := by
  cases task with
  | turn number op goal =>
      by_cases now : number = replica.gate.next
      · subst now
        rw [step_now]
        right
        unfold takeTurn
        dsimp only
        split <;> rfl
      · rw [replica.step_out_of_turn now]
        exact Or.inl rfl
  | note number tuple => exact Or.inr rfl
  | _ => exact Or.inl (gate_step replica rfl)

theorem parks_turn {number : Nat} {op : SequencedOp} {goal : TurnGoal} {signal : Signal}
    (move : (replica.step (.turn number op goal)).move = .park signal) :
    signal = .advanced ∧ replica.gate.HoldsBack number op ∧
      (replica.step (.turn number op goal)).replica = replica := by
  rcases Nat.lt_trichotomy number replica.gate.next with below | rfl | ahead
  · rw [step_past below] at move ⊢
    cases repeated : replica.gate.repeated number op with
    | wait =>
        rw [repeated] at move
        cases move
        exact ⟨rfl, Or.inr ⟨below, repeated⟩, rfl⟩
    | answer result =>
        rw [repeated] at move
        exact absurd move (goal.never_parks _ _ _ _)
  · rw [step_now] at move
    exact absurd move (goal.never_parks _ _ _ _)
  · rw [step_ahead ahead] at move ⊢
    cases move
    exact ⟨rfl, Or.inl ahead, rfl⟩

end Replica

namespace Service

def deliveries (first : Nat) (tasks : List Task) : Deliveries :=
  (start first).replica.deliveries tasks

/-- The services that calls lead to from a first number on, under any schedule, with the tasks
whose steps were carried out. -/
inductive Course (first : Nat) : List Task → Service → Prop
  | start : Course first [] (Service.start first)
  | call {tasks : List Task} {service : Service} {task : Except StoreError Task}
      (earlier : Course first tasks service) (admitted : (deliveries first tasks).Admits task) :
      Course first tasks (service.call task)
  | step {tasks : List Task} {service next : Service} {index : Nat} {task : Task}
      (earlier : Course first tasks service)
      (running : service.calls[index]? = some (.running task))
      (stepped : service.step? index = some next) :
      Course first (tasks ++ [task]) next
  | wake {tasks : List Task} {service : Service} (earlier : Course first tasks service) :
      Course first tasks service.wakeAll

end Service

def CallState.Suits (past : Deliveries) (gate : Gate) : CallState → Prop
  | .running task => past.Warrants task
  | .parked (.turn number op _) signal => signal = .advanced ∧ gate.HoldsBack number op
  | .parked task _ => past.Warrants task
  | .finished _ => True

namespace CallState

variable {past later : Deliveries} {gate next : Gate} {state : CallState}

theorem Suits.warrants {task : Task} {signal : Signal}
    (suits : (parked task signal).Suits past gate) : past.Warrants task := by
  cases task with
  | turn => trivial
  | _ => exact suits

theorem Suits.woken (suits : state.Suits past gate) (signals : List Signal) :
    (state.woken signals).Suits past gate := by
  cases state with
  | parked task signal =>
      unfold CallState.woken
      dsimp only
      split
      · exact suits.warrants
      · exact suits
  | _ => exact suits

theorem Suits.after {signals : List Signal} (suits : state.Suits past gate)
    (grown : past.Extends later) (told : next = gate ∨ signals.contains .advanced = true) :
    (state.woken signals).Suits later next := by
  cases state with
  | running task => exact Deliveries.Warrants.mono suits grown
  | finished result => trivial
  | parked task signal =>
      unfold CallState.woken
      dsimp only
      split
      case isTrue => exact suits.warrants.mono grown
      case isFalse unheard =>
        cases task with
        | turn number op goal =>
            obtain ⟨rfl, waits⟩ := suits
            exact ⟨rfl, told.resolve_right unheard ▸ waits⟩
        | _ => exact suits.warrants.mono grown

end CallState

namespace Service

variable {first : Nat} {tasks : List Task} {service next : Service}

structure InStep (first : Nat) (tasks : List Task) (service : Service) : Prop where
  replica : service.replica = (start first).replica.carryOut tasks
  recounts : service.replica.gate.Recounts first (deliveries first tasks)
  calls : ∀ state ∈ service.calls, state.Suits (deliveries first tasks) service.replica.gate

theorem in_step_start (first : Nat) : InStep first [] (start first) := by
  refine ⟨rfl, ⟨Nat.le_refl first, ?_, ?_, nofun, ?_⟩, nofun⟩
  · simp [deliveries, Replica.deliveries, Replica.trace, start]
  · simp [start]
  · intro number record found
    simp [start, Gate.record?] at found

theorem in_step_call {task : Except StoreError Task} (inStep : InStep first tasks service)
    (admitted : (deliveries first tasks).Admits task) :
    InStep first tasks (service.call task) := by
  refine ⟨inStep.replica, inStep.recounts, fun state member => ?_⟩
  rcases List.mem_append.mp member with old | new
  · exact inStep.calls state old
  · cases List.mem_singleton.mp new
    cases task with
    | error cause => trivial
    | ok task =>
        cases task with
        | note number tuple => exact admitted.elim
        | _ => exact admitted

theorem in_step_step {index : Nat} {task : Task} (inStep : InStep first tasks service)
    (running : service.calls[index]? = some (.running task))
    (stepped : service.step? index = some next) : InStep first (tasks ++ [task]) next := by
  have warrants : (deliveries first tasks).Warrants task :=
    inStep.calls _ (List.mem_of_getElem? running)
  have grown := (start first).replica.extends_concat tasks task
  have told := service.replica.gate_or_advanced task
  unfold step? at stepped
  simp only [running, Option.some.injEq] at stepped
  subst stepped
  have recounts := inStep.recounts
  rw [inStep.replica] at recounts
  have replica : (service.replica.step task).replica =
      (start first).replica.carryOut (tasks ++ [task]) := by
    rw [Replica.carryOut_concat, inStep.replica]
  refine ⟨replica, ?_, fun state member => ?_⟩
  · rw [replica]
    exact Replica.recounts_step recounts warrants
  · obtain ⟨before, stored, rfl⟩ := List.mem_map.mp member
    -- Another call, which may be woken by the step, or the call whose step it was.
    rcases List.mem_or_eq_of_mem_set stored with old | rfl
    · exact (inStep.calls before old).after grown told
    · apply CallState.Suits.woken
      cases move : (service.replica.step task).move with
      | finish answer => trivial
      | goOn following =>
          rw [inStep.replica] at move
          exact Replica.warrants_next recounts warrants move
      | park signal =>
          cases task with
          | turn number op goal =>
              obtain ⟨rfl, waits, same⟩ := Replica.parks_turn move
              refine ⟨rfl, ?_⟩
              dsimp only
              rw [same]
              exact waits
          | _ => exact warrants.mono grown

theorem in_step_of_course (course : Course first tasks service) :
    InStep first tasks service := by
  induction course with
  | start => exact in_step_start first
  | call _ admitted inStep => exact in_step_call inStep admitted
  | step _ running stepped inStep => exact in_step_step inStep running stepped
  | wake _ inStep =>
      refine ⟨inStep.replica, inStep.recounts, fun state member => ?_⟩
      obtain ⟨before, stored, rfl⟩ := List.mem_map.mp member
      exact (inStep.calls before stored).woken _

structure Remembers (first : Nat) (past : Deliveries) (service : Service) : Prop where
  /-- Every number from the first one on had one turn, in order. -/
  turns : first ≤ service.replica.gate.next ∧
    past.turns.map (·.number) = List.range' first (service.replica.gate.next - first)
  /-- A turn is refused because of its argument only. -/
  refused : ∀ turn ∈ past.turns, ∀ cause, turn.result = .error cause → cause = turn.op.refusal
  /-- The numbers that are remembered are the latest ones. -/
  latest : ∀ number, (service.replica.gate.record? number).isSome ↔
    service.replica.gate.next -
        min Gate.historyLength (service.replica.gate.next - first) ≤ number ∧
      number < service.replica.gate.next
  answers : ∀ number, number < service.replica.gate.next → ∀ op answer,
    service.replica.gate.repeated number op = answer ↔
      past.Recalls service.replica.gate.next number op answer
  /-- A number that comes again changes nothing, and gives no signal. -/
  unchanged : ∀ number, number < service.replica.gate.next → ∀ op goal,
    service.replica.step (.turn number op goal) =
      ⟨match service.replica.gate.repeated number op with
        | .answer result => goal.after number service.replica.gate.next result
        | .wait => .park .advanced, service.replica, []⟩
  /-- Of the calls under such numbers only those wait whose answer is still to come. -/
  waits : ∀ number, number < service.replica.gate.next → ∀ op goal signal,
    .parked (.turn number op goal) signal ∈ service.calls →
      signal = .advanced ∧ past.Recalls service.replica.gate.next number op .wait

/-- In a service whose calls wait for handed-over tuples only where a take was queued, a number
below the next is answered with what its turn gave, or with the tuple that the queued take got, as
long as it is among the latest numbers and comes with the same operation; else it is stale. It
changes nothing, and waits only while the first call still does. -/
theorem repeats_are_recalled (course : Course first tasks service) :
    Remembers first (deliveries first tasks) service := by
  have inStep := in_step_of_course course
  have recounts := inStep.recounts
  have once : ((deliveries first tasks).collected.map (·.1)).Nodup := by
    have accounts := (Replica.accounts_of_run { next := first } tasks).handed_once
    rw [List.map_append] at accounts
    exact (List.nodup_append.mp accounts).2.1
  constructor
  case turns => exact ⟨recounts.started, recounts.numbers⟩
  case refused =>
    intro turn member cause refused
    obtain ⟨store, same⟩ := Replica.result_of_turn member
    exact SequencedOp.refused_for (same.symm.trans refused)
  case latest =>
    intro number
    have started := recounts.started
    rw [recounts.remembered]
    omega
  case answers => exact fun number below op answer => recounts.recalls_iff once below op answer
  case unchanged =>
    intro number below op goal
    rw [Replica.step_past below]
    cases service.replica.gate.repeated number op <;> rfl
  case waits =>
    intro number below op goal signal member
    obtain ⟨rfl, waits⟩ := inStep.calls _ member
    refine ⟨rfl, (recounts.recalls_iff once below op .wait).mp ?_⟩
    exact (waits.resolve_left (by omega)).2

/-- A take under number 7 is queued, the put under the next number hands it a tuple, and once that
is reported a repetition of the take is answered with the tuple as well. -/
theorem repeats_are_recalled_of_queued_take :
    ∃ tasks service, Course 7 tasks service ∧ service.replica.gate.next = 9 ∧
      (deliveries 7 tasks).Recalls 9 7 (.take "<.>") (.answer (.ok (.taken "<a>"))) ∧
      service.replica.step (.turn 7 (.take "<.>") .take) =
        ⟨.finish (.ok (.tuple "<a>")), service.replica, []⟩ := by
  let early : Task := .turn 7 (.take "<.>") .apply
  let late : Task := .turn 8 (.put "<a>") .put
  let wait : Task := .handoff 0 (some 7)
  have done : ((((start 7).call (.ok early)).step? 0).bind fun queued =>
      ((queued.call (.ok late)).step? 1).bind fun handed =>
        ((handed.call (.ok wait)).step? 2).bind fun noting => (noting.step? 2).map fun last =>
          (((queued.call (.ok late)).calls[1]?, (handed.call (.ok wait)).calls[2]?,
            noting.calls[2]?), last.replica.gate.next,
            last.replica.gate.repeated 7 (.take "<.>"))) =
      some ((some (.running late), some (.running wait), some (.running (.note 7 "<a>"))), 9,
        .answer (.ok (.taken "<a>"))) := by
    decide +kernel
  obtain ⟨queued, first, rest⟩ := Option.bind_eq_some_iff.mp done
  obtain ⟨handed, second, rest⟩ := Option.bind_eq_some_iff.mp rest
  obtain ⟨noting, third, rest⟩ := Option.bind_eq_some_iff.mp rest
  obtain ⟨last, fourth, same⟩ := Option.map_eq_some_iff.mp rest
  simp only [Prod.mk.injEq] at same
  obtain ⟨⟨here, there, reports⟩, next, answer⟩ := same
  have free : ∀ past : Deliveries, past.Admits (.ok early) ∧ past.Admits (.ok late) :=
    fun _ => ⟨trivial, trivial⟩
  have asked : Course 7 [early] queued := .step (.call .start (free _).1) rfl first
  have put : Course 7 [early, late] handed := .step (.call asked (free _).2) here second
  have admitted : (deliveries 7 [early, late]).Admits (.ok wait) :=
    ⟨.take "<.>", by decide +kernel⟩
  have course : Course 7 [early, late, wait, .note 7 "<a>"] last :=
    .step (.step (.call put admitted) there third) reports fourth
  have remembers := repeats_are_recalled course
  have below : 7 < last.replica.gate.next := by omega
  refine ⟨_, last, course, next, ?_, ?_⟩
  · rw [← next]
    exact (remembers.answers 7 below _ _).mp answer
  · rw [remembers.unchanged 7 below, answer]
    rfl

end Service

end TupleSpace
