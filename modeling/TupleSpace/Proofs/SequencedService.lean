import TupleSpace.Proofs.Sequential
import TupleSpace.Replica.Service

/-!
# Numbered calls on a service

A service whose calls only put and take under numbers, each number always with the same
operation, is at any time where the operations below its next number lead to when they are
applied one after another. A ledger beside the service keeps what the state forgets: which calls
were made, the result of each turn, and which tuples were collected.
-/

namespace TupleSpace

open TupleSpace.Table

structure Ledger where
  made : List (Except StoreError Task) := []
  turns : List (Nat × Except StoreError Applied) := []
  collected : List (Nat × String) := []

def Task.number? : Task → Option Nat
  | .turn number _ _ => some number
  | .handoff _ number? => number?
  | .note number _ => some number
  | _ => none

namespace TurnGoal

/-- A put is asked for under numbers of puts only, and a tuple under numbers of takes. -/
def Suits : TurnGoal → SequencedOp → Prop
  | apply, _ => True
  | put, op => ∃ tuple, op = .put tuple
  | take, op => ∃ pattern, op = .take pattern

end TurnGoal

namespace Ledger

def after (ledger : Ledger) (replica : Replica) : Task → Ledger
  | .turn number op _ =>
      if number = replica.gate.next then
        { ledger with turns := ledger.turns ++ [(number, (op.apply replica.store).1)] }
      else ledger
  | .handoff ticket _ =>
      match replica.store.collect? ticket with
      | some (tuple, _) => { ledger with collected := ledger.collected ++ [(ticket, tuple)] }
      | none => ledger
  | _ => ledger

def outcomes (ledger : Ledger) (replica : Replica) : List (Nat × OpOutcome) :=
  ledger.turns.map fun turn =>
    (turn.1, .ofTurn (replica.store.handoffs ++ ledger.collected) turn.2)

/-- A number whose take had a tuple at once, or has collected one since. -/
def Settled (ledger : Ledger) (number : Nat) (tuple : String) : Prop :=
  (number, .ok (.taken tuple)) ∈ ledger.turns ∨
    ∃ ticket, (number, .ok (.queued ticket)) ∈ ledger.turns ∧ (ticket, tuple) ∈ ledger.collected

/-- The tasks in question: turns with the operation of their number, waits for the tuple of a
take that was queued, with what follows them, and calls that change nothing. -/
def Allows (ledger : Ledger) (op : Nat → SequencedOp) : Task → Prop
  | .turn number asked goal => asked = op number ∧ goal.Suits asked
  | .handoff ticket (some number) => (number, .ok (.queued ticket)) ∈ ledger.turns
  | .note number tuple =>
      ∃ ticket, (number, .ok (.queued ticket)) ∈ ledger.turns ∧ (ticket, tuple) ∈ ledger.collected
  | .read _ => True
  | .snapshot => True
  | _ => False

/-- Calls that may be made: all tasks in question but notes, which only follow a wait. -/
def Admits (ledger : Ledger) (op : Nat → SequencedOp) : Except StoreError Task → Prop
  | .ok (.note _ _) => False
  | .ok task => ledger.Allows op task
  | .error _ => True

/-- A number is not remembered, because it came before the first one or too long ago. -/
def Forgets (first next number : Nat) : Prop := number < first ∨ number + Gate.historyLength < next

def Told (ledger : Ledger) (first : Nat) (number : Nat) : Except StoreError Applied → Prop
  | .ok .stored => (number, .ok .stored) ∈ ledger.turns
  | .ok (.taken tuple) => ledger.Settled number tuple
  | .ok (.queued ticket) => (number, .ok (.queued ticket)) ∈ ledger.turns
  | .error cause => (number, .error cause) ∈ ledger.turns ∨
      ∃ next, cause = .staleSequence number next ∧ Forgets first next number

def Answered (ledger : Ledger) (first : Nat) (number : Nat) : Except StoreError Answer → Prop
  | .ok .done => (number, .ok .stored) ∈ ledger.turns
  | .ok (.tuple tuple) => ledger.Settled number tuple
  | .ok (.queued ticket) => (number, .ok (.queued ticket)) ∈ ledger.turns
  | .ok (.tuples _) => False
  | .error cause => (number, .error cause) ∈ ledger.turns ∨
      ∃ next, cause = .staleSequence number next ∧ Forgets first next number

def Remembers (ledger : Ledger) (number : Nat) (outcome : OpOutcome) : Prop :=
  (∃ result, (number, result) ∈ ledger.turns ∧ outcome = .ofResult result) ∨
    ∃ tuple, outcome = .taken tuple ∧ ledger.Settled number tuple

end Ledger

/-- How a replica stands to the operations below its next number applied one after another. -/
structure Replica.Follows (op : Nat → SequencedOp) (first : Nat) (ledger : Ledger)
    (replica : Replica) : Prop where
  started : first ≤ replica.gate.next
  turns : ledger.turns = (Sequence.inOrder op first (replica.gate.next - first)).results
  store : replica.store =
    { (Sequence.inOrder op first (replica.gate.next - first)).store with
      handoffs := replica.store.handoffs }
  handoffs : (Sequence.inOrder op first (replica.gate.next - first)).store.handoffs.Perm
    (replica.store.handoffs ++ ledger.collected)
  length : replica.gate.history.length = min (replica.gate.next - first) Gate.historyLength
  remembered : ∀ {number : Nat} {record : OpRecord}, replica.gate.record? number = some record →
    record.op = op number ∧ ledger.Remembers number record.outcome

namespace Gate

theorem record_advance {gate : Gate} {record found : OpRecord} {number : Nat}
    (remembered : (gate.advance record).record? number = some found) :
    number = gate.next ∧ found = record ∨ gate.record? number = some found := by
  unfold record? advance at remembered
  dsimp only at remembered
  split at remembered
  case isFalse => cases remembered
  case isTrue bound =>
    rw [List.getElem?_take, Option.ite_none_right_eq_some] at remembered
    by_cases latest : number = gate.next
    · subst latest
      left
      simpa using remembered.2.symm
    · right
      have place : gate.next + 1 - 1 - number = gate.next - 1 - number + 1 := by omega
      rw [place, List.getElem?_cons_succ] at remembered
      rw [record?, if_pos (by omega)]
      exact remembered.2

@[simp] theorem next_of_amend (gate : Gate) (number : Nat) (outcome : OpOutcome) :
    (gate.amend number outcome).next = gate.next := by
  unfold amend
  split <;> rfl

@[simp] theorem length_of_amend (gate : Gate) (number : Nat) (outcome : OpOutcome) :
    (gate.amend number outcome).history.length = gate.history.length := by
  unfold amend
  split
  · exact List.length_modify ..
  · rfl

theorem record_of_amend (gate : Gate) (number other : Nat) (outcome : OpOutcome) :
    (gate.amend number outcome).record? other = (gate.record? other).map fun record =>
      if other = number then { record with outcome } else record := by
  unfold amend
  split
  case isFalse ahead =>
    unfold record?
    split
    · have apart : other ≠ number := by omega
      simp [apart]
    · rfl
  case isTrue past =>
    unfold record?
    dsimp only
    split
    · rw [List.getElem?_modify]
      have place : gate.next - 1 - number = gate.next - 1 - other ↔ other = number := by omega
      simp only [place]
      rfl
    · rfl

end Gate

namespace Ledger

variable {ledger later : Ledger} {op : Nat → SequencedOp} {first number : Nat}

def Extends (ledger later : Ledger) : Prop :=
  ledger.turns ⊆ later.turns ∧ ledger.collected ⊆ later.collected

theorem extends_after (ledger : Ledger) (replica : Replica) (task : Task) :
    ledger.Extends (ledger.after replica task) := by
  unfold after
  split
  · split
    · exact ⟨List.subset_append_left _ _, List.Subset.refl _⟩
    · exact ⟨List.Subset.refl _, List.Subset.refl _⟩
  · split
    · exact ⟨List.Subset.refl _, List.subset_append_left _ _⟩
    · exact ⟨List.Subset.refl _, List.Subset.refl _⟩
  · exact ⟨List.Subset.refl _, List.Subset.refl _⟩

theorem Settled.mono {tuple : String} (settled : ledger.Settled number tuple)
    (grown : ledger.Extends later) : later.Settled number tuple := by
  rcases settled with taken | ⟨ticket, queued, collected⟩
  · exact Or.inl (grown.1 taken)
  · exact Or.inr ⟨ticket, grown.1 queued, grown.2 collected⟩

theorem Remembers.mono {outcome : OpOutcome} (remembers : ledger.Remembers number outcome)
    (grown : ledger.Extends later) : later.Remembers number outcome := by
  rcases remembers with ⟨result, turn, same⟩ | ⟨tuple, same, settled⟩
  · exact Or.inl ⟨result, grown.1 turn, same⟩
  · exact Or.inr ⟨tuple, same, settled.mono grown⟩

theorem Allows.mono {task : Task} (allows : ledger.Allows op task) (grown : ledger.Extends later) :
    later.Allows op task := by
  cases task with
  | turn _ _ _ => exact allows
  | read _ => exact allows
  | snapshot => exact allows
  | handoff ticket number? =>
      cases number? with
      | none => exact allows
      | some number => exact grown.1 allows
  | note number tuple =>
      obtain ⟨ticket, queued, collected⟩ := allows
      exact ⟨ticket, grown.1 queued, grown.2 collected⟩
  | _ => exact allows

theorem Answered.mono {answer : Except StoreError Answer}
    (answered : ledger.Answered first number answer) (grown : ledger.Extends later) :
    later.Answered first number answer := by
  cases answer with
  | error cause => exact answered.imp_left fun turn => grown.1 turn
  | ok answer =>
      cases answer with
      | done => exact grown.1 answered
      | tuple tuple => exact Settled.mono answered grown
      | queued ticket => exact grown.1 answered
      | tuples _ => exact answered

/-- What may become of a task that belongs to the number, if it belongs to one: it ends with an
answer that is true of the number, goes on under it, or waits. -/
def Bears (ledger : Ledger) (op : Nat → SequencedOp) (first : Nat) (number? : Option Nat) :
    Move → Prop
  | .finish answer => ∀ number, number? = some number → ledger.Answered first number answer
  | .goOn next => ledger.Allows op next ∧ next.number? = number?
  | .park _ => True

theorem bears_finish (op : Nat → SequencedOp) {answer : Except StoreError Answer}
    (answered : ledger.Answered first number answer) :
    ledger.Bears op first (some number) (.finish answer) := by
  intro other same
  cases same
  exact answered

theorem told_of_turn (first : Nat) {result : Except StoreError Applied}
    (turn : (number, result) ∈ ledger.turns) : ledger.Told first number result := by
  cases result with
  | error cause => exact Or.inl turn
  | ok applied =>
      cases applied with
      | stored => exact turn
      | taken tuple => exact Or.inl turn
      | queued ticket => exact turn

end Ledger

namespace Replica

variable {op : Nat → SequencedOp} {first : Nat} {ledger : Ledger} {replica : Replica}
  {number : Nat} {asked : SequencedOp} {goal : TurnGoal}

/-! ## Turns -/

theorem step_ahead (ahead : replica.gate.next < number) :
    replica.step (.turn number asked goal) = ⟨.park .advanced, replica, []⟩ := by
  simp [step, ahead]

theorem step_past (past : number < replica.gate.next) :
    replica.step (.turn number asked goal) =
      match replica.gate.repeated number asked with
      | .wait => ⟨.park .advanced, replica, []⟩
      | .answer result => ⟨goal.after number replica.gate.next result, replica, []⟩ := by
  have reached : ¬replica.gate.next < number := by omega
  cases answer : replica.gate.repeated number asked with
  | wait => simp [step, past, reached, answer]
  | answer result => simp [step, past, reached, answer]

theorem step_now :
    replica.step (.turn replica.gate.next asked goal) =
      ⟨goal.after replica.gate.next (replica.gate.next + 1) (asked.apply replica.store).1,
        (replica.takeTurn asked).2.1, (replica.takeTurn asked).2.2⟩ := by
  simp [step, takeTurn, Gate.advance]

theorem step_out_of_turn {asked : SequencedOp} {goal : TurnGoal} (replica : Replica)
    (other : number ≠ replica.gate.next) :
    (replica.step (.turn number asked goal)).replica = replica := by
  rcases Nat.lt_or_gt_of_ne other with past | ahead
  · rw [step_past past]
    split <;> rfl
  · rw [step_ahead ahead]

theorem after_now :
    ledger.after replica (.turn replica.gate.next asked goal) =
      { ledger with
        turns := ledger.turns ++ [(replica.gate.next, (asked.apply replica.store).1)] } := by
  simp [Ledger.after]

theorem after_other (other : number ≠ replica.gate.next) :
    ledger.after replica (.turn number asked goal) = ledger := by
  simp [Ledger.after, other]

/-! ## What a step does to the replica -/

theorem Follows.turn (follows : replica.Follows op first ledger) :
    Follows op first
      { ledger with
        turns := ledger.turns ++
          [(replica.gate.next, ((op replica.gate.next).apply replica.store).1)] }
      (replica.takeTurn (op replica.gate.next)).2.1 := by
  have count : replica.gate.next + 1 - first = replica.gate.next - first + 1 := by
    have started := follows.started
    omega
  have here : first + (replica.gate.next - first) = replica.gate.next := by
    have started := follows.started
    omega
  obtain ⟨more, handed, applied⟩ := SequencedOp.apply_on_hand (op replica.gate.next)
    (Sequence.inOrder op first (replica.gate.next - first)).store replica.store.handoffs
  rw [← follows.store] at applied
  have pushed : Sequence.inOrder op first (replica.gate.next + 1 - first) =
      (Sequence.inOrder op first (replica.gate.next - first)).push replica.gate.next
        (op replica.gate.next) := by
    rw [count, Sequence.inOrder, here]
  have next : (replica.takeTurn (op replica.gate.next)).2.1 =
      ⟨((op replica.gate.next).apply replica.store).2, replica.gate.advance
        ⟨op replica.gate.next, .ofResult ((op replica.gate.next).apply replica.store).1⟩⟩ := rfl
  rw [next]
  constructor
  case started => exact Nat.le_succ_of_le follows.started
  case turns =>
    change _ = (Sequence.inOrder op first (replica.gate.next + 1 - first)).results
    rw [pushed, Sequence.push, ← follows.turns, applied]
  case store =>
    change _ = { (Sequence.inOrder op first (replica.gate.next + 1 - first)).store with
      handoffs := ((op replica.gate.next).apply replica.store).2.handoffs }
    rw [pushed, applied]
    rfl
  case handoffs =>
    change List.Perm (Sequence.inOrder op first (replica.gate.next + 1 - first)).store.handoffs
      (((op replica.gate.next).apply replica.store).2.handoffs ++ ledger.collected)
    rw [pushed, applied, Sequence.push, handed, List.append_assoc]
    refine (follows.handoffs.append_right more).trans ?_
    rw [List.append_assoc]
    exact List.perm_append_comm.append_left replica.store.handoffs
  case length =>
    change ((_ :: replica.gate.history).take Gate.historyLength).length =
      min (replica.gate.next + 1 - first) Gate.historyLength
    rw [List.length_take, List.length_cons, follows.length]
    omega
  case remembered =>
    intro number record found
    rcases Gate.record_advance found with ⟨rfl, rfl⟩ | earlier
    · exact ⟨rfl, Or.inl ⟨_, List.mem_append_right _ (List.mem_singleton_self _), rfl⟩⟩
    · obtain ⟨same, remembers⟩ := follows.remembered earlier
      exact ⟨same, remembers.mono ⟨List.subset_append_left _ _, List.Subset.refl _⟩⟩

theorem Follows.collect {ticket : Nat} {tuple : String} {store : Store}
    (follows : replica.Follows op first ledger)
    (collected : replica.store.collect? ticket = some (tuple, store)) :
    Follows op first { ledger with collected := ledger.collected ++ [(ticket, tuple)] }
      { replica with store } := by
  obtain ⟨before, behind, split, rfl⟩ := Store.collect_split collected
  constructor
  case started => exact follows.started
  case turns => exact follows.turns
  case store =>
    rw [follows.store]
  case handoffs =>
    refine follows.handoffs.trans ?_
    rw [split]
    calc (before ++ (ticket, tuple) :: behind) ++ ledger.collected
        = before ++ ((ticket, tuple) :: (behind ++ ledger.collected)) := by simp
      _ |>.Perm (before ++ (behind ++ ledger.collected ++ [(ticket, tuple)])) :=
          (List.perm_append_singleton _ _).symm.append_left before
      _ = before ++ behind ++ (ledger.collected ++ [(ticket, tuple)]) := by simp
  case length => exact follows.length
  case remembered =>
    intro number record found
    obtain ⟨same, remembers⟩ := follows.remembered found
    exact ⟨same, remembers.mono ⟨List.Subset.refl _, List.subset_append_left _ _⟩⟩

theorem Follows.note {number : Nat} {tuple : String} (follows : replica.Follows op first ledger)
    (settled : ledger.Settled number tuple) :
    Follows op first ledger { replica with gate := replica.gate.amend number (.taken tuple) } := by
  constructor
  case started => simpa using follows.started
  case turns => simpa using follows.turns
  case store => simpa using follows.store
  case handoffs => simpa using follows.handoffs
  case length => simpa using follows.length
  case remembered =>
    intro other record found
    rw [Gate.record_of_amend] at found
    obtain ⟨old, earlier, rfl⟩ := Option.map_eq_some_iff.mp found
    obtain ⟨asked, remembers⟩ := follows.remembered earlier
    split
    case isTrue same => exact ⟨asked, Or.inr ⟨tuple, rfl, same ▸ settled⟩⟩
    case isFalse => exact ⟨asked, remembers⟩

theorem Follows.step {task : Task} (follows : replica.Follows op first ledger)
    (allows : ledger.Allows op task) :
    (replica.step task).replica.Follows op first (ledger.after replica task) := by
  cases task with
  | turn number asked goal =>
      obtain ⟨rfl, _⟩ := allows
      rcases Nat.lt_trichotomy number replica.gate.next with past | now | ahead
      · rw [step_past past, after_other (by omega)]
        split <;> exact follows
      · subst now
        rw [step_now, after_now]
        exact follows.turn
      · rw [step_ahead ahead, after_other (by omega)]
        exact follows
  | handoff ticket number? =>
      cases number? with
      | none => exact allows.elim
      | some number =>
          cases collected : replica.store.collect? ticket with
          | none => simpa [Replica.step, Ledger.after, collected] using follows
          | some pair =>
              simpa [Replica.step, Ledger.after, collected] using follows.collect collected
  | note number tuple => exact follows.note (Or.inr allows)
  | read pattern =>
      unfold Replica.step
      dsimp only
      split <;> exact follows
  | snapshot => exact follows
  | _ => exact allows.elim

/-! ## What a step answers -/

theorem Follows.turn_result (follows : replica.Follows op first ledger)
    {result : Except StoreError Applied} (turn : (number, result) ∈ ledger.turns) :
    ∃ store next, SequencedOp.Applies store (op number) result next := by
  rw [follows.turns] at turn
  obtain ⟨store, same⟩ := Sequence.result_in_order turn
  exact ⟨store, _, same ▸ SequencedOp.applies store (op number)⟩

/-- What a number below the next is answered with is what its turn gave, unless it is forgotten. -/
theorem Follows.repeated_told (follows : replica.Follows op first ledger)
    (past : number < replica.gate.next) {result : Except StoreError Applied}
    (answer : replica.gate.repeated number (op number) = .answer result) :
    ledger.Told first number result := by
  unfold Gate.repeated at answer
  cases remembered : replica.gate.record? number with
  | none =>
      simp only [remembered, Gate.Repeat.answer.injEq] at answer
      subst answer
      refine Or.inr ⟨_, rfl, ?_⟩
      unfold Gate.record? at remembered
      rw [if_pos past, List.getElem?_eq_none_iff, follows.length] at remembered
      unfold Ledger.Forgets
      have started := follows.started
      omega
  | some record =>
      obtain ⟨same, remembers⟩ := follows.remembered remembered
      simp only [remembered, same, if_true] at answer
      rcases remembers with ⟨turn, member, outcome⟩ | ⟨tuple, outcome, settled⟩
      · rw [outcome] at answer
        cases turn with
        | error cause =>
            cases answer
            exact Or.inl member
        | ok applied =>
            cases applied with
            | stored =>
                cases answer
                exact member
            | taken tuple =>
                cases answer
                exact Or.inl member
            | queued ticket => cases answer
      · rw [outcome] at answer
        cases answer
        exact settled

theorem Follows.after_told (follows : replica.Follows op first ledger)
    (suits : goal.Suits (op number)) (next : Nat) {result : Except StoreError Applied}
    (told : ledger.Told first number result) :
    ledger.Bears op first (some number) (goal.after number next result) := by
  cases result with
  | error cause => exact Ledger.bears_finish op told
  | ok applied =>
      cases goal with
      | apply => cases applied <;> exact Ledger.bears_finish op told
      | put =>
          obtain ⟨tuple, same⟩ := suits
          cases applied with
          | stored => exact Ledger.bears_finish op told
          | taken other =>
              rcases told with turn | ⟨ticket, turn, _⟩
              · obtain ⟨_, _, applies⟩ := follows.turn_result turn
                rw [same] at applies
                cases applies
              · obtain ⟨_, _, applies⟩ := follows.turn_result turn
                rw [same] at applies
                cases applies
          | queued ticket =>
              obtain ⟨_, _, applies⟩ := follows.turn_result told
              rw [same] at applies
              cases applies
      | take =>
          obtain ⟨pattern, same⟩ := suits
          cases applied with
          | stored =>
              obtain ⟨_, _, applies⟩ := follows.turn_result told
              rw [same] at applies
              cases applies
          | taken tuple => exact Ledger.bears_finish op told
          | queued ticket => exact ⟨told, rfl⟩

theorem Follows.move {task : Task} (follows : replica.Follows op first ledger)
    (allows : ledger.Allows op task) :
    (ledger.after replica task).Bears op first task.number? (replica.step task).move := by
  have later := follows.step allows
  cases task with
  | turn number asked goal =>
      obtain ⟨rfl, suits⟩ := allows
      rcases Nat.lt_trichotomy number replica.gate.next with past | now | ahead
      · rw [step_past past, after_other (by omega)]
        cases answer : replica.gate.repeated number (op number) with
        | wait => trivial
        | answer result =>
            exact follows.after_told suits replica.gate.next (follows.repeated_told past answer)
      · subst now
        rw [step_now, after_now] at later ⊢
        exact later.after_told suits (replica.gate.next + 1)
          (Ledger.told_of_turn first (List.mem_append_right _ (List.mem_singleton_self _)))
      · rw [step_ahead ahead, after_other (by omega)]
        trivial
  | handoff ticket number? =>
      cases number? with
      | none => exact allows.elim
      | some number =>
          cases collected : replica.store.collect? ticket with
          | none => simp [Replica.step, Ledger.Bears, collected]
          | some pair =>
              simp only [Replica.step, Ledger.after, collected]
              exact ⟨⟨ticket, allows, List.mem_append_right _ (List.mem_singleton_self _)⟩, rfl⟩
  | note number tuple =>
      intro other same
      cases same
      exact Or.inr allows
  | read pattern =>
      cases found : replica.store.space.find? pattern with
      | none => simp [Replica.step, Ledger.Bears, found]
      | some tuple => simp [Replica.step, Ledger.Bears, found, Task.number?]
  | snapshot => simp [Replica.step, Ledger.Bears, Task.number?]
  | _ => exact allows.elim

end Replica

namespace Service

inductive Run (first : Nat) (op : Nat → SequencedOp) : Ledger → Service → Prop
  | start : Run first op {} (Service.start first)
  | call {ledger : Ledger} {service : Service} {task : Except StoreError Task}
      (earlier : Run first op ledger service) (admitted : ledger.Admits op task) :
      Run first op { ledger with made := ledger.made ++ [task] } (service.call task)
  | step {ledger : Ledger} {service next : Service} {index : Nat} {task : Task}
      (earlier : Run first op ledger service)
      (running : service.calls[index]? = some (.running task))
      (stepped : service.step? index = some next) :
      Run first op (ledger.after service.replica task) next
  | wake {ledger : Ledger} {service : Service} (earlier : Run first op ledger service) :
      Run first op ledger service.wakeAll

/-! ## What holds of every such service -/

def Holds (op : Nat → SequencedOp) (first : Nat) (ledger : Ledger) (made : Except StoreError Task) :
    CallState → Prop
  | .running task =>
      ledger.Allows op task ∧ ∃ asked, made = .ok asked ∧ task.number? = asked.number?
  | .parked task _ =>
      ledger.Allows op task ∧ ∃ asked, made = .ok asked ∧ task.number? = asked.number?
  | .finished answer => ∀ asked number, made = .ok asked → asked.number? = some number →
      ledger.Answered first number answer

structure Sound (op : Nat → SequencedOp) (first : Nat) (ledger : Ledger) (service : Service) :
    Prop where
  follows : service.replica.Follows op first ledger
  count : ledger.made.length = service.calls.length
  calls : ∀ {index : Nat} {made : Except StoreError Task} {state : CallState},
    ledger.made[index]? = some made → service.calls[index]? = some state →
      Holds op first ledger made state

def Gives (service : Service) (ledger : Ledger) (number : Nat) (tuple : String) : Prop :=
  ∃ (index : Nat) (task : Task), ledger.made[index]? = some (.ok task) ∧
    task.number? = some number ∧ service.result? index = some (.ok (.tuple tuple))

variable {first : Nat} {op : Nat → SequencedOp} {ledger later : Ledger} {service next : Service}

theorem Holds.mono {made : Except StoreError Task} {state : CallState}
    (holds : Holds op first ledger made state) (grown : ledger.Extends later) :
    Holds op first later made state := by
  cases state with
  | running task => exact ⟨holds.1.mono grown, holds.2⟩
  | parked task signal => exact ⟨holds.1.mono grown, holds.2⟩
  | finished answer =>
      exact fun asked number same under => (holds asked number same under).mono grown

theorem Holds.woken {made : Except StoreError Task} {state : CallState}
    (holds : Holds op first ledger made state) (signals : List Signal) :
    Holds op first ledger made (state.woken signals) := by
  cases state with
  | running task => exact holds
  | finished answer => exact holds
  | parked task signal =>
      unfold CallState.woken
      dsimp only
      split <;> exact holds

theorem made_after (ledger : Ledger) (replica : Replica) (task : Task) :
    (ledger.after replica task).made = ledger.made := by
  unfold Ledger.after
  split
  · split <;> rfl
  · split <;> rfl
  · rfl

theorem step_running {index : Nat} (stepped : service.step? index = some next) :
    ∃ task, service.calls[index]? = some (.running task) := by
  unfold step? at stepped
  split at stepped
  · exact ⟨_, by assumption⟩
  · cases stepped

theorem sound_start (op : Nat → SequencedOp) (first : Nat) :
    Sound op first {} (Service.start first) := by
  refine ⟨⟨Nat.le_refl first, ?_, ?_, ?_, ?_, ?_⟩, rfl, by simp⟩
  · simp [Service.start, Sequence.inOrder]
  · simp [Service.start, Sequence.inOrder]
  · simp [Service.start, Sequence.inOrder]
  · simp [Service.start]
  · intro number record found
    simp [Service.start, Gate.record?] at found

theorem sound_step {index : Nat} {task : Task} (sound : Sound op first ledger service)
    (running : service.calls[index]? = some (.running task))
    (stepped : service.step? index = some next) :
    Sound op first (ledger.after service.replica task) next := by
  have grown := ledger.extends_after service.replica task
  have count : index < ledger.made.length :=
    sound.count ▸ (List.getElem?_eq_some_iff.mp running).1
  obtain ⟨allows, asked, made, number⟩ := sound.calls (List.getElem?_eq_getElem count) running
  have moved := sound.follows.move allows
  unfold step? at stepped
  simp only [running, Option.some.injEq] at stepped
  subst stepped
  refine ⟨sound.follows.step allows, by simpa [made_after] using sound.count, ?_⟩
  intro other call state entry found
  rw [made_after] at entry
  rw [List.getElem?_map] at found
  obtain ⟨before, stored, rfl⟩ := Option.map_eq_some_iff.mp found
  refine Holds.woken ?_ _
  rw [List.getElem?_set] at stored
  split at stored
  · rename_i same
    subst other
    rw [if_pos (List.getElem?_eq_some_iff.mp running).1] at stored
    cases stored
    rw [List.getElem?_eq_getElem count, made] at entry
    cases entry
    generalize (service.replica.step task).move = move at moved ⊢
    cases move with
    | finish answer =>
        intro named other same under
        cases same
        exact moved other (number.trans under)
    | goOn next => exact ⟨moved.1, asked, rfl, moved.2.trans number⟩
    | park signal => exact ⟨allows.mono grown, asked, rfl, number⟩
  · exact (sound.calls entry stored).mono grown

theorem sound_call {task : Except StoreError Task} (sound : Sound op first ledger service)
    (admitted : ledger.Admits op task) :
    Sound op first { ledger with made := ledger.made ++ [task] } (service.call task) := by
  have follows := sound.follows
  refine ⟨⟨follows.started, follows.turns, follows.store, follows.handoffs, follows.length,
    follows.remembered⟩, by simp [call, sound.count], ?_⟩
  intro index made state entry found
  have grown : ledger.Extends { ledger with made := ledger.made ++ [task] } :=
    ⟨List.Subset.refl _, List.Subset.refl _⟩
  by_cases earlier : index < ledger.made.length
  · rw [List.getElem?_append_left earlier] at entry
    simp only [call, List.getElem?_append_left (sound.count ▸ earlier)] at found
    exact (sound.calls entry found).mono grown
  · have last : index = ledger.made.length := by
      have bound := (List.getElem?_eq_some_iff.mp entry).1
      simp only [List.length_append, List.length_singleton] at bound
      omega
    subst last
    simp only [List.getElem?_concat_length, Option.some.injEq] at entry
    simp only [call, sound.count, List.getElem?_concat_length, Option.some.injEq] at found
    subst entry found
    cases task with
    | error cause =>
        intro asked number same
        cases same
    | ok task =>
        refine ⟨?_, task, rfl, rfl⟩
        cases task with
        | note _ _ => exact admitted.elim
        | _ => exact admitted

theorem sound_run (run : Run first op ledger service) : Sound op first ledger service := by
  induction run with
  | start => exact sound_start op first
  | call _ admitted sound => exact sound_call sound admitted
  | step _ running stepped sound => exact sound_step sound running stepped
  | wake _ sound =>
      refine ⟨sound.follows, by simpa [wakeAll] using sound.count, ?_⟩
      intro index made state entry found
      rw [wakeAll, List.getElem?_map] at found
      obtain ⟨before, stored, rfl⟩ := Option.map_eq_some_iff.mp found
      exact (sound.calls entry stored).woken _

/-! ## One sequential store -/

/-- A service and its ledger agree with the operations from the first number up to the next one,
applied one after another. -/
structure Refines (op : Nat → SequencedOp) (first : Nat) (ledger : Ledger) (service : Service)
    (sequence : Sequence) : Prop where
  /-- Every number has had its turn once, in order, with the result it has there. -/
  numbers : ledger.turns.map (·.1) =
    List.range' first (service.replica.gate.next - first)
  results : ledger.turns = sequence.results
  space : service.replica.store.space = sequence.store.space
  pending : service.replica.store.pending = sequence.store.pending
  nextTicket : service.replica.store.nextTicket = sequence.store.nextTicket
  /-- With what was handed over since, every number has come to the same. -/
  outcomes : ledger.outcomes service.replica = sequence.outcomes
  /-- What is remembered of a number is what has become of it, as far as it was reported. -/
  remembered : ∀ number record, service.replica.gate.record? number = some record →
    record.op = op number ∧
      ((number, record.outcome) ∈ sequence.outcomes ∨
        record.outcome = .waiting ∧ ∃ ticket, (number, .ok (.queued ticket)) ∈ sequence.results)
  /-- Every tuple that a call under a number was answered with is the one that came of it. -/
  given : ∀ number tuple, service.Gives ledger number tuple →
    (number, .taken tuple) ∈ sequence.outcomes

theorem outcomes_eq (follows : service.replica.Follows op first ledger) :
    ledger.outcomes service.replica =
      (Sequence.inOrder op first (service.replica.gate.next - first)).outcomes := by
  have ticketed := Sequence.ticketed_in_order op first (service.replica.gate.next - first)
  have distinct := (List.nodup_append.mp ticketed.distinct).1
  unfold Ledger.outcomes Sequence.outcomes
  rw [← follows.turns]
  apply List.map_congr_left
  rintro ⟨number, result⟩ _
  rcases result with cause | applied
  · rfl
  · cases applied with
    | stored => rfl
    | taken tuple => rfl
    | queued ticket =>
        simp only [OpOutcome.ofTurn, lookup_perm distinct follows.handoffs ticket]

theorem outcome_of_turn (service : Service) {number : Nat} {result : Except StoreError Applied}
    (turn : (number, result) ∈ ledger.turns) :
    (number, .ofResult result) ∈ ledger.outcomes service.replica ∨
      ∃ ticket, result = .ok (.queued ticket) := by
  have member := List.mem_map_of_mem
    (f := fun turn : Nat × Except StoreError Applied =>
      (turn.1, OpOutcome.ofTurn (service.replica.store.handoffs ++ ledger.collected) turn.2)) turn
  cases result with
  | error cause => exact Or.inl member
  | ok applied =>
      cases applied with
      | stored => exact Or.inl member
      | taken tuple => exact Or.inl member
      | queued ticket => exact Or.inr ⟨ticket, rfl⟩

theorem outcome_of_settled (follows : service.replica.Follows op first ledger) {number : Nat}
    {tuple : String} (settled : ledger.Settled number tuple) :
    (number, .taken tuple) ∈ ledger.outcomes service.replica := by
  rcases settled with turn | ⟨ticket, turn, collected⟩
  · exact List.mem_map.mpr ⟨_, turn, rfl⟩
  · have ticketed := Sequence.ticketed_in_order op first (service.replica.gate.next - first)
    have distinct := (follows.handoffs.map (·.1)).nodup_iff.mp
      (List.nodup_append.mp ticketed.distinct).1
    have found := lookup_of_mem distinct (List.mem_append_right _ collected)
    refine List.mem_map.mpr ⟨_, turn, ?_⟩
    simp [OpOutcome.ofTurn, found]

theorem refines_of_run (run : Run first op ledger service) :
    Refines op first ledger service
      (Sequence.inOrder op first (service.replica.gate.next - first)) := by
  have sound := sound_run run
  have follows := sound.follows
  have same := outcomes_eq follows
  constructor
  case numbers => rw [follows.turns, Sequence.numbers_in_order]
  case results => exact follows.turns
  case space => rw [follows.store]
  case pending => rw [follows.store]
  case nextTicket => rw [follows.store]
  case outcomes => exact same
  case remembered =>
    intro number record found
    obtain ⟨asked, remembers⟩ := follows.remembered found
    refine ⟨asked, ?_⟩
    rcases remembers with ⟨result, turn, outcome⟩ | ⟨tuple, outcome, settled⟩
    · rcases outcome_of_turn service turn with now | ⟨ticket, queued⟩
      · rw [outcome, ← same]
        exact Or.inl now
      · subst queued
        exact Or.inr ⟨outcome, ticket, follows.turns ▸ turn⟩
    · rw [outcome, ← same]
      exact Or.inl (outcome_of_settled follows settled)
  case given =>
    rintro number tuple ⟨index, task, made, under, answer⟩
    obtain ⟨state, stored, finished⟩ := Option.bind_eq_some_iff.mp answer
    cases state with
    | running _ => cases finished
    | parked _ _ => cases finished
    | finished result =>
        cases finished
        rw [← same]
        exact outcome_of_settled follows (sound.calls made stored task number rfl under)

theorem Refines.distinct {sequence : Sequence}
    (refines : Refines op first ledger service sequence) :
    (sequence.outcomes.map (·.1)).Nodup := by
  have numbers : sequence.outcomes.map (·.1) = ledger.turns.map (·.1) := by
    rw [Sequence.outcomes, List.map_map, refines.results]
    rfl
  rw [numbers, refines.numbers]
  exact List.nodup_range'

/-- A service with numbered calls only is, whenever its next number is reached, where the
operations before that number lead to one after another; two such services that have reached the
same number store the same tuples in the same order, and give the same tuple under each number. -/
theorem numbered_calls_refine (run : Run first op ledger service) :
    first ≤ service.replica.gate.next ∧
    Refines op first ledger service
      (Sequence.inOrder op first (service.replica.gate.next - first)) ∧
    ∀ {other : Ledger} {rival : Service}, Run first op other rival →
      rival.replica.gate.next = service.replica.gate.next →
        rival.replica.store.space = service.replica.store.space ∧
        rival.replica.store.pending = service.replica.store.pending ∧
        other.outcomes rival.replica = ledger.outcomes service.replica ∧
        ∀ number tuple answer, service.Gives ledger number tuple →
          rival.Gives other number answer → answer = tuple := by
  have refines := refines_of_run run
  refine ⟨(sound_run run).follows.started, refines, ?_⟩
  intro other rival also reached
  have likewise := refines_of_run also
  rw [reached] at likewise
  refine ⟨likewise.space.trans refines.space.symm, likewise.pending.trans refines.pending.symm,
    likewise.outcomes.trans refines.outcomes.symm, ?_⟩
  intro number tuple answer given answered
  have here := lookup_of_mem refines.distinct (refines.given number tuple given)
  have there := lookup_of_mem refines.distinct (likewise.given number answer answered)
  rw [here] at there
  cases there
  rfl

/-- A take under the second number comes first, and waits for the put under the first. -/
theorem numbered_calls_refine_of_early_take :
    ∃ ledger service,
      Run 1 (fun number => if number = 2 then .take "<.>" else .put "<a>") ledger service ∧
      service.replica.gate.next = 3 ∧ service.replica.store.space = ⟨[]⟩ ∧
      ledger.outcomes service.replica = [(1, .stored), (2, .taken "<a>")] ∧
      (Sequence.inOrder (fun number => if number = 2 then .take "<.>" else .put "<a>") 1
        2).store.space = ⟨[]⟩ := by
  let op : Nat → SequencedOp := fun number => if number = 2 then .take "<.>" else .put "<a>"
  let early : Task := .turn 2 (.take "<.>") .take
  let late : Task := .turn 1 (.put "<a>") .put
  have done : ((((start 1).call (.ok early)).step? 0).bind fun service =>
      ((service.call (.ok late)).step? 1).bind (·.step? 0)).map
        (fun service => (service.replica.gate.next, service.replica.store.space)) =
          some (3, ⟨[]⟩) := by
    decide +kernel
  obtain ⟨last, reached, counts⟩ := Option.map_eq_some_iff.mp done
  obtain ⟨waiting, parked, rest⟩ := Option.bind_eq_some_iff.mp reached
  obtain ⟨ready, put, took⟩ := Option.bind_eq_some_iff.mp rest
  obtain ⟨_, first⟩ := step_running parked
  obtain ⟨_, second⟩ := step_running put
  obtain ⟨_, third⟩ := step_running took
  have begun : Run 1 op _ ((start 1).call (.ok early)) := .call .start ⟨rfl, "<.>", rfl⟩
  have called : Run 1 op _ (waiting.call (.ok late)) :=
    .call (.step begun first parked) ⟨rfl, "<a>", rfl⟩
  have run : Run 1 op _ last := .step (.step called second put) third took
  obtain ⟨next, space⟩ := Prod.mk.inj counts
  obtain ⟨_, refines, _⟩ := numbered_calls_refine run
  rw [next] at refines
  have outcomes : (Sequence.inOrder op 1 2).outcomes = [(1, .stored), (2, .taken "<a>")] := by
    decide +kernel
  exact ⟨_, last, run, next, space, refines.outcomes.trans outcomes,
    refines.space.symm.trans space⟩

end Service

end TupleSpace
