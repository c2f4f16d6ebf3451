import TupleSpace.Proofs.RepeatedNumbers

/-!
# Threads and their wakeups

Every call on a replica is a thread, which acts under the lock of the store or of the gate. The
gate keeps its lock while it applies an operation: the store is changed in one section, and the
gate moves on in a later one, with other threads of the store in between. A thread that parks is
in one of four loops, and is only unparked by a signal. No signal is missing: as long as a thread
is parked, what its loop waits for has not come about.
-/

namespace TupleSpace

open TupleSpace.Table

/-- What a parked thread waits for, by the loop that it is in. -/
inductive Concern
  | tuple (pattern : Pattern)
  | handoff (ticket : Nat)
  | turn (number : Nat)
  /-- The outcome of an operation that was queued under the number before. -/
  | outcome (number : Nat) (op : SequencedOp)
deriving DecidableEq

/-- The loop in which a task parks. A number that had its turn is in the second loop for good. -/
def Task.loop? (gate : Gate) : Task → Option Concern
  | .read pattern => some (.tuple pattern)
  | .handoff ticket _ => some (.handoff ticket)
  | .turn number op _ => some (if gate.next < number then .turn number else .outcome number op)
  | _ => none

namespace Replica

/-- A task has reason to be parked on a signal: what its loop waits for is not there. -/
inductive Waits (replica : Replica) : Task → Signal → Concern → Prop
  | tuple {pattern : Pattern}
      (missing : ∀ tuple ∈ replica.store.space.values, pattern.hits tuple = false) :
      Waits replica (.read pattern) .changed (.tuple pattern)
  | handoff {ticket : Nat} {number? : Option Nat}
      (missing : ∀ tuple, (ticket, tuple) ∉ replica.store.handoffs) :
      Waits replica (.handoff ticket number?) .changed (.handoff ticket)
  | turn {number : Nat} {op : SequencedOp} {goal : TurnGoal} (ahead : replica.gate.next < number) :
      Waits replica (.turn number op goal) .advanced (.turn number)
  | outcome {number : Nat} {op : SequencedOp} {goal : TurnGoal}
      (remembered : replica.gate.record? number = some ⟨op, .waiting⟩) :
      Waits replica (.turn number op goal) .advanced (.outcome number op)

def turnOf? (replica : Replica) : Task → Option (SequencedOp × TurnGoal)
  | .turn number op goal => if number = replica.gate.next then some (op, goal) else none
  | _ => none

end Replica

inductive Thread
  | ready (task : Task)
  /-- Has the lock of the gate: the operation is applied, and the gate is still to move on. -/
  | inTurn (op : SequencedOp) (goal : TurnGoal) (result : Except StoreError Applied)
  | parked (task : Task) (signal : Signal) (wait? : Option Concern)
  | finished (result : Except StoreError Answer)
deriving DecidableEq

namespace Thread

def ofCall : Except StoreError Task → Thread
  | .ok task => ready task
  | .error cause => finished (.error cause)

def ofMove (gate : Gate) (task : Task) : Move → Thread
  | .finish answer => finished answer
  | .goOn task => ready task
  | .park signal => parked task signal (task.loop? gate)

def woken (signals : List Signal) : Thread → Thread
  | parked task signal wait? =>
      if signals.contains signal then ready task else parked task signal wait?
  | thread => thread

def isInTurn : Thread → Bool
  | inTurn _ _ _ => true
  | _ => false

end Thread

structure Threads where
  replica : Replica := {}
  states : List Thread := []
deriving DecidableEq

namespace Threads

/-- Whether a thread has the lock of the gate between two sections of the store. -/
def isLocked (threads : Threads) : Bool := threads.states.any (·.isInTurn)

def call (threads : Threads) (task : Except StoreError Task) : Threads :=
  { threads with states := threads.states ++ [.ofCall task] }

def install (threads : Threads) (index : Nat) (replica : Replica) (state : Thread)
    (signals : List Signal) : Threads :=
  ⟨replica, (threads.states.set index state).map (.woken signals)⟩

def enter (threads : Threads) (index : Nat) (op : SequencedOp) (goal : TurnGoal) : Threads :=
  let applied := op.apply threads.replica.store
  threads.install index { threads.replica with store := applied.2 } (.inTurn op goal applied.1)
    (if applied.1 = .ok .stored then [.changed] else [])

def leave (threads : Threads) (index : Nat) (op : SequencedOp) (goal : TurnGoal)
    (result : Except StoreError Applied) : Threads :=
  let number := threads.replica.gate.next
  let gate := threads.replica.gate.advance ⟨op, .ofResult result⟩
  threads.install index { threads.replica with gate }
    (.ofMove gate (.turn number op goal) (goal.after number gate.next result)) [.advanced]

/-- The next section of a thread. While a thread is in its turn, no other gets at the gate. -/
def act? (threads : Threads) (index : Nat) : Option Threads :=
  match threads.states[index]? with
  | some (.ready task) =>
      if task.concernsGate && threads.isLocked then none
      else
        match threads.replica.turnOf? task with
        | some (op, goal) => some (threads.enter index op goal)
        | none =>
            let moved := threads.replica.step task
            some (threads.install index moved.replica
              (.ofMove threads.replica.gate task moved.move) moved.signals)
  | some (.inTurn op goal result) => some (threads.leave index op goal result)
  | _ => none

inductive Reached (first : Replica) : Threads → Prop
  | start : Reached first ⟨first, []⟩
  | call {threads : Threads} (earlier : Reached first threads) (task : Except StoreError Task) :
      Reached first (threads.call task)
  | act {threads next : Threads} {index : Nat} (earlier : Reached first threads)
      (acted : threads.act? index = some next) : Reached first next

end Threads

/-! ## Signals -/

theorem Space.missed_of_find {space : Space} {pattern : Pattern}
    (missing : space.find? pattern = none) :
    ∀ tuple ∈ space.values, pattern.hits tuple = false := by
  rw [find?, Option.map_eq_none_iff, List.find?_eq_none] at missing
  intro tuple member
  obtain ⟨entry, stored, rfl⟩ := List.mem_map.mp member
  simpa using missing entry stored

theorem Gate.remembered_of_wait {gate : Gate} {number : Nat} {op : SequencedOp}
    (repeated : gate.repeated number op = .wait) :
    gate.record? number = some ⟨op, .waiting⟩ := by
  unfold Gate.repeated at repeated
  cases found : gate.record? number with
  | none =>
      rw [found] at repeated
      cases repeated
  | some record =>
      obtain ⟨asked, outcome⟩ := record
      rw [found] at repeated
      dsimp only at repeated
      split at repeated
      · rename_i same
        subst same
        cases outcome with
        | waiting => rfl
        | _ => cases repeated
      · cases repeated

theorem Store.Undergoes.shrinks {store next : Store} {event : StoreEvent}
    (undergoes : store.Undergoes event next) (quiet : ∀ tuple, event ≠ .accepted tuple) :
    next.space.values ⊆ store.space.values ∧ next.handoffs ⊆ store.handoffs := by
  cases undergoes with
  | quiet same => exact ⟨same ▸ List.Subset.refl _, List.Subset.refl _⟩
  | stored => exact absurd rfl (quiet _)
  | handed served => exact absurd rfl (quiet _)
  | taken gone =>
      exact ⟨fun tuple member => gone.symm.subset (List.mem_cons_of_mem _ member),
        List.Subset.refl _⟩
  | queued => exact ⟨List.Subset.refl _, List.Subset.refl _⟩
  | collected collected =>
      obtain ⟨before, behind, split, rfl⟩ := collect_split collected
      refine ⟨List.Subset.refl _, ?_⟩
      intro handoff member
      rw [split]
      simp only [List.mem_append, List.mem_cons] at member ⊢
      exact member.imp_right Or.inr
  | committed gone =>
      exact ⟨fun tuple member => gone.symm.subset (List.mem_cons_of_mem _ member),
        List.Subset.refl _⟩

theorem StoreEvent.stored_of_accepted {op : SequencedOp} {result : Except StoreError Applied}
    {tuple : String} (accepted : ofTurn op result = .accepted tuple) :
    result = .ok .stored := by
  unfold ofTurn at accepted
  split at accepted
  · rfl
  · cases accepted
  · cases accepted
  · cases accepted

namespace Replica

/-- Whoever waits for the store is told when it accepts a tuple. -/
theorem shrinks_or_changed (replica : Replica) (task : Task) :
    ((replica.step task).replica.store.space.values ⊆ replica.store.space.values ∧
      (replica.step task).replica.store.handoffs ⊆ replica.store.handoffs) ∨
    (replica.step task).signals.contains .changed = true := by
  by_cases accepted : ∃ tuple, replica.event task = .accepted tuple
  · obtain ⟨tuple, accepted⟩ := accepted
    right
    cases task with
    | put tuple =>
        cases put : replica.store.put tuple with
        | error cause => simp [event, step, put] at accepted
        | ok next => simp [step, put]
    | turn number op goal =>
        simp only [event] at accepted
        split at accepted
        · rename_i now
          subst now
          rw [step_now]
          simp [takeTurn, StoreEvent.stored_of_accepted accepted]
        · cases accepted
    | commit tuple client =>
        cases committed : replica.store.space.commit tuple client <;>
          simp [event, step, committed] at accepted
    | enqueue pattern =>
        rcases taking : replica.store.takeOrEnqueue pattern with ⟨_ | _, _⟩ <;>
          simp [event, step, taking] at accepted
    | take pattern =>
        rcases taking : replica.store.takeOrEnqueue pattern with ⟨_ | _, _⟩ <;>
          simp [event, step, taking] at accepted
    | handoff ticket number? =>
        cases collected : replica.store.collect? ticket <;> cases number? <;>
          simp [event, step, collected] at accepted
    | _ => cases accepted
  · exact .inl ((replica.undergoes_step task).shrinks fun tuple same => accepted ⟨tuple, same⟩)

variable {replica : Replica} {task : Task} {signal : Signal} {wait : Concern}

/-- A task that waits for the store goes on to wait while the store shrinks, and one that waits
for the gate while the gate stays. -/
theorem Waits.mono {next : Replica} (waits : replica.Waits task signal wait)
    (store : signal = .changed → next.store.space.values ⊆ replica.store.space.values ∧
      next.store.handoffs ⊆ replica.store.handoffs)
    (gate : signal = .advanced → next.gate = replica.gate) : next.Waits task signal wait := by
  cases waits with
  | tuple missing => exact .tuple fun tuple member => missing tuple ((store rfl).1 member)
  | handoff missing => exact .handoff fun tuple member => missing tuple ((store rfl).2 member)
  | turn ahead => exact .turn (by rwa [gate rfl])
  | outcome remembered => exact .outcome (by rwa [gate rfl])

/-- A step of another task wakes whoever has no reason to wait any more. -/
theorem Waits.step {other : Task} (waits : replica.Waits task signal wait)
    (unheard : ¬(replica.step other).signals.contains signal = true) :
    (replica.step other).replica.Waits task signal wait := by
  refine waits.mono ?_ ?_
  · rintro rfl
    exact (replica.shrinks_or_changed other).resolve_right unheard
  · rintro rfl
    exact (replica.gate_or_advanced other).resolve_right unheard

theorem waits_of_park (move : (replica.step task).move = .park signal) :
    ∃ wait, task.loop? replica.gate = some wait ∧
      (replica.step task).replica.Waits task signal wait := by
  cases task with
  | read pattern =>
      simp only [Replica.step] at move ⊢
      cases found : replica.store.space.find? pattern with
      | some tuple =>
          rw [found] at move
          cases move
      | none =>
          rw [found] at move
          cases move
          exact ⟨_, rfl, .tuple (Space.missed_of_find found)⟩
  | handoff ticket number? =>
      simp only [Replica.step] at move ⊢
      cases collected : replica.store.collect? ticket with
      | some pair =>
          rw [collected] at move
          cases number? <;> cases move
      | none =>
          rw [collected] at move
          cases move
          refine ⟨_, rfl, .handoff fun tuple member => ?_⟩
          rw [Store.collect?, Option.map_eq_none_iff, lookup_none] at collected
          exact collected (List.mem_map.mpr ⟨_, member, rfl⟩)
  | turn number op goal =>
      obtain ⟨rfl, waits, same⟩ := parks_turn move
      rw [same]
      rcases waits with ahead | ⟨below, repeated⟩
      · exact ⟨.turn number, by simp [Task.loop?, ahead], .turn ahead⟩
      · have reached : ¬replica.gate.next < number := by omega
        exact ⟨.outcome number op, by simp [Task.loop?, reached],
          .outcome (Gate.remembered_of_wait repeated)⟩
  | _ =>
      simp only [Replica.step] at move
      first
        | cases move
        | split at move <;> cases move

end Replica

namespace Threads

variable {first : Replica} {threads next : Threads} {index : Nat}

def Patient (threads : Threads) : Prop :=
  ∀ {index : Nat} {task : Task} {signal : Signal} {wait? : Option Concern},
    threads.states[index]? = some (.parked task signal wait?) →
      ∃ wait, wait? = some wait ∧ threads.replica.Waits task signal wait

/-- A section of a thread keeps all threads patient, if whoever does not hear its signals still
has reason to wait, and the thread itself has where it parks. -/
theorem Patient.install {replica : Replica} {state : Thread} {signals : List Signal}
    (patient : threads.Patient)
    (others : ∀ {task signal wait}, threads.replica.Waits task signal wait →
      ¬signals.contains signal = true → replica.Waits task signal wait)
    (own : ∀ {task signal wait?}, state = .parked task signal wait? →
      ∃ wait, wait? = some wait ∧ replica.Waits task signal wait) :
    (threads.install index replica state signals).Patient := by
  intro position task signal wait? parked
  simp only [Threads.install, List.getElem?_map, Option.map_eq_some_iff] at parked
  obtain ⟨before, found, kept⟩ := parked
  -- A thread that is parked now was parked with the same wait before the signals.
  obtain ⟨rfl, unheard⟩ : before = .parked task signal wait? ∧
      ¬signals.contains signal = true := by
    cases before with
    | parked task signal wait? =>
        rw [Thread.woken] at kept
        split at kept
        · cases kept
        · rename_i unheard
          cases kept
          exact ⟨rfl, unheard⟩
    | _ => cases kept
  rw [List.getElem?_set] at found
  split at found
  · split at found
    · exact own (Option.some.inj found)
    · cases found
  · obtain ⟨wait, told, waits⟩ := patient found
    exact ⟨wait, told, others waits unheard⟩

theorem Patient.enter (patient : threads.Patient) (op : SequencedOp) (goal : TurnGoal) :
    (threads.enter index op goal).Patient := by
  refine patient.install ?_ fun parked => by cases parked
  intro task signal wait waits unheard
  refine waits.mono ?_ fun _ => rfl
  rintro rfl
  refine (threads.replica.store.undergoes_apply op).shrinks ?_
  intro tuple accepted
  rw [if_pos (StoreEvent.stored_of_accepted accepted)] at unheard
  exact unheard rfl

theorem Patient.leave (patient : threads.Patient) (op : SequencedOp) (goal : TurnGoal)
    (result : Except StoreError Applied) : (threads.leave index op goal result).Patient := by
  refine patient.install ?_ ?_
  · intro task signal wait waits unheard
    refine waits.mono (fun _ => ⟨List.Subset.refl _, List.Subset.refl _⟩) ?_
    rintro rfl
    exact absurd rfl unheard
  · intro task signal wait? parked
    unfold Thread.ofMove at parked
    split at parked
    · cases parked
    · cases parked
    · rename_i move
      exact absurd move (goal.never_parks _ _ _ _)

theorem Patient.act (patient : threads.Patient) (acted : threads.act? index = some next) :
    next.Patient := by
  unfold act? at acted
  split at acted
  · rename_i task _
    split at acted
    · cases acted
    · split at acted
      · cases acted
        exact patient.enter _ _
      · cases acted
        refine patient.install (fun waits unheard => waits.step unheard) ?_
        intro other signal wait? parked
        unfold Thread.ofMove at parked
        split at parked
        · cases parked
        · cases parked
        · rename_i move
          cases parked
          exact Replica.waits_of_park move
  · cases acted
    exact patient.leave _ _ _
  · cases acted

theorem patient_of_reached (reached : Reached first threads) : threads.Patient := by
  induction reached with
  | start => intro index task signal wait? parked; simp at parked
  | @call threads earlier called patient =>
      intro index task signal wait? parked
      rw [Threads.call, List.getElem?_append] at parked
      split at parked
      · exact patient parked
      · have last := List.mem_singleton.mp (List.mem_of_getElem? parked)
        cases called <;> cases last
  | act _ acted patient => exact patient.act acted

/-- No wakeup is lost: a thread that is parked, and not woken since, waits for something that
has not come about. -/
theorem no_wakeup_is_lost (reached : Reached first threads) {task : Task} {signal : Signal}
    {wait? : Option Concern} (parked : threads.states[index]? = some (.parked task signal wait?)) :
    ∃ wait, wait? = some wait ∧ threads.replica.Waits task signal wait :=
  patient_of_reached reached parked

inductive Event
  | call (task : Except StoreError Task)
  | act (index : Nat)

def replay? (threads : Threads) : List Event → Option Threads
  | [] => some threads
  | .call task :: later => (threads.call task).replay? later
  | .act index :: later => (threads.act? index).bind (·.replay? later)

theorem reached_of_replay {last : Threads} {events : List Event} (reached : Reached first threads)
    (replayed : threads.replay? events = some last) : Reached first last := by
  induction events generalizing threads with
  | nil =>
      cases replayed
      exact reached
  | cons event later induction =>
      cases event with
      | call task => exact induction (reached.call task) replayed
      | act index =>
          obtain ⟨next, acted, replayed⟩ := Option.bind_eq_some_iff.mp replayed
          exact induction (reached.act acted) replayed

private def heard? : Thread → Option Signal
  | .parked _ signal _ => some signal
  | _ => none

/-- A read, a queued take, its repetition and a number ahead of its turn are parked, and the store
has a tuple that the gate is still to count. -/
private def amidTurn : List Event :=
  [.call (Request.read "<z>").task, .act 0, .call (.ok (.turn 1 (.take "<b>") .take)), .act 1,
    .act 1, .act 1, .call (.ok (.turn 1 (.take "<b>") .take)), .act 2,
    .call (.ok (.turn 5 (.put "<c>") .put)), .act 3, .call (.ok (.turn 2 (.put "<a>") .put)),
    .act 4, .act 0, .act 1]

theorem no_wakeup_is_lost_of_turn :
    ∃ threads, Reached {} threads ∧ threads.isLocked = true ∧ ∀ index < 4, ∃ task signal wait,
      threads.states[index]? = some (.parked task signal (some wait)) ∧
        threads.replica.Waits task signal wait := by
  have shape : (replay? ⟨{}, []⟩ amidTurn).map (fun threads =>
      (threads.isLocked, threads.states.map heard?)) =
        some (true, [some .changed, some .changed, some .advanced, some .advanced, none]) := by
    decide +kernel
  obtain ⟨threads, replayed, same⟩ := Option.map_eq_some_iff.mp shape
  obtain ⟨locked, signals⟩ := Prod.mk.inj same
  have reached := reached_of_replay .start replayed
  refine ⟨threads, reached, locked, ?_⟩
  intro index bound
  have hears : ∃ signal, (threads.states.map heard?)[index]? = some (some signal) := by
    rw [signals]
    match index, bound with
    | 0, _ | 1, _ | 2, _ | 3, _ => exact ⟨_, rfl⟩
  obtain ⟨task, signal, wait?, parked⟩ : ∃ task signal wait?,
      threads.states[index]? = some (.parked task signal wait?) := by
    obtain ⟨signal, heard⟩ := hears
    rw [List.getElem?_map, Option.map_eq_some_iff] at heard
    obtain ⟨thread, found, same⟩ := heard
    cases thread <;> cases same
    exact ⟨_, _, _, found⟩
  obtain ⟨wait, rfl, waits⟩ := no_wakeup_is_lost reached parked
  exact ⟨task, signal, wait, parked, waits⟩

end Threads

/-! ## Turns as one step -/

inductive Service.Reached (first : Replica) : Service → Prop
  | start : Reached first ⟨first, []⟩
  | call {service : Service} (earlier : Reached first service) (task : Except StoreError Task) :
      Reached first (service.call task)
  | step {service next : Service} {index : Nat} (earlier : Reached first service)
      (stepped : service.step? index = some next) : Reached first next

theorem CallState.woken_twice (first second : List Signal) (state : CallState) :
    (state.woken first).woken second = state.woken (first ++ second) := by
  cases state with
  | parked task signal =>
      simp only [woken, List.contains_append]
      cases first.contains signal <;> rfl
  | _ => rfl

namespace Thread

def shown? : Thread → Option CallState
  | ready task => some (.running task)
  | inTurn _ _ _ => none
  | parked task signal _ => some (.parked task signal)
  | finished result => some (.finished result)

theorem shown_of_call (task : Except StoreError Task) :
    (ofCall task).shown? = some (match task with
      | .ok task => .running task
      | .error cause => .finished (.error cause)) := by
  cases task <;> rfl

theorem shown_of_move (gate : Gate) (task : Task) (move : Move) :
    (ofMove gate task move).shown? = some (.ofMove task move) := by
  cases move <;> rfl

theorem shown_woken (signals : List Signal) (thread : Thread) :
    (thread.woken signals).shown? = thread.shown?.map (.woken signals) := by
  cases thread with
  | parked task signal wait? =>
      rw [woken]
      split
      · simp_all [shown?, CallState.woken]
      · simp_all [shown?, CallState.woken]
  | _ => rfl

end Thread

namespace Threads

structure Shows (threads : Threads) (service : Service) : Prop where
  replica : threads.replica = service.replica
  calls : threads.states.map (·.shown?) = service.calls.map some

variable {first : Replica} {threads : Threads} {service next : Service} {index : Nat}

theorem Shows.unlocked (shows : threads.Shows service) : threads.isLocked = false := by
  refine List.any_eq_false.mpr ?_
  intro thread member inTurn
  have shown : thread.shown? ∈ service.calls.map some :=
    shows.calls ▸ List.mem_map_of_mem member
  cases thread with
  | inTurn op goal result => simp [Thread.shown?] at shown
  | _ => cases inTurn

theorem shown_install (threads : Threads) (index : Nat) (replica : Replica) (state : Thread)
    (signals : List Signal) :
    (threads.install index replica state signals).states.map (·.shown?) =
      ((threads.states.map (·.shown?)).set index state.shown?).map
        (Option.map (.woken signals)) := by
  simp [install, List.map_set, Function.comp_def, Thread.shown_woken]

theorem act_ready {task : Task} (ready : threads.states[index]? = some (.ready task))
    (unlocked : threads.isLocked = false) :
    threads.act? index =
      match threads.replica.turnOf? task with
      | some (op, goal) => some (threads.enter index op goal)
      | none => some (threads.install index (threads.replica.step task).replica
          (.ofMove threads.replica.gate task (threads.replica.step task).move)
          (threads.replica.step task).signals) := by
  simp only [act?, ready, unlocked, Bool.and_false, Bool.false_eq_true, ↓reduceIte]

theorem take_turn_signals (replica : Replica) (op : SequencedOp) :
    (replica.takeTurn op).2.2 =
      (if (op.apply replica.store).1 = .ok .stored then [.changed] else []) ++ [.advanced] := by
  unfold Replica.takeTurn
  dsimp only
  split
  · rename_i stored
    rw [if_pos stored]
    rfl
  · rename_i other
    rw [if_neg other]
    rfl

/-- The two sections of a turn, one right after the other, are a step of the replica. -/
theorem leave_enter (op : SequencedOp) (goal : TurnGoal) {calls : List CallState}
    (shown : threads.states.map (·.shown?) = calls.map some) :
    let task := Task.turn threads.replica.gate.next op goal
    let moved := threads.replica.step task
    ((threads.enter index op goal).leave index op goal (op.apply threads.replica.store).1).Shows
      ⟨moved.replica, (calls.set index (.ofMove task moved.move)).map (.woken moved.signals)⟩ := by
  intro task moved
  have same : moved = _ := Replica.step_now
  have awake : ∀ signals, CallState.woken signals (.ofMove task moved.move) =
      .ofMove task moved.move := by
    intro signals
    cases move : moved.move with
    | park signal =>
        rw [same] at move
        exact absurd move (goal.never_parks _ _ _ _)
    | _ => rfl
  constructor
  case replica =>
    rw [same]
    rfl
  case calls =>
    rw [leave, shown_install, enter, shown_install, shown, Thread.shown_of_move]
    have signals : moved.signals =
        (if (op.apply threads.replica.store).1 = .ok .stored then [.changed] else []) ++
          [.advanced] := by
      rw [same]
      exact take_turn_signals threads.replica op
    have move : goal.after threads.replica.gate.next (threads.replica.gate.next + 1)
        (op.apply threads.replica.store).1 = moved.move := by rw [same]
    have own : Option.some (CallState.woken [.advanced] (.ofMove task moved.move)) =
        some (CallState.woken moved.signals (.ofMove task moved.move)) := by
      rw [awake [.advanced], awake moved.signals]
    change ((((calls.map some).set index none).map _).set index
      (some (CallState.ofMove task (goal.after threads.replica.gate.next
        (threads.replica.gate.next + 1) (op.apply threads.replica.store).1)))).map _ = _
    rw [move]
    simp only [List.map_set, List.set_set, Option.map_some, own]
    simp [signals, Function.comp_def, CallState.woken_twice]

theorem Shows.step (shows : threads.Shows service) (reached : Reached first threads)
    (stepped : service.step? index = some next) :
    ∃ later, Reached first later ∧ later.Shows next := by
  unfold Service.step? at stepped
  split at stepped
  · rename_i task running
    cases stepped
    have ready : threads.states[index]? = some (.ready task) := by
      have shown := congrArg (·[index]?) shows.calls
      simp only [List.getElem?_map, running, Option.map_some, Option.map_eq_some_iff] at shown
      obtain ⟨thread, found, same⟩ := shown
      cases thread <;> cases same
      exact found
    have acted := act_ready ready shows.unlocked
    obtain ⟨replica, calls⟩ := shows
    rw [← replica]
    cases turn : threads.replica.turnOf? task with
    | none =>
        rw [turn] at acted
        refine ⟨_, reached.act acted, rfl, ?_⟩
        rw [shown_install, calls, Thread.shown_of_move]
        simp [List.map_set, Function.comp_def]
    | some pair =>
        obtain ⟨op, goal⟩ := pair
        rw [turn] at acted
        obtain rfl : task = .turn threads.replica.gate.next op goal := by
          unfold Replica.turnOf? at turn
          split at turn
          · split at turn
            · rename_i now
              cases turn
              rw [now]
            · cases turn
          · cases turn
        have inTurn : (threads.enter index op goal).states[index]? =
            some (.inTurn op goal (op.apply threads.replica.store).1) := by
          have bound := (List.getElem?_eq_some_iff.mp ready).1
          rw [enter, install, List.getElem?_map, List.getElem?_set_self bound]
          rfl
        have left : (threads.enter index op goal).act? index =
            some ((threads.enter index op goal).leave index op goal
              (op.apply threads.replica.store).1) := by
          rw [act?, inTurn]
        exact ⟨_, (reached.act acted).act left, leave_enter op goal calls⟩
  · cases stepped

/-- Whatever a service comes to in whole turns, its threads come to in sections. -/
theorem shows_of_reached (reached : Service.Reached first service) :
    ∃ threads, Reached first threads ∧ threads.Shows service := by
  induction reached with
  | start => exact ⟨_, .start, rfl, rfl⟩
  | @call service earlier task induction =>
      obtain ⟨threads, reached, shows⟩ := induction
      refine ⟨_, reached.call task, shows.replica, ?_⟩
      cases task <;> simp [Threads.call, Service.call, shows.calls, Thread.shown_of_call]
  | step earlier stepped induction =>
      obtain ⟨threads, reached, shows⟩ := induction
      exact shows.step reached stepped

end Threads

theorem Service.parked_waits {first : Replica} {service : Service} {index : Nat} {task : Task}
    {signal : Signal} (reached : Service.Reached first service)
    (parked : service.calls[index]? = some (.parked task signal)) :
    ∃ wait, service.replica.Waits task signal wait := by
  obtain ⟨threads, sections, shows⟩ := Threads.shows_of_reached reached
  have shown := congrArg (·[index]?) shows.calls
  simp only [List.getElem?_map, parked, Option.map_some, Option.map_eq_some_iff] at shown
  obtain ⟨thread, found, same⟩ := shown
  cases thread <;> cases same
  obtain ⟨wait, _, waits⟩ := Threads.patient_of_reached sections found
  exact ⟨wait, shows.replica ▸ waits⟩

end TupleSpace
