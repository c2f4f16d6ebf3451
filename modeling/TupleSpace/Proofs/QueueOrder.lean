import Mathlib.Order.Monotone.Basic
import TupleSpace.Proofs.StoreConservation

/-!
# The order in which queued takes are served

Takes queue in the order of their tickets. A tuple that is put goes to the first of them that it
satisfies, so a take overtakes an earlier one only with a tuple that the earlier one is not after.
Such a tuple never enters the space: whatever is found there was appended to it by a put that no
queued take was after.
-/

namespace TupleSpace

namespace Store

/-- The queue stands in the order of its tickets, all of which have been given out. -/
structure InLine (store : Store) : Prop where
  ordered : (store.pending.map (·.ticket)).Pairwise (· < ·)
  below : ∀ take ∈ store.pending, take.ticket < store.nextTicket

/-- What becomes of a store that accepts a tuple: the oldest take that the tuple satisfies leaves
the queue with it, or nobody in the queue is after the tuple and it is appended to the space. -/
inductive Accepts (tuple : String) (store : Store) : Store → Prop
  | handed {older younger : List PendingTake} {take : PendingTake}
      (queue : store.pending = older ++ take :: younger) (fits : take.pattern.hits tuple = true)
      (oldest : ∀ other ∈ older, other.pattern.hits tuple = false) :
      Accepts tuple store
        { store with
          pending := older ++ younger
          handoffs := store.handoffs ++ [(take.ticket, tuple)] }
  | stored (unwanted : ∀ take ∈ store.pending, take.pattern.hits tuple = false) :
      Accepts tuple store { store with space := ⟨store.space.entries ++ [⟨tuple, none⟩]⟩ }

section

variable {store next : Store} {event : StoreEvent} {take : PendingTake} {tuple : String}

theorem accepts_put (put : store.put tuple = .ok next) : store.Accepts tuple next := by
  unfold Store.put at put
  split at put
  · cases put
  · split at put
    · rename_i take left served
      cases put
      obtain ⟨older, younger, queue, rfl, fits, oldest⟩ := serve_oldest served
      exact .handed queue fits oldest
    · rename_i unserved
      cases put
      exact .stored (serve_none unserved)

theorem InLine.undergoes (line : store.InLine) (undergoes : store.Undergoes event next) :
    next.InLine := by
  cases undergoes with
  | handed served =>
      obtain ⟨older, younger, queue, rfl⟩ := serve_split served
      have shorter : (older ++ younger).Sublist store.pending := by
        rw [queue]
        exact (List.sublist_cons_self _ _).append_left _
      exact ⟨line.ordered.sublist (shorter.map _), fun take waits =>
        line.below take (shorter.subset waits)⟩
  | queued =>
      constructor
      · rw [List.map_append, List.pairwise_append]
        refine ⟨line.ordered, List.pairwise_singleton _ _, fun ticket earlier other now => ?_⟩
        obtain ⟨take, waits, rfl⟩ := List.mem_map.mp earlier
        rw [List.mem_singleton.mp now]
        exact line.below take waits
      · intro take waits
        rcases List.mem_append.mp waits with earlier | now
        · exact Nat.lt_succ_of_lt (line.below take earlier)
        · rw [List.mem_singleton.mp now]
          exact Nat.lt_succ_self _
  | collected collected =>
      obtain ⟨before, behind, _, rfl⟩ := collect_split collected
      exact ⟨line.ordered, line.below⟩
  | _ => exact ⟨line.ordered, line.below⟩

/-- A take stays in the queue until it is handed a tuple. -/
theorem Undergoes.waits (undergoes : store.Undergoes event next) (waits : take ∈ store.pending) :
    take ∈ next.pending ∨
      ∃ tuple, next.handoffs = store.handoffs ++ [(take.ticket, tuple)] := by
  cases undergoes with
  | @handed tuple served left split =>
      obtain ⟨older, younger, queue, rfl⟩ := serve_split split
      rw [queue, List.mem_append, List.mem_cons] at waits
      rw [List.mem_append]
      rcases waits with before | rfl | behind
      · exact Or.inl (Or.inl before)
      · exact Or.inr ⟨tuple, rfl⟩
      · exact Or.inl (Or.inr behind)
  | queued => exact Or.inl (List.mem_append_left _ waits)
  | collected collected =>
      obtain ⟨before, behind, _, rfl⟩ := collect_split collected
      exact Or.inl waits
  | _ => exact Or.inl waits

theorem Undergoes.next_ticket_le (undergoes : store.Undergoes event next) :
    store.nextTicket ≤ next.nextTicket := by
  cases undergoes with
  | queued => exact Nat.le_succ _
  | collected collected =>
      obtain ⟨before, behind, _, rfl⟩ := collect_split collected
      exact Nat.le_refl _
  | _ => exact Nat.le_refl _

theorem Undergoes.values_subperm (undergoes : store.Undergoes event next) :
    (∃ tuple, event = .accepted tuple) ∨ next.space.values.Subperm store.space.values := by
  have gone : ∀ {tuple : String} {left : List String},
      store.space.values.Perm (tuple :: left) → left.Subperm store.space.values :=
    fun out => (List.sublist_cons_self _ _).subperm.trans out.symm.subperm
  cases undergoes with
  | quiet same => exact Or.inr (same ▸ List.Subperm.refl _)
  | stored => exact Or.inl ⟨_, rfl⟩
  | handed served => exact Or.inl ⟨_, rfl⟩
  | taken out => exact Or.inr (gone out)
  | queued => exact Or.inr (List.Subperm.refl _)
  | collected collected =>
      obtain ⟨before, behind, _, rfl⟩ := collect_split collected
      exact Or.inr (List.Subperm.refl _)
  | committed out => exact Or.inr (gone out)

theorem Undergoes.served {ticket : Nat} (undergoes : store.Undergoes event next)
    (handed : next.handoffs = store.handoffs ++ [(ticket, tuple)]) :
    ∃ take left, serve? tuple store.pending = some (take, left) ∧ take.ticket = ticket := by
  have longer := congrArg List.length handed
  cases undergoes with
  | handed served =>
      cases List.append_cancel_left handed
      exact ⟨_, _, served, rfl⟩
  | collected collected =>
      obtain ⟨before, behind, split, rfl⟩ := collect_split collected
      simp only [split, List.length_append, List.length_cons] at longer
      omega
  | _ => simp at longer

/-- No take is passed over for a later one with a tuple that it is after. -/
theorem InLine.first_come {late : PendingTake} (line : store.InLine)
    (undergoes : store.Undergoes event next) (waits : take ∈ store.pending)
    (earlier : take.ticket < late.ticket) (fits : take.pattern.hits tuple = true) :
    next.handoffs ≠ store.handoffs ++ [(late.ticket, tuple)] := by
  intro handed
  obtain ⟨served, left, oldest, same⟩ := undergoes.served handed
  obtain ⟨older, younger, queue, _, _, misses⟩ := serve_oldest oldest
  have ordered := line.ordered
  rw [queue, List.map_append, List.map_cons, List.pairwise_append, List.pairwise_cons] at ordered
  rw [queue, List.mem_append, List.mem_cons] at waits
  rcases waits with before | rfl | behind
  · rw [misses take before] at fits
    cases fits
  · omega
  · have later := ordered.2.1.1 take.ticket (List.mem_map_of_mem behind)
    omega

end

end Store

namespace Replica

def Hands (replica : Replica) (task : Task) (take : PendingTake) (tuple : String) : Prop :=
  take ∈ replica.store.pending ∧
    (replica.step task).replica.store.handoffs =
      replica.store.handoffs ++ [(take.ticket, tuple)]

instance (replica : Replica) (task : Task) (take : PendingTake) :
    Decidable (replica.Queues task take) := inferInstanceAs (Decidable (_ = _))

instance (replica : Replica) (task : Task) (take : PendingTake) (tuple : String) :
    Decidable (replica.Hands task take tuple) := inferInstanceAs (Decidable (_ ∧ _))

/-- The replica after so many of the tasks, from an empty store on. -/
def reached (gate : Gate) (tasks : List Task) (time : Nat) : Replica :=
  carryOut { gate } (tasks.take time)

def QueuedAt (gate : Gate) (tasks : List Task) (time : Nat) (take : PendingTake) : Prop :=
  ∃ task, tasks[time]? = some task ∧ (reached gate tasks time).Queues task take

def HandedAt (gate : Gate) (tasks : List Task) (time : Nat) (take : PendingTake)
    (tuple : String) : Prop :=
  ∃ task, tasks[time]? = some task ∧ (reached gate tasks time).Hands task take tuple

/-- The tuple that a step appends to the space: one that is put while nobody in the queue is after
it. -/
def appended? (replica : Replica) (task : Task) : Option String :=
  match replica.event task with
  | .accepted tuple =>
      if replica.store.pending.any (·.pattern.hits tuple) then none else some tuple
  | _ => none

def appended (replica : Replica) (tasks : List Task) : List String :=
  (replica.trace tasks).filterMap fun (before, task) => before.appended? task

theorem appended_concat (replica : Replica) (tasks : List Task) (task : Task) :
    replica.appended (tasks ++ [task]) =
      replica.appended tasks ++ ((replica.carryOut tasks).appended? task).toList := by
  rw [appended, trace_concat, filter_map_concat]
  rfl

section

variable {gate : Gate} {tasks : List Task} {replica : Replica} {task : Task} {take : PendingTake}
  {tuple : String} {time : Nat}

/-! ## One step -/

theorem put_of_turn {op : SequencedOp} {store : Store}
    (accepted : .ofTurn op (op.apply store).1 = StoreEvent.accepted tuple) :
    store.put tuple = .ok (op.apply store).2 := by
  cases op with
  | put other =>
      cases put : store.put other with
      | error cause => simp [SequencedOp.apply, put, StoreEvent.ofTurn] at accepted
      | ok next =>
          have same : other = tuple := by
            simpa [SequencedOp.apply, put, StoreEvent.ofTurn] using accepted
          subst same
          simp [SequencedOp.apply, put]
  | take source =>
      cases parsed : Pattern.parse source with
      | error cause => simp [SequencedOp.apply, parsed, StoreEvent.ofTurn] at accepted
      | ok pattern =>
          rcases taking : store.takeOrEnqueue pattern with ⟨_ | _, next⟩ <;>
            simp [SequencedOp.apply, parsed, taking, StoreEvent.ofTurn] at accepted

theorem put_of_accepted (accepted : replica.event task = .accepted tuple) :
    replica.store.put tuple = .ok (replica.step task).replica.store := by
  cases task with
  | put other =>
      cases put : replica.store.put other with
      | error cause => simp [event, step, put] at accepted
      | ok next =>
          have same : other = tuple := by simpa [event, step, put] using accepted
          subst same
          simp [step, put]
  | turn number op goal =>
      simp only [event] at accepted
      by_cases now : number = replica.gate.next
      · subst now
        rw [if_pos rfl] at accepted
        rw [step_now]
        exact put_of_turn accepted
      · rw [if_neg now] at accepted
        cases accepted
  | commit other client =>
      cases committed : replica.store.space.commit other client <;>
        simp [event, step, committed] at accepted
  | enqueue pattern =>
      rcases taking : replica.store.takeOrEnqueue pattern with ⟨_ | _, next⟩ <;>
        simp [event, step, taking] at accepted
  | take pattern =>
      rcases taking : replica.store.takeOrEnqueue pattern with ⟨_ | _, next⟩ <;>
        simp [event, step, taking] at accepted
  | handoff ticket number? =>
      cases collected : replica.store.collect? ticket <;> cases number? <;>
        simp [event, step, collected] at accepted
  | _ => simp [event] at accepted

theorem accepts_step (accepted : replica.event task = .accepted tuple) :
    replica.store.Accepts tuple (replica.step task).replica.store :=
  Store.accepts_put (put_of_accepted accepted)

theorem ticket_of_queues (queues : replica.Queues task take) :
    take.ticket = replica.store.nextTicket := by
  have undergoes := replica.undergoes_step task
  unfold Queues at queues
  generalize replica.event task = event at undergoes
  generalize (replica.step task).replica.store = next at undergoes queues
  have counted := congrArg (·.nextTicket) queues
  cases undergoes with
  | queued =>
      have last := List.append_cancel_left (congrArg (·.pending) queues)
      cases last
      rfl
  | collected collected =>
      obtain ⟨before, behind, _, rfl⟩ := Store.collect_split collected
      exact absurd counted (Nat.ne_of_lt (Nat.lt_succ_self _))
  | _ => exact absurd counted (Nat.ne_of_lt (Nat.lt_succ_self _))

/-! ## Runs -/

theorem reached_now (here : tasks[time]? = some task) :
    reached gate tasks (time + 1) = ((reached gate tasks time).step task).replica := by
  rw [reached, reached, List.take_add_one, here, Option.toList_some, carryOut_concat]

theorem reached_idle (past : tasks[time]? = none) :
    reached gate tasks (time + 1) = reached gate tasks time := by
  rw [reached, reached, List.take_add_one, past, Option.toList_none, List.append_nil]

theorem in_line (gate : Gate) (tasks : List Task) (time : Nat) :
    (reached gate tasks time).store.InLine := by
  induction time with
  | zero => exact ⟨List.Pairwise.nil, by simp [reached, carryOut]⟩
  | succ time line =>
      cases here : tasks[time]? with
      | none => rwa [reached_idle here]
      | some task =>
          rw [reached_now here]
          exact line.undergoes (undergoes_step _ task)

theorem tickets_grow (gate : Gate) (tasks : List Task) :
    Monotone fun time => (reached gate tasks time).store.nextTicket := by
  refine monotone_nat_of_le_succ fun time => ?_
  cases here : tasks[time]? with
  | none => rw [reached_idle here]
  | some task =>
      rw [reached_now here]
      exact (undergoes_step _ task).next_ticket_le

theorem waits_or_handed {start stop : Nat} (order : start ≤ stop)
    (waits : take ∈ (reached gate tasks start).store.pending) :
    take ∈ (reached gate tasks stop).store.pending ∨
      ∃ time < stop, ∃ tuple, HandedAt gate tasks time take tuple := by
  induction stop, order using Nat.le_induction with
  | base => exact Or.inl waits
  | succ time order induction =>
      rcases induction with still | ⟨earlier, before, tuple, handed⟩
      · cases here : tasks[time]? with
        | none => exact Or.inl (by rwa [reached_idle here])
        | some task =>
            rw [reached_now here]
            refine ((undergoes_step _ task).waits still).imp_right ?_
            rintro ⟨tuple, handed⟩
            exact ⟨time, Nat.lt_succ_self _, tuple, task, here, still, handed⟩
      · exact Or.inr ⟨earlier, Nat.lt_succ_of_lt before, tuple, handed⟩

/-- A take that was queued first is handed a tuple first, unless it is not after what the later one
is handed. -/
theorem handed_before {early late : Nat} {first second : PendingTake} (order : early < late)
    (queued : QueuedAt gate tasks early first) (later : QueuedAt gate tasks late second)
    (handed : HandedAt gate tasks time second tuple) (fits : first.pattern.hits tuple = true) :
    ∃ before < time, ∃ other, HandedAt gate tasks before first other := by
  obtain ⟨queueing, here, queues⟩ := queued
  obtain ⟨likewise, there, also⟩ := later
  obtain ⟨handing, now, waits, hands⟩ := handed
  have grown := tickets_grow gate tasks
  have own := ticket_of_queues queues
  have other := ticket_of_queues also
  have stands : reached gate tasks (early + 1) = _ := reached_now here
  have next : (reached gate tasks (early + 1)).store.nextTicket =
      (reached gate tasks early).store.nextTicket + 1 := by rw [stands, queues]
  have sooner : first.ticket < second.ticket := by
    have between := grown (show early + 1 ≤ late from order)
    dsimp only at between
    omega
  have after : early < time := by
    by_contra notAfter
    have bound := (in_line gate tasks time).below second waits
    have between := grown ((Nat.le_of_not_lt notAfter).trans order.le)
    dsimp only at between
    omega
  have begun : first ∈ (reached gate tasks (early + 1)).store.pending := by
    rw [stands, queues]
    exact List.mem_append_right _ (List.mem_singleton_self _)
  rcases waits_or_handed (Nat.succ_le_of_lt after) begun with still | done
  · have undergoes := undergoes_step (reached gate tasks time) handing
    exact absurd hands ((in_line gate tasks time).first_come undergoes still sooner fits)
  · exact done

theorem values_step (replica : Replica) (task : Task) :
    (replica.step task).replica.store.space.values.Subperm
      (replica.store.space.values ++ (replica.appended? task).toList) := by
  have fewer := (List.sublist_append_left replica.store.space.values
    (replica.appended? task).toList).subperm
  rcases (replica.undergoes_step task).values_subperm with ⟨tuple, event⟩ | fell
  · have accepts := accepts_step event
    generalize (replica.step task).replica.store = next at accepts
    cases accepts with
    | handed queue _ _ => exact fewer
    | stored unwanted =>
        have appends : replica.appended? task = some tuple := by
          simpa [appended?, event] using unwanted
        rw [appends, Option.toList_some, Space.values, List.map_append]
        exact List.Subperm.refl _
  · exact fell.trans fewer

/-- What is stored was appended to the space, as often as it is stored. -/
theorem values_appended (gate : Gate) (tasks : List Task) :
    (carryOut { gate } tasks).store.space.values.Subperm (appended { gate } tasks) := by
  induction tasks using List.reverseRecOn with
  | nil => exact List.Subperm.refl _
  | append_singleton tasks task induction =>
      rw [carryOut_concat, appended_concat]
      exact (values_step _ task).trans ((List.subperm_append_right _).mpr induction)

theorem mem_values_of_read {pattern : Pattern}
    (answered : (replica.step (.read pattern)).move = .finish (.ok (.tuple tuple))) :
    tuple ∈ replica.store.space.values := by
  simp only [step] at answered
  split at answered
  · rename_i found hit
    cases answered
    obtain ⟨entry, stored, rfl⟩ := Option.map_eq_some_iff.mp hit
    exact List.mem_map_of_mem (List.mem_of_find?_eq_some stored)
  · cases answered

end

/-- Queued takes stand in the order of their tickets, and of two of them the one that was queued
first is handed a tuple first, unless it is not after the tuple of the other. Whenever a tuple is
accepted, it goes to the oldest queued take that is after it, and to nothing else, or it is
appended to the space because there is none. Nothing else is ever stored or read. -/
theorem served_first_come (gate : Gate) (tasks : List Task) :
    ((carryOut { gate } tasks).store.pending.map (·.ticket)).Pairwise (· < ·) ∧
      (∀ early late time first second tuple, early < late →
        QueuedAt gate tasks early first → QueuedAt gate tasks late second →
        HandedAt gate tasks time second tuple → first.pattern.hits tuple = true →
        ∃ before < time, ∃ other, HandedAt gate tasks before first other) ∧
      (∀ task tuple, (carryOut { gate } tasks).event task = .accepted tuple →
        (carryOut { gate } tasks).store.Accepts tuple
          ((carryOut { gate } tasks).step task).replica.store) ∧
      (carryOut { gate } tasks).store.space.values.Subperm (appended { gate } tasks) ∧
      ∀ pattern tuple,
        ((carryOut { gate } tasks).step (.read pattern)).move = .finish (.ok (.tuple tuple)) →
        tuple ∈ appended { gate } tasks := by
  have values := values_appended gate tasks
  refine ⟨?_, ?_, fun _ _ => accepts_step, values, ?_⟩
  · have line := in_line gate tasks tasks.length
    rw [reached, List.take_length] at line
    exact line.ordered
  · intro early late time first second tuple order queued later handed fits
    exact handed_before order queued later handed fits
  · intro pattern tuple answered
    exact values.subset (mem_values_of_read answered)

/-- Behind a take that is after another tuple, two takes queue for any, and are given two. -/
def crowd (narrow any : Pattern) : List Task :=
  [.enqueue narrow, .enqueue any, .enqueue any, .put "<b>", .put "<b>"]

theorem served_first_come_of_crowd :
    ∃ narrow any, Pattern.parse "<a>" = .ok narrow ∧ Pattern.parse "<.>" = .ok any ∧
      QueuedAt {} (crowd narrow any) 1 ⟨1, any⟩ ∧ QueuedAt {} (crowd narrow any) 2 ⟨2, any⟩ ∧
      HandedAt {} (crowd narrow any) 4 ⟨2, any⟩ "<b>" ∧
      ∃ before < 4, ∃ other, HandedAt {} (crowd narrow any) before ⟨1, any⟩ other := by
  have shown : ((Pattern.parse "<a>").toOption.bind fun narrow =>
      (Pattern.parse "<.>").toOption.map fun any =>
        decide ((reached {} (crowd narrow any) 1).Queues (.enqueue any) ⟨1, any⟩ ∧
          (reached {} (crowd narrow any) 2).Queues (.enqueue any) ⟨2, any⟩ ∧
          (reached {} (crowd narrow any) 4).Hands (.put "<b>") ⟨2, any⟩ "<b>" ∧
          any.hits "<b>" = true)) = some true := by
    decide +kernel
  obtain ⟨narrow, first, rest⟩ := Option.bind_eq_some_iff.mp shown
  obtain ⟨any, second, holds⟩ := Option.map_eq_some_iff.mp rest
  obtain ⟨early, late, handed, fits⟩ := of_decide_eq_true holds
  have queued : QueuedAt {} (crowd narrow any) 1 ⟨1, any⟩ := ⟨_, rfl, early⟩
  have later : QueuedAt {} (crowd narrow any) 2 ⟨2, any⟩ := ⟨_, rfl, late⟩
  have served : HandedAt {} (crowd narrow any) 4 ⟨2, any⟩ "<b>" := ⟨_, rfl, handed⟩
  have turn := (served_first_come {} (crowd narrow any)).2.1 1 2 4 ⟨1, any⟩ ⟨2, any⟩ "<b>"
    (by decide) queued later served fits
  exact ⟨narrow, any, Pattern.parse_of_some first, Pattern.parse_of_some second, queued, later, served, turn⟩

end Replica

end TupleSpace
