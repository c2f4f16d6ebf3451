import TupleSpace.Proofs.NumberedTakes
import TupleSpace.Proofs.WaitingTakes

/-!
# Where the tuples of a store go

Every tuple that a store accepts is in one place at any time: stored, on hand for the take that it
was handed to, given to a take, or removed by a client that held it. Tickets are accounted for in
the same way: each is in the queue, has a tuple on hand, or has had one.
-/

namespace TupleSpace

inductive StoreEvent
  | quiet
  | accepted (tuple : String)
  | taken (tuple : String)
  | queued (ticket : Nat)
  | collected (ticket : Nat) (tuple : String)
  | committed (tuple : String)
deriving DecidableEq, Repr

namespace StoreEvent

def accepted? : StoreEvent → Option String
  | accepted tuple => some tuple
  | _ => none

/-- The tuple that a take is given, at once or after it was queued. -/
def given? : StoreEvent → Option String
  | taken tuple | collected _ tuple => some tuple
  | _ => none

def committed? : StoreEvent → Option String
  | committed tuple => some tuple
  | _ => none

def collected? : StoreEvent → Option (Nat × String)
  | collected ticket tuple => some (ticket, tuple)
  | _ => none

def ofTurn : SequencedOp → Except StoreError Applied → StoreEvent
  | .put tuple, .ok .stored => accepted tuple
  | .take _, .ok (.taken tuple) => taken tuple
  | .take _, .ok (.queued ticket) => queued ticket
  | _, _ => quiet

end StoreEvent

namespace Replica

/-- What a step of a task does, by what it answers or goes on with. A number that comes again does
nothing. -/
def event (replica : Replica) (task : Task) : StoreEvent :=
  match task, (replica.step task).move with
  | .put tuple, .finish (.ok .done) => .accepted tuple
  | .commit tuple _, .finish (.ok .done) => .committed tuple
  | .enqueue _, .finish (.ok (.tuple tuple)) => .taken tuple
  | .enqueue _, .finish (.ok (.queued ticket)) => .queued ticket
  | .take _, .finish (.ok (.tuple tuple)) => .taken tuple
  | .take _, .goOn (.handoff ticket _) => .queued ticket
  | .handoff ticket _, .finish (.ok (.tuple tuple)) => .collected ticket tuple
  | .handoff ticket _, .goOn (.note _ tuple) => .collected ticket tuple
  | .turn number op _, _ =>
      if number = replica.gate.next then .ofTurn op (op.apply replica.store).1 else .quiet
  | _, _ => .quiet

def trace (replica : Replica) : List Task → List (Replica × Task)
  | [] => []
  | task :: later => (replica, task) :: (replica.step task).replica.trace later

theorem trace_concat (replica : Replica) (tasks : List Task) (task : Task) :
    replica.trace (tasks ++ [task]) =
      replica.trace tasks ++ [(replica.carryOut tasks, task)] := by
  induction tasks generalizing replica with
  | nil => rfl
  | cons next rest induction => simp [trace, induction, carryOut]

def events (replica : Replica) (tasks : List Task) : List StoreEvent :=
  (replica.trace tasks).map fun (before, task) => before.event task

theorem events_concat (replica : Replica) (tasks : List Task) (task : Task) :
    replica.events (tasks ++ [task]) =
      replica.events tasks ++ [(replica.carryOut tasks).event task] := by
  rw [events, trace_concat, List.map_append]
  rfl

end Replica

namespace Store

inductive Undergoes (store : Store) : StoreEvent → Store → Prop
  | quiet {space : Space} (same : space.values = store.space.values) :
      Undergoes store .quiet { store with space }
  | stored {tuple : String} :
      Undergoes store (.accepted tuple) { store with space := store.space.insert tuple }
  | handed {tuple : String} {take : PendingTake} {left : List PendingTake}
      (served : serve? tuple store.pending = some (take, left)) :
      Undergoes store (.accepted tuple)
        { store with pending := left, handoffs := store.handoffs ++ [(take.ticket, tuple)] }
  | taken {tuple : String} {space : Space}
      (gone : store.space.values.Perm (tuple :: space.values)) :
      Undergoes store (.taken tuple) { store with space }
  | queued {pattern : Pattern} :
      Undergoes store (.queued store.nextTicket)
        { store with
          pending := store.pending ++ [⟨store.nextTicket, pattern⟩]
          nextTicket := store.nextTicket + 1 }
  | collected {ticket : Nat} {tuple : String} {next : Store}
      (collected : store.collect? ticket = some (tuple, next)) :
      Undergoes store (.collected ticket tuple) next
  | committed {tuple : String} {space : Space}
      (gone : store.space.values.Perm (tuple :: space.values)) :
      Undergoes store (.committed tuple) { store with space }

variable {store next : Store}

theorem undergoes_nothing (store : Store) : store.Undergoes .quiet store := .quiet rfl

theorem undergoes_put {tuple : String} (put : store.put tuple = .ok next) :
    store.Undergoes (.accepted tuple) next := by
  unfold Store.put at put
  split at put
  · cases put
  · split at put
    · rename_i take left served
      cases put
      exact .handed served
    · cases put
      exact .stored

theorem undergoes_take (store : Store) (pattern : Pattern) :
    store.Undergoes
      (match (store.takeOrEnqueue pattern).1 with
        | .taken tuple => .taken tuple
        | .queued ticket => .queued ticket)
      (store.takeOrEnqueue pattern).2 := by
  unfold takeOrEnqueue
  cases removed : store.space.removeFirst? pattern with
  | none => exact .queued
  | some pair => exact .taken (Space.values_remove removed)

theorem undergoes_apply (store : Store) (op : SequencedOp) :
    store.Undergoes (.ofTurn op (op.apply store).1) (op.apply store).2 := by
  cases op with
  | put tuple =>
      cases put : store.put tuple with
      | error cause =>
          simpa [SequencedOp.apply, put, StoreEvent.ofTurn] using store.undergoes_nothing
      | ok next => simpa [SequencedOp.apply, put, StoreEvent.ofTurn] using undergoes_put put
  | take source =>
      cases parsed : Pattern.parse source with
      | error cause =>
          rw [SequencedOp.take_refused store parsed]
          exact store.undergoes_nothing
      | ok pattern =>
          have undergoes := store.undergoes_take pattern
          simp only [SequencedOp.apply, parsed]
          rcases taking : store.takeOrEnqueue pattern with ⟨_ | _, next⟩ <;>
            simpa [taking, StoreEvent.ofTurn] using undergoes

end Store

theorem Replica.undergoes_step (replica : Replica) (task : Task) :
    replica.store.Undergoes (replica.event task) (replica.step task).replica.store := by
  cases task with
  | put tuple =>
      cases put : replica.store.put tuple with
      | error cause => simpa [event, step, put] using replica.store.undergoes_nothing
      | ok next => simpa [event, step, put] using Store.undergoes_put put
  | read pattern =>
      simp only [event, step]
      split <;> exact replica.store.undergoes_nothing
  | reserve pattern client => exact .quiet (Space.values_reserve _ _ _)
  | release client => exact .quiet (Space.values_release _ _)
  | commit tuple client =>
      cases committed : replica.store.space.commit tuple client with
      | error cause => simpa [event, step, committed] using replica.store.undergoes_nothing
      | ok space =>
          simpa [event, step, committed, withSpace] using
            Store.Undergoes.committed (Space.values_commit committed)
  | snapshot => exact replica.store.undergoes_nothing
  | enqueue pattern =>
      have undergoes := replica.store.undergoes_take pattern
      simp only [event, step]
      rcases taking : replica.store.takeOrEnqueue pattern with ⟨_ | _, next⟩ <;>
        simpa [taking] using undergoes
  | take pattern =>
      have undergoes := replica.store.undergoes_take pattern
      simp only [event, step]
      rcases taking : replica.store.takeOrEnqueue pattern with ⟨_ | _, next⟩ <;>
        simpa [taking] using undergoes
  | handoff ticket number? =>
      simp only [event, step]
      cases collected : replica.store.collect? ticket with
      | none => exact replica.store.undergoes_nothing
      | some pair => cases number? <;> exact .collected collected
  | turn number op goal =>
      simp only [event]
      by_cases now : number = replica.gate.next
      · subst now
        rw [if_pos rfl, step_now]
        exact replica.store.undergoes_apply op
      · rw [if_neg now, replica.step_out_of_turn now]
        exact replica.store.undergoes_nothing
  | note number tuple => exact replica.store.undergoes_nothing

structure Store.Accounts (store : Store) (events : List StoreEvent) : Prop where
  /-- Whatever was accepted is in just one place, copy by copy. -/
  tuples : (events.filterMap (·.accepted?)).Perm
    (store.space.values ++ store.handoffs.map (·.2) ++ events.filterMap (·.given?) ++
      events.filterMap (·.committed?))
  /-- Every ticket is queued, has a tuple on hand, or has had one, and only one of these. -/
  tickets : (store.pending.map (·.ticket) ++ store.handoffs.map (·.1) ++
    (events.filterMap (·.collected?)).map (·.1)).Perm (List.range store.nextTicket)

theorem filter_map_concat {α β : Type} (read? : α → Option β) (list : List α) (last : α) :
    (list ++ [last]).filterMap read? = list.filterMap read? ++ (read? last).toList := by
  rw [List.filterMap_append]
  rfl

namespace Store.Accounts

variable {store next : Store} {events : List StoreEvent} {event : StoreEvent}

theorem tuples_next (accounts : store.Accounts events) (undergoes : store.Undergoes event next) :
    ((events ++ [event]).filterMap (·.accepted?)).Perm
      (next.space.values ++ next.handoffs.map (·.2) ++ (events ++ [event]).filterMap (·.given?) ++
        (events ++ [event]).filterMap (·.committed?)) := by
  -- A tuple may be there in several copies, and moves between places without keeping an order.
  refine List.perm_iff_count.mpr fun name => ?_
  have before := accounts.tuples.count_eq name
  simp only [filter_map_concat, List.count_append] at before ⊢
  generalize events.filterMap (·.accepted?) = accepted at before ⊢
  generalize events.filterMap (·.given?) = given at before ⊢
  generalize events.filterMap (·.committed?) = committed at before ⊢
  cases undergoes with
  | quiet same =>
      simp only [StoreEvent.accepted?, StoreEvent.given?, StoreEvent.committed?, same]
      exact before
  | stored =>
      simp only [StoreEvent.accepted?, StoreEvent.given?, StoreEvent.committed?,
        Space.values_insert, List.count_append, Option.toList_some, Option.toList_none,
        List.count_nil]
      omega
  | handed served =>
      simp only [StoreEvent.accepted?, StoreEvent.given?, StoreEvent.committed?,
        List.map_append, List.map_cons, List.map_nil, List.count_append, Option.toList_some,
        Option.toList_none, List.count_nil]
      omega
  | taken gone =>
      have moved := gone.count_eq name
      simp only [StoreEvent.accepted?, StoreEvent.given?, StoreEvent.committed?,
        Option.toList_some, Option.toList_none, List.count_cons, List.count_nil] at moved ⊢
      omega
  | queued => exact before
  | collected collected =>
      have moved := (Store.content_collect collected).count_eq name
      simp only [StoreEvent.accepted?, StoreEvent.given?, StoreEvent.committed?, Store.content,
        List.count_append, Option.toList_some, Option.toList_none, List.count_cons,
        List.count_nil] at moved ⊢
      omega
  | committed gone =>
      have moved := gone.count_eq name
      simp only [StoreEvent.accepted?, StoreEvent.given?, StoreEvent.committed?,
        Option.toList_some, Option.toList_none, List.count_cons, List.count_nil] at moved ⊢
      omega

theorem tickets_next (accounts : store.Accounts events) (undergoes : store.Undergoes event next) :
    (next.pending.map (·.ticket) ++ next.handoffs.map (·.1) ++
      ((events ++ [event]).filterMap (·.collected?)).map (·.1)).Perm
        (List.range next.nextTicket) := by
  refine List.perm_iff_count.mpr fun ticket => ?_
  have before := accounts.tickets.count_eq ticket
  simp only [filter_map_concat, List.map_append, List.count_append] at before ⊢
  generalize (events.filterMap (·.collected?)).map (·.1) = spent at before ⊢
  cases undergoes with
  | handed served =>
      obtain ⟨earlier, later, split, rfl⟩ := Store.serve_split served
      rw [split] at before
      simp only [StoreEvent.collected?, Option.toList_none, List.map_append, List.map_cons,
        List.map_nil, List.count_append, List.count_cons, List.count_nil] at before ⊢
      omega
  | queued =>
      simp only [StoreEvent.collected?, Option.toList_none, List.range_succ, List.map_append,
        List.map_cons, List.map_nil, List.count_append, List.count_nil]
      omega
  | collected collected =>
      obtain ⟨earlier, later, split, rfl⟩ := Store.collect_split collected
      rw [split] at before
      simp only [StoreEvent.collected?, Option.toList_some, List.map_append, List.map_cons,
        List.map_nil, List.count_append, List.count_cons, List.count_nil] at before ⊢
      omega
  | _ => exact before

theorem after (accounts : store.Accounts events) (undergoes : store.Undergoes event next) :
    next.Accounts (events ++ [event]) :=
  ⟨accounts.tuples_next undergoes, accounts.tickets_next undergoes⟩

theorem handed_once (accounts : store.Accounts events) :
    ((store.handoffs ++ events.filterMap (·.collected?)).map (·.1)).Nodup := by
  have distinct := accounts.tickets.nodup_iff.mpr List.nodup_range
  rw [List.append_assoc, ← List.map_append] at distinct
  exact (List.nodup_append.mp distinct).2.1

end Store.Accounts

theorem Store.Undergoes.on_hand {store next : Store} {event : StoreEvent} {ticket : Nat}
    {tuple : String} (undergoes : store.Undergoes event next)
    (handed : (ticket, tuple) ∈ store.handoffs) :
    (ticket, tuple) ∈ next.handoffs ∨ event = .collected ticket tuple := by
  cases undergoes with
  | handed served => exact Or.inl (List.mem_append_left _ handed)
  | collected collected =>
      obtain ⟨earlier, later, split, rfl⟩ := Store.collect_split collected
      rw [split] at handed
      rcases List.mem_append.mp handed with before | from_there
      · exact Or.inl (List.mem_append_left _ before)
      · rcases List.mem_cons.mp from_there with here | behind
        · cases here
          exact Or.inr rfl
        · exact Or.inl (List.mem_append_right _ behind)
  | _ => exact Or.inl handed

namespace Replica

theorem accounts_of_run (gate : Gate) (tasks : List Task) :
    (carryOut { gate } tasks).store.Accounts (events { gate } tasks) := by
  induction tasks using List.reverseRecOn with
  | nil => exact ⟨List.Perm.refl _, List.Perm.refl _⟩
  | append_singleton tasks task accounts =>
      rw [carryOut_concat, events_concat]
      exact accounts.after (undergoes_step _ task)

theorem on_hand_until_collected (replica : Replica) (tasks : List Task) {ticket : Nat}
    {tuple : String} (handed : (ticket, tuple) ∈ replica.store.handoffs) :
    (ticket, tuple) ∈ (replica.carryOut tasks).store.handoffs ∨
      .collected ticket tuple ∈ replica.events tasks := by
  induction tasks generalizing replica with
  | nil => exact Or.inl handed
  | cons task rest induction =>
      rcases (replica.undergoes_step task).on_hand handed with still | now
      · exact (induction _ still).imp_right fun later => List.mem_cons_of_mem _ later
      · exact Or.inr (now ▸ List.mem_cons_self)

/-- Whatever is done to a store that was empty at first, the tuples that it accepted are those that
are stored, on hand, given to takes and removed by their holders, and every ticket is in one place.
No ticket is handed a tuple twice, and a tuple on hand is never lost or replaced: it stays until it
is collected under its ticket. -/
theorem accepted_are_accounted_for (gate : Gate) (tasks : List Task) :
    (carryOut { gate } tasks).store.Accounts (events { gate } tasks) ∧
      (((carryOut { gate } tasks).store.handoffs ++
        (events { gate } tasks).filterMap (·.collected?)).map (·.1)).Nodup ∧
      ∀ earlier later, tasks = earlier ++ later →
        ∀ ticket tuple, (ticket, tuple) ∈ (carryOut { gate } earlier).store.handoffs →
          (ticket, tuple) ∈ (carryOut { gate } tasks).store.handoffs ∨
            .collected ticket tuple ∈ (carryOut { gate } earlier).events later := by
  have accounts := accounts_of_run gate tasks
  refine ⟨accounts, accounts.handed_once, ?_⟩
  rintro earlier later rfl ticket tuple handed
  rw [carryOut_append]
  exact on_hand_until_collected _ later handed

end Replica

end TupleSpace
