import Mathlib.Data.Multiset.AddSub
import TupleSpace.Proofs.SequencedService
import TupleSpace.Proofs.Space

/-!
# What numbered takes obtain

A take under a number removes a tuple in its turn, or is queued and collects one later. Nothing else
that is done under its number takes anything out of the store. Which tuple it is depends on the
operations before it alone, so that all services give the same one.
-/

namespace TupleSpace

open TupleSpace.Table

/-! ## Tuples that a step takes out -/

section Diff

variable {before after : List String} {tuple : String}

theorem diff_of_grown (grown : before.Subperm after) : before.diff after = [] := by
  have nothing : (before : Multiset String) - after = 0 := by
    rw [← Multiset.le_zero, Multiset.sub_le_iff_le_add, Multiset.zero_add]
    exact Multiset.coe_le.mpr grown
  rwa [Multiset.coe_sub, Multiset.coe_eq_zero] at nothing

theorem diff_of_gone (gone : before.Perm (tuple :: after)) : before.diff after = [tuple] := by
  have one : (before : Multiset String) - after = {tuple} := by
    rw [Multiset.coe_eq_coe.mpr gone, ← Multiset.cons_coe, ← Multiset.singleton_add,
      Multiset.add_sub_cancel_right]
  rw [Multiset.coe_sub, ← Multiset.coe_singleton, Multiset.coe_eq_coe] at one
  exact List.perm_singleton.mp one

end Diff

def Store.content (store : Store) : List String :=
  store.space.values ++ store.handoffs.map (·.2)

def Replica.removed (replica : Replica) (task : Task) : List String :=
  replica.store.content.diff (replica.step task).replica.store.content

theorem Space.values_remove {space next : Space} {pattern : Pattern} {tuple : String}
    (removed : space.removeFirst? pattern = some (tuple, next)) :
    space.values.Perm (tuple :: next.values) := by
  obtain ⟨⟨found, left⟩, extracted, same⟩ := Option.map_eq_some_iff.mp removed
  cases same
  obtain ⟨before, behind, split, rfl, _, _⟩ := extract_found extracted
  simp [values, split]

theorem Store.content_collect {store next : Store} {ticket : Nat} {tuple : String}
    (collected : store.collect? ticket = some (tuple, next)) :
    store.content.Perm (tuple :: next.content) := by
  obtain ⟨before, behind, split, rfl⟩ := collect_split collected
  simp only [content, split, List.map_append, List.map_cons]
  rw [← List.append_assoc, ← List.append_assoc]
  exact List.perm_middle

/-- Of all turns only that of a take which finds a tuple takes anything out. -/
theorem SequencedOp.removed_apply (op : SequencedOp) (store : Store) :
    store.content.diff (op.apply store).2.content =
      match (op.apply store).1 with
      | .ok (.taken tuple) => [tuple]
      | _ => [] := by
  have same : store.content.diff store.content = [] := diff_of_grown (List.Subperm.refl _)
  cases op with
  | put tuple =>
      cases checked : checkTuple tuple with
      | error cause =>
          rw [put_refused store checked]
          exact same
      | ok _ =>
          cases served : Store.serve? tuple store.pending with
          | none =>
              rw [put_stored checked served]
              refine diff_of_grown ?_
              simp only [Store.content, Space.values_insert]
              exact ((List.sublist_append_left _ _).append_right _).subperm
          | some pair =>
              rw [put_handed checked served]
              refine diff_of_grown ?_
              simp only [Store.content, List.map_append]
              exact ((List.sublist_append_left _ _).append_left _).subperm
  | take source =>
      cases parsed : Pattern.parse source with
      | error cause =>
          rw [take_refused store parsed]
          exact same
      | ok pattern =>
          cases found : store.space.removeFirst? pattern with
          | none =>
              rw [take_queued parsed found]
              exact same
          | some pair =>
              rw [take_taken parsed found]
              exact diff_of_gone ((Space.values_remove found).append_right _)

theorem SequencedOp.ticket_of_queued {op : SequencedOp} {store : Store} {ticket : Nat}
    (queued : (op.apply store).1 = .ok (.queued ticket)) : ticket = store.nextTicket := by
  have applied := op.applies store
  rw [queued] at applied
  generalize (op.apply store).2 = next at applied
  cases applied
  rfl

/-! ## Results in order -/

namespace OpOutcome

theorem taken_of_turn {handoffs : List (Nat × String)} {result : Except StoreError Applied}
    {tuple : String} (taken : ofTurn handoffs result = .taken tuple)
    (more : List (Nat × String)) : ofTurn (handoffs ++ more) result = .taken tuple := by
  cases result with
  | error cause => exact taken
  | ok applied =>
      cases applied with
      | queued ticket =>
          simp only [ofTurn, List.lookup_append] at taken ⊢
          cases found : handoffs.lookup ticket with
          | none => simp [found] at taken
          | some other => simpa [found] using taken
      | _ => exact taken

end OpOutcome

namespace Sequence

variable {op : Nat → SequencedOp} {first count number : Nat}

theorem taken_stays {tuple : String}
    (taken : (number, .taken tuple) ∈ (inOrder op first count).outcomes) (more : Nat) :
    (number, .taken tuple) ∈ (inOrder op first (count + more)).outcomes := by
  induction more with
  | zero => exact taken
  | succ more induction =>
      obtain ⟨⟨other, result⟩, turn, same⟩ := List.mem_map.mp induction
      obtain ⟨rfl, outcome⟩ := Prod.mk.inj same
      obtain ⟨handed, grown, _⟩ := SequencedOp.apply_on_hand (op (first + (count + more)))
        (inOrder op first (count + more)).store []
      refine List.mem_map.mpr ⟨(other, result), List.mem_append_left _ turn, ?_⟩
      rw [← Nat.add_assoc, inOrder, push]
      dsimp only
      rw [grown, OpOutcome.taken_of_turn outcome handed]

theorem outcomes_distinct (op : Nat → SequencedOp) (first count : Nat) :
    ((inOrder op first count).outcomes.map (·.1)).Nodup := by
  have numbers : (inOrder op first count).outcomes.map (·.1) =
      (inOrder op first count).results.map (·.1) := by
    rw [outcomes, List.map_map]
    rfl
  rw [numbers, numbers_in_order]
  exact List.nodup_range'

/-- A ticket is given to one number at most. -/
theorem queued_once (op : Nat → SequencedOp) (first count : Nat) :
    (∀ number ticket, (number, .ok (.queued ticket)) ∈ (inOrder op first count).results →
        ticket < (inOrder op first count).store.nextTicket) ∧
      ∀ number other ticket, (number, .ok (.queued ticket)) ∈ (inOrder op first count).results →
        (other, .ok (.queued ticket)) ∈ (inOrder op first count).results → other = number := by
  induction count with
  | zero => simp [inOrder]
  | succ count induction =>
      obtain ⟨below, once⟩ := induction
      simp only [inOrder, push, List.mem_append, List.mem_singleton, Prod.mk.injEq]
      have applied := SequencedOp.applies (inOrder op first count).store (op (first + count))
      generalize ((op (first + count)).apply (inOrder op first count).store).1 = result at applied ⊢
      generalize ((op (first + count)).apply (inOrder op first count).store).2 = store at applied ⊢
      generalize op (first + count) = asked at applied
      cases applied with
      | queued =>
          constructor
          · rintro number ticket (earlier | ⟨_, now⟩)
            · exact Nat.lt_succ_of_lt (below number ticket earlier)
            · cases now
              exact Nat.lt_succ_self _
          · rintro number other ticket (here | ⟨rfl, now⟩) (there | ⟨rfl, also⟩)
            · exact once number other ticket here there
            · cases also
              exact absurd (below number _ here) (Nat.lt_irrefl _)
            · cases now
              exact absurd (below other _ there) (Nat.lt_irrefl _)
            · rfl
      | _ => simpa using ⟨below, once⟩

end Sequence

/-! ## What a number obtains -/

namespace Ledger

def obtained (ledger : Ledger) (number : Nat) : List String :=
  match ledger.turns.lookup number with
  | some (.ok (.taken tuple)) => [tuple]
  | some (.ok (.queued ticket)) => (ledger.collected.lookup ticket).toList
  | _ => []

theorem obtained_length (ledger : Ledger) (number : Nat) :
    (ledger.obtained number).length ≤ 1 := by
  unfold obtained
  split
  · exact Nat.le_refl 1
  · rename_i ticket _
    cases ledger.collected.lookup ticket <;> simp
  · exact Nat.zero_le 1

end Ledger

namespace Replica

variable {op : Nat → SequencedOp} {first : Nat} {ledger : Ledger} {replica : Replica}
  {number ticket : Nat} {tuple : String}

theorem turn_changes (replica : Replica) (asked : SequencedOp) (goal : TurnGoal) :
    (replica.step (.turn replica.gate.next asked goal)).replica ≠ replica := by
  intro same
  rw [step_now] at same
  exact absurd (congrArg (·.gate.next) same) (Nat.succ_ne_self replica.gate.next)

theorem Follows.numbers (follows : replica.Follows op first ledger) :
    ledger.turns.map (·.1) = List.range' first (replica.gate.next - first) := by
  rw [follows.turns, Sequence.numbers_in_order]

theorem Follows.distinct (follows : replica.Follows op first ledger) :
    (ledger.turns.map (·.1)).Nodup := by
  rw [follows.numbers]
  exact List.nodup_range'

theorem Follows.collected_once (follows : replica.Follows op first ledger) :
    ((replica.store.handoffs ++ ledger.collected).map (·.1)).Nodup := by
  have ticketed := Sequence.ticketed_in_order op first (replica.gate.next - first)
  exact (follows.handoffs.map (·.1)).nodup_iff.mp (List.nodup_append.mp ticketed.distinct).1

theorem Follows.collected_below (follows : replica.Follows op first ledger) :
    ledger.collected.lookup replica.store.nextTicket = none := by
  have ticketed := Sequence.ticketed_in_order op first (replica.gate.next - first)
  rw [lookup_none]
  intro member
  have inside : replica.store.nextTicket ∈
      (Sequence.inOrder op first (replica.gate.next - first)).store.handoffs.map (·.1) := by
    rw [(follows.handoffs.map (·.1)).mem_iff, List.map_append]
    exact List.mem_append_right _ member
  have below := ticketed.below _ (List.mem_append_left _ inside)
  rw [follows.store] at below
  exact absurd below (Nat.lt_irrefl _)

theorem Follows.obtained_of_settled (follows : replica.Follows op first ledger)
    (settled : ledger.Settled number tuple) : ledger.obtained number = [tuple] := by
  unfold Ledger.obtained
  rcases settled with turn | ⟨ticket, turn, collected⟩
  · rw [lookup_of_mem follows.distinct turn]
  · have once := follows.collected_once
    rw [List.map_append] at once
    rw [lookup_of_mem follows.distinct turn]
    dsimp only
    rw [lookup_of_mem (List.nodup_append.mp once).2.1 collected, Option.toList_some]

theorem Follows.uncollected {store : Store} (follows : replica.Follows op first ledger)
    (collected : replica.store.collect? ticket = some (tuple, store)) :
    ledger.collected.lookup ticket = none := by
  obtain ⟨before, behind, split, _⟩ := Store.collect_split collected
  have once := follows.collected_once
  rw [List.map_append] at once
  rw [lookup_none]
  exact fun member => (List.nodup_append.mp once).2.2 ticket (by simp [split]) ticket member rfl

theorem Follows.obtained_now (follows : replica.Follows op first ledger) (goal : TurnGoal)
    (number : Nat) :
    (ledger.after replica (.turn replica.gate.next (op replica.gate.next) goal)).obtained number =
      ledger.obtained number ++
        if replica.gate.next = number then
          replica.removed (.turn replica.gate.next (op replica.gate.next) goal)
        else [] := by
  rw [after_now]
  unfold Ledger.obtained
  dsimp only
  rw [List.lookup_append]
  by_cases same : replica.gate.next = number
  · subst number
    have fresh : ledger.turns.lookup replica.gate.next = none := by
      rw [lookup_none, follows.numbers, List.mem_range'_1]
      omega
    have removed : replica.removed (.turn replica.gate.next (op replica.gate.next) goal) =
        replica.store.content.diff ((op replica.gate.next).apply replica.store).2.content := by
      rw [removed, step_now]
      rfl
    rw [fresh, removed, SequencedOp.removed_apply]
    simp only [List.lookup_cons_self, Option.none_or, List.nil_append, if_true]
    cases result : ((op replica.gate.next).apply replica.store).1 with
    | error cause => rfl
    | ok applied =>
        cases applied with
        | queued ticket =>
            cases SequencedOp.ticket_of_queued result
            dsimp only
            rw [follows.collected_below, Option.toList_none]
        | _ => rfl
  · have other : (number == replica.gate.next) = false := by simpa using Ne.symm same
    simp [List.lookup_cons, other, same]

/-- A take that was queued obtains what it collects. -/
theorem Follows.obtained_later {store : Store} {queued : Nat}
    (follows : replica.Follows op first ledger)
    (turn : (queued, .ok (.queued ticket)) ∈ ledger.turns)
    (collected : replica.store.collect? ticket = some (tuple, store)) (number : Nat) :
    Ledger.obtained { ledger with collected := ledger.collected ++ [(ticket, tuple)] } number =
      ledger.obtained number ++ if queued = number then [tuple] else [] := by
  unfold Ledger.obtained
  dsimp only
  by_cases same : queued = number
  · subst number
    rw [lookup_of_mem follows.distinct turn, if_pos rfl]
    simp [List.lookup_append, follows.uncollected collected]
  · rw [if_neg same, List.append_nil]
    cases found : ledger.turns.lookup number with
    | none => rfl
    | some result =>
        match result with
        | .ok (.queued ticket_) =>
            have apart : ticket_ ≠ ticket := by
              rintro rfl
              have here := mem_of_lookup found
              rw [follows.turns] at here turn
              exact same ((Sequence.queued_once op first _).2 _ _ _ here turn)
            have other : (ticket_ == ticket) = false := by simpa using apart
            simp [List.lookup_append, List.lookup_cons, other]
        | .ok (.taken _) => rfl
        | .ok .stored => rfl
        | .error _ => rfl

/-- Whatever a step under a number takes out of the store, the number obtains, and nothing else. -/
theorem Follows.obtains {task : Task} (follows : replica.Follows op first ledger)
    (allows : ledger.Allows op task) (number : Nat) :
    (ledger.after replica task).obtained number =
      ledger.obtained number ++
        if task.number? = some number then replica.removed task else [] := by
  have idle : ∀ {task : Task}, (replica.step task).replica.store = replica.store →
      replica.removed task = [] := by
    intro task same
    rw [removed, same]
    exact diff_of_grown (List.Subperm.refl _)
  cases task with
  | turn turn asked goal =>
      obtain ⟨rfl, _⟩ := allows
      by_cases now : turn = replica.gate.next
      · subst now
        rw [follows.obtained_now goal number]
        simp only [Task.number?, Option.some.injEq]
      · rw [after_other now, idle, ite_self, List.append_nil]
        rw [replica.step_out_of_turn now]
  | handoff ticket number? =>
      cases number? with
      | none => exact allows.elim
      | some queued =>
          cases collected : replica.store.collect? ticket with
          | none =>
              rw [idle, ite_self, List.append_nil]
              · simp [Ledger.after, collected]
              · simp [Replica.step, collected]
          | some pair =>
              obtain ⟨tuple, store⟩ := pair
              have removed : replica.removed (.handoff ticket (some queued)) = [tuple] := by
                rw [removed]
                simp only [Replica.step, collected]
                exact diff_of_gone (Store.content_collect collected)
              rw [removed]
              simp only [Ledger.after, collected, Task.number?, Option.some.injEq]
              exact follows.obtained_later allows collected number
  | note _ _ => rw [idle rfl, ite_self, List.append_nil]; rfl
  | read pattern => simp [Ledger.after, Task.number?]
  | snapshot => simp [Ledger.after, Task.number?]
  | _ => exact allows.elim

end Replica

namespace Service

variable {op : Nat → SequencedOp} {first number : Nat} {ledger other : Ledger}
  {service rival : Service} {tuple answer : String}

/-- Two services never give different tuples under one number, however far each of them is. -/
theorem settled_agree (run : Run first op ledger service) (also : Run first op other rival)
    (here : ledger.Settled number tuple) (there : other.Settled number answer) :
    answer = tuple := by
  have follows := (sound_run run).follows
  have likewise := (sound_run also).follows
  have taken := outcome_of_settled follows here
  have took := outcome_of_settled likewise there
  rw [outcomes_eq follows] at taken
  rw [outcomes_eq likewise] at took
  have later : ∀ {count more : Nat} {one two : String}, count ≤ more →
      (number, .taken one) ∈ (Sequence.inOrder op first count).outcomes →
      (number, .taken two) ∈ (Sequence.inOrder op first more).outcomes → two = one := by
    intro count more one two order earlier latest
    obtain ⟨rest, rfl⟩ := Nat.exists_eq_add_of_le order
    have distinct := Sequence.outcomes_distinct op first (count + rest)
    have stays := lookup_of_mem distinct (Sequence.taken_stays earlier rest)
    rw [lookup_of_mem distinct latest] at stays
    cases stays
    rfl
  rcases Nat.le_total (service.replica.gate.next - first) (rival.replica.gate.next - first) with
    order | order
  · exact later order taken took
  · exact (later order took taken).symm

end Service

end TupleSpace
