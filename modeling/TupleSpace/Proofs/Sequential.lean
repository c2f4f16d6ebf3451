import TupleSpace.Proofs.Table
import TupleSpace.Replica.Gate

/-!
# Operations one after another

What numbered operations do when they are applied to an empty store one after another, with the
result of each. A take that was queued has its tuple as soon as a put hands it over; nobody
collects it here, so the handed over tuples stay on hand under their tickets.
-/

namespace TupleSpace

open TupleSpace.Table

structure Sequence where
  store : Store := {}
  results : List (Nat × Except StoreError Applied) := []

namespace OpOutcome

/-- What has become of an operation, given the tuples that were handed over so far. -/
def ofTurn (handoffs : List (Nat × String)) : Except StoreError Applied → OpOutcome
  | .ok (.queued ticket) => ((handoffs.lookup ticket).map taken).getD waiting
  | result => ofResult result

end OpOutcome

namespace Sequence

def push (sequence : Sequence) (number : Nat) (op : SequencedOp) : Sequence :=
  ⟨(op.apply sequence.store).2, sequence.results ++ [(number, (op.apply sequence.store).1)]⟩

def inOrder (op : Nat → SequencedOp) (first : Nat) : Nat → Sequence
  | 0 => {}
  | count + 1 => (inOrder op first count).push (first + count) (op (first + count))

def outcomes (sequence : Sequence) : List (Nat × OpOutcome) :=
  sequence.results.map fun turn => (turn.1, .ofTurn sequence.store.handoffs turn.2)

theorem numbers_in_order (op : Nat → SequencedOp) (first count : Nat) :
    (inOrder op first count).results.map (·.1) = List.range' first count := by
  induction count with
  | zero => rfl
  | succ count induction =>
      rw [inOrder, push, List.map_append, induction, List.range'_1_concat]
      rfl

theorem result_in_order {op : Nat → SequencedOp} {first count number : Nat}
    {result : Except StoreError Applied}
    (member : (number, result) ∈ (inOrder op first count).results) :
    ∃ store, ((op number).apply store).1 = result := by
  induction count with
  | zero => simp [inOrder] at member
  | succ count induction =>
      rcases List.mem_append.mp member with earlier | now
      · exact induction earlier
      · rw [List.mem_singleton] at now
        cases now
        exact ⟨_, rfl⟩

end Sequence

namespace Store

structure Ticketed (store : Store) : Prop where
  distinct : (store.handoffs.map (·.1) ++ store.pending.map (·.ticket)).Nodup
  below : ∀ ticket ∈ store.handoffs.map (·.1) ++ store.pending.map (·.ticket),
    ticket < store.nextTicket

theorem serve_oldest {tuple : String} {pending left : List PendingTake} {take : PendingTake}
    (served : serve? tuple pending = some (take, left)) :
    ∃ older younger, pending = older ++ take :: younger ∧ left = older ++ younger ∧
      take.pattern.hits tuple = true ∧ ∀ other ∈ older, other.pattern.hits tuple = false := by
  induction pending generalizing left with
  | nil => simp [serve?] at served
  | cons first rest induction =>
      unfold serve? at served
      by_cases hit : first.pattern.hits tuple = true
      · rw [if_pos hit] at served
        cases served
        exact ⟨[], rest, rfl, rfl, hit, by simp⟩
      · rw [if_neg hit] at served
        obtain ⟨⟨inner, remaining⟩, tail, same⟩ := Option.map_eq_some_iff.mp served
        cases same
        obtain ⟨older, younger, split, kept, fits, misses⟩ := induction tail
        refine ⟨first :: older, younger, by simp [split], by simp [kept], fits, ?_⟩
        exact List.forall_mem_cons.mpr ⟨by simpa using hit, misses⟩

theorem serve_split {tuple : String} {pending left : List PendingTake} {take : PendingTake}
    (served : serve? tuple pending = some (take, left)) :
    ∃ before behind, pending = before ++ take :: behind ∧ left = before ++ behind := by
  obtain ⟨older, younger, split, kept, _⟩ := serve_oldest served
  exact ⟨older, younger, split, kept⟩

theorem collect_split {store next : Store} {ticket : Nat} {tuple : String}
    (collected : store.collect? ticket = some (tuple, next)) :
    ∃ before behind, store.handoffs = before ++ (ticket, tuple) :: behind ∧
      next = { store with handoffs := before ++ behind } := by
  obtain ⟨found, waits, same⟩ := Option.map_eq_some_iff.mp collected
  cases same
  obtain ⟨before, behind, split, others⟩ := List.lookup_eq_some_iff.mp waits
  have left : store.handoffs.eraseP (fun handoff => handoff.1 == ticket) = before ++ behind := by
    rw [split, List.eraseP_append_right]
    · simp
    · intro handoff member
      have apart : ticket ≠ handoff.1 := by simpa using others handoff member
      simpa using apart.symm
  exact ⟨before, behind, split, by rw [left]⟩

end Store

namespace SequencedOp

variable {store : Store}

inductive Applies (store : Store) : SequencedOp → Except StoreError Applied → Store → Prop
  | refused {op : SequencedOp} {cause : StoreError} : Applies store op (.error cause) store
  | handed {tuple : String} {take : PendingTake} {left : List PendingTake}
      (served : Store.serve? tuple store.pending = some (take, left)) :
      Applies store (.put tuple) (.ok .stored)
        { store with pending := left, handoffs := store.handoffs ++ [(take.ticket, tuple)] }
  | stored {tuple : String} :
      Applies store (.put tuple) (.ok .stored) { store with space := store.space.insert tuple }
  | taken {source tuple : String} {space : Space} :
      Applies store (.take source) (.ok (.taken tuple)) { store with space }
  | queued {source : String} {pattern : Pattern} :
      Applies store (.take source) (.ok (.queued store.nextTicket))
        { store with
          pending := store.pending ++ [⟨store.nextTicket, pattern⟩]
          nextTicket := store.nextTicket + 1 }

theorem put_refused {tuple : String} {cause : StoreError} (store : Store)
    (refused : checkTuple tuple = .error cause) :
    (put tuple).apply store = (.error cause, store) := by
  simp [apply, Store.put, refused]

theorem put_handed {tuple : String} {take : PendingTake} {left : List PendingTake}
    (checked : checkTuple tuple = .ok ())
    (served : Store.serve? tuple store.pending = some (take, left)) :
    (put tuple).apply store =
      (.ok .stored,
        { store with pending := left, handoffs := store.handoffs ++ [(take.ticket, tuple)] }) := by
  simp [apply, Store.put, checked, served]

theorem put_stored {tuple : String} (checked : checkTuple tuple = .ok ())
    (unserved : Store.serve? tuple store.pending = none) :
    (put tuple).apply store = (.ok .stored, { store with space := store.space.insert tuple }) := by
  simp [apply, Store.put, checked, unserved]

theorem take_refused {source : String} {cause : StoreError} (store : Store)
    (refused : Pattern.parse source = .error cause) :
    (take source).apply store = (.error cause, store) := by
  simp [apply, refused]

theorem take_taken {source tuple : String} {pattern : Pattern} {space : Space}
    (parsed : Pattern.parse source = .ok pattern)
    (found : store.space.removeFirst? pattern = some (tuple, space)) :
    (take source).apply store = (.ok (.taken tuple), { store with space }) := by
  simp [apply, Store.takeOrEnqueue, parsed, found]

theorem take_queued {source : String} {pattern : Pattern}
    (parsed : Pattern.parse source = .ok pattern)
    (missing : store.space.removeFirst? pattern = none) :
    (take source).apply store =
      (.ok (.queued store.nextTicket),
        { store with
          pending := store.pending ++ [⟨store.nextTicket, pattern⟩]
          nextTicket := store.nextTicket + 1 }) := by
  simp [apply, Store.takeOrEnqueue, parsed, missing]

def refusal : SequencedOp → StoreError
  | put tuple => .invalidTuple tuple
  | take pattern => .invalidPattern pattern

theorem refused_for {op : SequencedOp} {store : Store} {cause : StoreError}
    (refused : (op.apply store).1 = .error cause) : cause = op.refusal := by
  cases op with
  | put tuple =>
      cases checked : checkTuple tuple with
      | error fault =>
          rw [put_refused store checked] at refused
          cases refused
          unfold checkTuple at checked
          split at checked <;> cases checked
          rfl
      | ok _ =>
          cases served : Store.serve? tuple store.pending with
          | none =>
              rw [put_stored checked served] at refused
              cases refused
          | some pair =>
              rw [put_handed checked served] at refused
              cases refused
  | take source =>
      cases parsed : Pattern.parse source with
      | error fault =>
          rw [take_refused store parsed] at refused
          cases refused
          unfold Pattern.parse at parsed
          split at parsed <;> cases parsed
          rfl
      | ok pattern =>
          cases found : store.space.removeFirst? pattern with
          | none =>
              rw [take_queued parsed found] at refused
              cases refused
          | some pair =>
              rw [take_taken parsed found] at refused
              cases refused

theorem applies (store : Store) (op : SequencedOp) :
    Applies store op (op.apply store).1 (op.apply store).2 := by
  cases op with
  | put tuple =>
      cases checked : checkTuple tuple with
      | error cause =>
          rw [put_refused store checked]
          exact .refused
      | ok _ =>
          cases served : Store.serve? tuple store.pending with
          | none =>
              rw [put_stored checked served]
              exact .stored
          | some pair =>
              rw [put_handed checked served]
              exact .handed served
  | take source =>
      cases parsed : Pattern.parse source with
      | error cause =>
          rw [take_refused store parsed]
          exact .refused
      | ok pattern =>
          cases found : store.space.removeFirst? pattern with
          | none =>
              rw [take_queued parsed found]
              exact .queued
          | some pair =>
              rw [take_taken parsed found]
              exact .taken

theorem ticketed_apply (op : SequencedOp) (ticketed : store.Ticketed) :
    (op.apply store).2.Ticketed := by
  have applied := applies store op
  generalize (op.apply store).1 = result at applied
  generalize (op.apply store).2 = next at applied ⊢
  cases applied with
  | refused => exact ticketed
  | stored => exact ⟨ticketed.distinct, ticketed.below⟩
  | taken => exact ⟨ticketed.distinct, ticketed.below⟩
  | @handed tuple take left served =>
      obtain ⟨before, behind, split, rfl⟩ := Store.serve_split served
      have moved : ((store.handoffs ++ [(take.ticket, tuple)]).map (·.1) ++
          (before ++ behind).map (·.ticket)).Perm
            (store.handoffs.map (·.1) ++ store.pending.map (·.ticket)) := by
        rw [split]
        simp only [List.map_append, List.map_cons, List.map_nil, List.append_assoc,
          List.singleton_append]
        exact List.Perm.append_left _ List.perm_middle.symm
      exact ⟨moved.nodup_iff.mpr ticketed.distinct,
        fun ticket member => ticketed.below ticket (moved.mem_iff.mp member)⟩
  | queued =>
      constructor
      · rw [List.map_append, ← List.append_assoc]
        refine List.nodup_append.mpr ⟨ticketed.distinct, by simp, ?_⟩
        rintro ticket earlier other now rfl
        have same : ticket = store.nextTicket := by simpa using now
        exact absurd (ticketed.below ticket earlier) (by omega)
      · intro ticket member
        rw [List.map_append, ← List.append_assoc] at member
        change ticket < store.nextTicket + 1
        rcases List.mem_append.mp member with earlier | now
        · have bound := ticketed.below ticket earlier
          omega
        · have same : ticket = store.nextTicket := by simpa using now
          omega

/-- Tuples on hand do not matter to what an operation does, only to what is on hand afterwards. -/
theorem apply_on_hand (op : SequencedOp) (store : Store) (rest : List (Nat × String)) :
    ∃ more, (op.apply store).2.handoffs = store.handoffs ++ more ∧
      op.apply { store with handoffs := rest } =
        ((op.apply store).1, { (op.apply store).2 with handoffs := rest ++ more }) := by
  cases op with
  | put tuple =>
      cases checked : checkTuple tuple with
      | error cause =>
          rw [put_refused _ checked, put_refused _ checked]
          exact ⟨[], by simp, by simp⟩
      | ok _ =>
          cases served : Store.serve? tuple store.pending with
          | none =>
              rw [put_stored checked served, put_stored checked (by exact served)]
              exact ⟨[], by simp, by simp⟩
          | some pair =>
              rw [put_handed checked served, put_handed checked (by exact served)]
              exact ⟨[(pair.1.ticket, tuple)], rfl, rfl⟩
  | take source =>
      cases parsed : Pattern.parse source with
      | error cause =>
          rw [take_refused _ parsed, take_refused _ parsed]
          exact ⟨[], by simp, by simp⟩
      | ok pattern =>
          cases found : store.space.removeFirst? pattern with
          | none =>
              rw [take_queued parsed found, take_queued parsed (by exact found)]
              exact ⟨[], by simp, by simp⟩
          | some pair =>
              rw [take_taken parsed found, take_taken parsed (by exact found)]
              exact ⟨[], by simp, by simp⟩

end SequencedOp

namespace Sequence

theorem ticketed_in_order (op : Nat → SequencedOp) (first count : Nat) :
    (inOrder op first count).store.Ticketed := by
  induction count with
  | zero => exact ⟨List.nodup_nil, by simp [inOrder]⟩
  | succ count induction => exact SequencedOp.ticketed_apply _ induction

end Sequence

end TupleSpace
