import TupleSpace.Proofs.StoreConservation
import TupleSpace.Proofs.WaitingTakes

/-!
# Puts of one tuple

A replica after a tuple was put some number of times, and calls that such puts do not serve. Each
put stores a copy of the tuple, or hands it to a queued take.
-/

namespace TupleSpace

/-! ## Puts at a replica -/

namespace Store

variable {store next : Store} {tuple : String}

theorem serve_hits {pending left : List PendingTake} {take : PendingTake}
    (served : serve? tuple pending = some (take, left)) : take.pattern.hits tuple = true := by
  induction pending generalizing left with
  | nil => cases served
  | cons first rest induction =>
      unfold serve? at served
      split at served
      · rename_i hit
        cases served
        exact hit
      · obtain ⟨⟨inner, kept⟩, tail, same⟩ := Option.map_eq_some_iff.mp served
        cases same
        exact induction tail

/-- How many tuples a store holds, or keeps for takes that wait. -/
def load (store : Store) : Nat := store.space.size + store.handoffs.length

theorem load_put (put : store.put tuple = .ok next) : next.load = store.load + 1 := by
  cases undergoes_put put with
  | stored =>
      simp only [load, Space.size, Space.insert, List.length_append, List.length_singleton]
      omega
  | handed =>
      simp only [load, List.length_append, List.length_singleton]
      omega

theorem put_of_valid (store : Store) (valid : checkTuple tuple = .ok ()) :
    ∃ next, store.put tuple = .ok next := by
  unfold put
  rw [valid]
  dsimp only
  split
  · exact ⟨_, rfl⟩
  · exact ⟨_, rfl⟩

theorem put_unserved (valid : checkTuple tuple = .ok ())
    (unserved : ∀ take ∈ store.pending, take.pattern.hits tuple = false) :
    store.put tuple = .ok { store with space := store.space.insert tuple } := by
  unfold put
  rw [valid]
  cases served : serve? tuple store.pending with
  | none => rfl
  | some found =>
      obtain ⟨take, left⟩ := found
      obtain ⟨before, behind, split, _⟩ := serve_split served
      have missed := unserved take (by simp [split])
      rw [serve_hits served] at missed
      cases missed

end Store

namespace Replica

variable {tuple : String}

def afterPuts (replica : Replica) (tuple : String) (count : Nat) : Replica :=
  replica.carryOut (List.replicate count (.put tuple))

@[simp] theorem after_no_puts (replica : Replica) (tuple : String) :
    replica.afterPuts tuple 0 = replica := rfl

theorem after_one_more (replica : Replica) (tuple : String) (count : Nat) :
    replica.afterPuts tuple (count + 1) =
      ((replica.afterPuts tuple count).step (.put tuple)).replica := by
  rw [afterPuts, List.replicate_succ', carryOut_concat]
  rfl

theorem load_after_puts (valid : checkTuple tuple = .ok ()) (replica : Replica) (count : Nat) :
    (replica.afterPuts tuple count).store.load = replica.store.load + count := by
  induction count with
  | zero => rfl
  | succ count induction =>
      obtain ⟨next, put⟩ := Store.put_of_valid (replica.afterPuts tuple count).store valid
      have stored : (replica.afterPuts tuple (count + 1)).store = next := by
        rw [after_one_more]
        simp [step, put]
      rw [stored, Store.load_put put, induction]
      omega

/-- Puts add one copy and change nothing else just if there was one of them, and no queued take got
its tuple. -/
theorem after_puts_inserted (valid : checkTuple tuple = .ok ()) (replica : Replica) (more : Nat) :
    replica.afterPuts tuple (more + 1) = replica.withSpace (replica.store.space.insert tuple) ↔
      more = 0 ∧ ∀ take ∈ replica.store.pending, take.pattern.hits tuple = false := by
  constructor
  · intro same
    have load := load_after_puts valid replica (more + 1)
    rw [same] at load
    have once : more = 0 := by
      simp only [withSpace, Store.load, Space.size, Space.insert, List.length_append,
        List.length_singleton] at load
      omega
    subst once
    refine ⟨rfl, Store.serve_none ?_⟩
    rw [after_one_more, after_no_puts] at same
    obtain ⟨next, put⟩ := replica.store.put_of_valid valid
    have stored : next = (replica.withSpace (replica.store.space.insert tuple)).store := by
      rw [← same]
      simp [step, put]
    unfold Store.put at put
    rw [valid] at put
    cases served : Store.serve? tuple replica.store.pending with
    | none => rfl
    | some found =>
        -- A tuple that is handed on is not stored.
        simp only [served] at put
        cases put
        have handoffs := congrArg (·.handoffs.length) stored
        simp [withSpace] at handoffs
  · rintro ⟨rfl, unserved⟩
    rw [after_one_more, after_no_puts]
    simp [step, Store.put_unserved valid unserved, withSpace]

end Replica

/-! ## Calls that wait -/

/-- A task that does nothing, however often it looks, while a tuple is put. -/
def Task.StandsBy (store : Store) (tuple : String) : Task → Prop
  | .read _ => True
  | .handoff ticket _ =>
      store.handoffs.lookup ticket = none ∧
        ∀ take ∈ store.pending, take.ticket = ticket → take.pattern.hits tuple = false
  | _ => False

def CallState.StandsBy (store : Store) (tuple : String) : CallState → Prop
  | .running task | .parked task .changed => task.StandsBy store tuple
  | .parked _ .advanced | .finished _ => True

section

variable {store next : Store} {tuple : String} {task : Task} {state : CallState}

theorem Task.StandsBy.step {replica : Replica} (stands : task.StandsBy replica.store tuple) :
    (replica.step task).replica = replica ∧ (replica.step task).signals = [] ∧
      (CallState.ofMove task (replica.step task).move).StandsBy replica.store tuple := by
  cases task with
  | read pattern =>
      unfold Replica.step
      dsimp only
      split
      · exact ⟨rfl, rfl, trivial⟩
      · exact ⟨rfl, rfl, stands⟩
  | handoff ticket number? =>
      have nothing : replica.store.collect? ticket = none := by
        rw [Store.collect?, stands.1]
        rfl
      unfold Replica.step
      dsimp only
      rw [nothing]
      exact ⟨rfl, rfl, stands⟩
  | _ => exact stands.elim

theorem Task.StandsBy.put (stands : task.StandsBy store tuple) (put : store.put tuple = .ok next) :
    task.StandsBy next tuple := by
  cases task with
  | read pattern => trivial
  | handoff ticket number? =>
      obtain ⟨nothing, others⟩ := stands
      cases Store.undergoes_put put with
      | stored => exact ⟨nothing, others⟩
      | @handed _ take left served =>
          obtain ⟨before, behind, split, rfl⟩ := Store.serve_split served
          have apart : take.ticket ≠ ticket := by
            intro same
            have missed := others take (by simp [split]) same
            rw [Store.serve_hits served] at missed
            cases missed
          refine ⟨?_, fun other member => others other ?_⟩
          · rw [List.lookup_append, nothing]
            simp [List.lookup_cons, beq_eq_false_iff_ne.mpr (Ne.symm apart)]
          · rw [split]
            rcases List.mem_append.mp member with inside | inside
            · exact List.mem_append_left _ inside
            · exact List.mem_append_right _ (List.mem_cons_of_mem _ inside)
  | _ => exact stands.elim

theorem CallState.StandsBy.put (stands : state.StandsBy store tuple)
    (put : store.put tuple = .ok next) : state.StandsBy next tuple := by
  cases state with
  | running task => exact Task.StandsBy.put stands put
  | parked task signal =>
      cases signal with
      | changed => exact Task.StandsBy.put stands put
      | advanced => trivial
  | finished result => trivial

theorem CallState.StandsBy.woken (stands : state.StandsBy store tuple) :
    (state.woken [.changed]).StandsBy store tuple := by
  cases state with
  | running task => exact stands
  | parked task signal =>
      cases signal with
      | changed => exact stands
      | advanced => trivial
  | finished result => trivial

end

end TupleSpace
