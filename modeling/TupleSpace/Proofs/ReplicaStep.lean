import TupleSpace.Proofs.Space
import TupleSpace.Replica.Task

/-!
# Steps of a replica

What a step of a task makes of the store, and of what a client holds there.
-/

namespace TupleSpace

namespace Task

/-- The client that a task holds or frees tuples for. -/
def client? : Task → Option ClientId
  | reserve _ client | release client | commit _ client => some client
  | _ => none

def concernsGate : Task → Bool
  | .turn _ _ _ | .note _ _ => true
  | _ => false

end Task

namespace Replica

theorem store_of_put (replica : Replica) (tuple : String) :
    (replica.step (.put tuple)).replica.store =
      ((SequencedOp.put tuple).apply replica.store).2 := by
  simp only [step, SequencedOp.apply]
  cases replica.store.put tuple <;> rfl

theorem store_of_enqueue (replica : Replica) (pattern : Pattern) :
    (replica.step (.enqueue pattern)).replica.store = (replica.store.takeOrEnqueue pattern).2 := by
  simp only [step]
  rcases replica.store.takeOrEnqueue pattern with ⟨_ | _, _⟩ <;> rfl

theorem store_of_take (replica : Replica) (pattern : Pattern) :
    (replica.step (.take pattern)).replica.store = (replica.store.takeOrEnqueue pattern).2 := by
  simp only [step]
  rcases replica.store.takeOrEnqueue pattern with ⟨_ | _, _⟩ <;> rfl

theorem store_of_handoff (replica : Replica) (ticket : Nat) (number? : Option Nat) :
    ∃ handoffs, (replica.step (.handoff ticket number?)).replica.store =
      { replica.store with handoffs } := by
  simp only [step]
  cases collected : replica.store.collect? ticket with
  | none => exact ⟨_, rfl⟩
  | some pair =>
      obtain ⟨tuple, _, same⟩ := Option.map_eq_some_iff.mp collected
      cases same
      cases number? <;> exact ⟨_, rfl⟩

theorem store_of_turn (replica : Replica) (number : Nat) (op : SequencedOp) (goal : TurnGoal) :
    (replica.step (.turn number op goal)).replica.store = replica.store ∨
      (replica.step (.turn number op goal)).replica.store = (op.apply replica.store).2 := by
  simp only [step]
  split
  · exact Or.inl rfl
  · split
    · split <;> exact Or.inl rfl
    · exact Or.inr rfl

end Replica

theorem SequencedOp.store_of_take {source : String} {pattern : Pattern} {store : Store}
    (parsed : Pattern.parse source = .ok pattern) :
    ((SequencedOp.take source).apply store).2 = (store.takeOrEnqueue pattern).2 := by
  simp only [SequencedOp.apply, parsed]
  rcases store.takeOrEnqueue pattern with ⟨_ | _, _⟩ <;> rfl

/-- Only a take that was queued goes on after its turn, to wait for its tuple. -/
theorem TurnGoal.goes_on {goal : TurnGoal} {number reached : Nat}
    {result : Except StoreError Applied} {task : Task}
    (after : goal.after number reached result = .goOn task) :
    ∃ ticket, result = .ok (.queued ticket) ∧ task = .handoff ticket (some number) := by
  unfold TurnGoal.after at after
  split at after
  · cases after
  · split at after
    · cases after
    · cases after
    · split at after
      · cases after
      · cases after
        exact ⟨_, rfl, rfl⟩
      · cases after

/-- After its turn a call does not wait for a signal: whatever it waits for is a task of its own. -/
theorem TurnGoal.never_parks (goal : TurnGoal) (number reached : Nat)
    (result : Except StoreError Applied) (signal : Signal) :
    goal.after number reached result ≠ .park signal := by
  unfold TurnGoal.after
  split
  · nofun
  · split
    · nofun
    · nofun
    · split <;> nofun

namespace Replica

theorem holdings_take (store : Store) (pattern : Pattern) (client : ClientId) :
    (store.takeOrEnqueue pattern).2.space.holdings client = store.space.holdings client := by
  unfold Store.takeOrEnqueue
  cases removed : store.space.removeFirst? pattern with
  | none => rfl
  | some pair =>
      obtain ⟨⟨found, left⟩, extracted, same⟩ := Option.map_eq_some_iff.mp removed
      cases same
      obtain ⟨before, behind, split, rfl, free, _⟩ := Space.extract_found extracted
      have none : found.holder = none := by
        simpa using (Bool.and_eq_true_iff.mp free).1
      simp [Space.holdings, split, none]

theorem holdings_put {store next : Store} {tuple : String} (put : store.put tuple = .ok next)
    (client : ClientId) : next.space.holdings client = store.space.holdings client := by
  unfold Store.put at put
  split at put
  · cases put
  · split at put
    · cases put
      rfl
    · cases put
      exact Space.holdings_insert ..

theorem holdings_apply (op : SequencedOp) (store : Store) (client : ClientId) :
    (op.apply store).2.space.holdings client = store.space.holdings client := by
  cases op with
  | put tuple =>
      simp only [SequencedOp.apply]
      split
      · rename_i next put
        exact holdings_put put client
      · rfl
  | take source =>
      cases parsed : Pattern.parse source with
      | error cause => simp only [SequencedOp.apply, parsed]
      | ok pattern =>
          rw [SequencedOp.store_of_take parsed]
          exact holdings_take store pattern client

/-- What a client holds is only changed by tasks that concern it. -/
theorem holdings_step {task : Task} {client : ClientId} (replica : Replica)
    (other : task.client? ≠ some client) :
    (replica.step task).replica.store.space.holdings client =
      replica.store.space.holdings client := by
  cases task with
  | put tuple =>
      rw [store_of_put]
      exact holdings_apply (.put tuple) replica.store client
  | read pattern =>
      simp only [step]
      split <;> rfl
  | reserve pattern rival =>
      exact Space.holdings_reserve_other _ _ fun same => other (by rw [same, Task.client?])
  | release rival =>
      exact Space.holdings_release_other _ fun same => other (by rw [same, Task.client?])
  | commit tuple rival =>
      simp only [step]
      split
      · rename_i next done
        exact Space.holdings_commit_other done fun same => other (by rw [same, Task.client?])
      · rfl
  | snapshot => rfl
  | enqueue pattern =>
      rw [store_of_enqueue]
      exact holdings_take ..
  | take pattern =>
      rw [store_of_take]
      exact holdings_take ..
  | handoff ticket number? =>
      obtain ⟨handoffs, same⟩ := replica.store_of_handoff ticket number?
      rw [same]
  | turn number op goal =>
      rcases replica.store_of_turn number op goal with same | same <;> rw [same]
      exact holdings_apply op replica.store client
  | note number tuple => rfl

theorem goes_on {task next : Task} (replica : Replica)
    (move : (replica.step task).move = .goOn next) : next.client? = none := by
  have told : ∀ (goal : TurnGoal) (number reached : Nat) (result : Except StoreError Applied),
      goal.after number reached result = .goOn next → next.client? = none := by
    intro goal number reached result after
    obtain ⟨ticket, _, rfl⟩ := TurnGoal.goes_on after
    rfl
  cases task with
  | turn number op goal =>
      simp only [step] at move
      split at move
      · cases move
      · split at move
        · split at move
          · cases move
          · exact told _ _ _ _ move
        · exact told _ _ _ _ move
  | take pattern =>
      simp only [step] at move
      split at move
      · cases move
      · cases move
        rfl
  | handoff ticket number? =>
      simp only [step] at move
      split at move
      · cases move
      · split at move
        · cases move
          rfl
        · cases move
  | _ =>
      simp only [step] at move
      first
        | cases move
        | split at move <;> cases move

theorem gate_step {task : Task} (replica : Replica) (other : task.concernsGate = false) :
    (replica.step task).replica.gate = replica.gate := by
  cases task with
  | turn number op goal => cases other
  | note number tuple => cases other
  | handoff ticket number? =>
      simp only [step]
      split
      · rfl
      · cases number? <;> rfl
  | _ =>
      first
        | rfl
        | simp only [step]
          split <;> rfl

end Replica

end TupleSpace
