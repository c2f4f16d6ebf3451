import Mathlib.Data.List.Forall2
import Mathlib.Data.List.Induction
import TupleSpace.Proofs.ReplicaStep
import TupleSpace.Proofs.Sequential

/-!
# Tuples that queued takes miss

A take is queued when every tuple that it is after is held, and only a put serves it from then
on. A tuple that is freed later is not offered to it. The tuples that a queued take could have and
does not get are exactly of that kind: they were stored and held when it was queued, and whoever
held them has given them up since.
-/

namespace TupleSpace

namespace Space

def hitBy (space : Space) (pattern : Pattern) : List Entry :=
  space.entries.filter (fun entry => pattern.hits entry.value)

end Space

namespace Store

theorem serve_none {tuple : String} {pending : List PendingTake}
    (unserved : serve? tuple pending = none) :
    ∀ take ∈ pending, take.pattern.hits tuple = false := by
  induction pending with
  | nil => simp
  | cons first rest induction =>
      unfold serve? at unserved
      by_cases hit : first.pattern.hits tuple = true
      · simp [hit] at unserved
      · rw [if_neg hit, Option.map_eq_none_iff] at unserved
        intro take member
        rcases List.mem_cons.mp member with rfl | later
        · simpa using hit
        · exact induction unserved take later

end Store

/-- A tuple that a queued take is after is handed over and not stored. -/
theorem SequencedOp.space_of_put {store : Store} {tuple : String} {take : PendingTake}
    (waits : take ∈ store.pending) (wanted : take.pattern.hits tuple = true) :
    ((SequencedOp.put tuple).apply store).2.space = store.space := by
  cases served : Store.serve? tuple store.pending with
  | none =>
      rw [Store.serve_none served take waits] at wanted
      cases wanted
  | some pair =>
      cases checked : checkTuple tuple with
      | error cause => rw [put_refused store checked]
      | ok _ => rw [put_handed checked served]

/-- The tuple that a task is to put, under a number or not. -/
def Task.puts? : Task → Option String
  | .put tuple | .turn _ (.put tuple) _ => some tuple
  | _ => none

namespace Replica

/-- The replica after one step of each task, in the order in which they had the lock. -/
def carryOut (replica : Replica) (tasks : List Task) : Replica :=
  tasks.foldl (fun replica task => (replica.step task).replica) replica

def Frees (replica : Replica) (client : ClientId) : Task → Prop
  | .release other => other = client
  | .commit tuple other => other = client ∧ tuple ∈ replica.store.space.holdings client
  | _ => False

def HasFreed (replica : Replica) (client : ClientId) (tasks : List Task) : Prop :=
  ∃ earlier task later, tasks = earlier ++ task :: later ∧
    (replica.carryOut earlier).Frees client task

/-- The entry was held, and it still is unless its client has given it up. -/
def Lingers (replica : Replica) (tasks : List Task) (now before : Entry) : Prop :=
  now.value = before.value ∧
    ∃ client, before.holder = some client ∧
      (now.holder = some client ∨ replica.HasFreed client tasks)

/-- No put of a tuple that the pattern hits adds anything to the space. -/
def KeepsOut (replica : Replica) (pattern : Pattern) (tasks : List Task) : Prop :=
  ∀ before task after tuple, tasks = before ++ task :: after → task.puts? = some tuple →
    pattern.hits tuple = true →
      ((replica.carryOut before).step task).replica.store.space =
        (replica.carryOut before).store.space

def Queues (replica : Replica) (task : Task) (take : PendingTake) : Prop :=
  (replica.step task).replica.store =
    { replica.store with
      pending := replica.store.pending ++ [take]
      nextTicket := replica.store.nextTicket + 1 }

def Keeps (replica : Replica) (task : Task) (now before : Entry) : Prop :=
  now.value = before.value ∧
    ∀ client, before.holder = some client → now.holder = some client ∨ replica.Frees client task

theorem carryOut_concat (replica : Replica) (tasks : List Task) (task : Task) :
    replica.carryOut (tasks ++ [task]) = ((replica.carryOut tasks).step task).replica := by
  simp [carryOut]

theorem carryOut_append (replica : Replica) (tasks more : List Task) :
    replica.carryOut (tasks ++ more) = (replica.carryOut tasks).carryOut more := by
  simp [carryOut]

theorem HasFreed.concat {replica : Replica} {client : ClientId} {tasks : List Task}
    (freed : replica.HasFreed client tasks) (task : Task) :
    replica.HasFreed client (tasks ++ [task]) := by
  obtain ⟨earlier, freeing, later, rfl, frees⟩ := freed
  exact ⟨earlier, freeing, later ++ [task], by simp, frees⟩

theorem Lingers.concat {replica : Replica} {tasks : List Task} {task : Task}
    {now between before : Entry} (lingers : replica.Lingers tasks between before)
    (keeps : (replica.carryOut tasks).Keeps task now between) :
    replica.Lingers (tasks ++ [task]) now before := by
  obtain ⟨value, client, held, still | freed⟩ := lingers
  · refine ⟨keeps.1.trans value, client, held, ?_⟩
    rcases keeps.2 client still with kept | frees
    · exact Or.inl kept
    · exact Or.inr ⟨tasks, task, [], rfl, frees⟩
  · exact ⟨keeps.1.trans value, client, held, Or.inr (freed.concat task)⟩

theorem KeepsOut.concat {replica : Replica} {pattern : Pattern} {tasks : List Task} {task : Task}
    (keepsOut : replica.KeepsOut pattern tasks)
    (last : ∀ tuple, task.puts? = some tuple → pattern.hits tuple = true →
      ((replica.carryOut tasks).step task).replica.store.space =
        (replica.carryOut tasks).store.space) :
    replica.KeepsOut pattern (tasks ++ [task]) := by
  intro before putting after tuple same puts hit
  rcases List.eq_nil_or_concat after with rfl | ⟨rest, final, rfl⟩
  · obtain ⟨rfl, ends⟩ := List.append_inj' same rfl
    cases ends
    exact last tuple puts hit
  · rw [List.concat_eq_append, ← List.cons_append, ← List.append_assoc] at same
    obtain ⟨rfl, _⟩ := List.append_inj' same rfl
    exact keepsOut before putting rest tuple rfl puts hit

theorem space_of_puts {replica : Replica} {task : Task} {tuple : String} {take : PendingTake}
    (puts : task.puts? = some tuple) (waits : take ∈ replica.store.pending)
    (wanted : take.pattern.hits tuple = true) :
    (replica.step task).replica.store.space = replica.store.space := by
  unfold Task.puts? at puts
  split at puts
  · cases puts
    rw [store_of_put]
    exact SequencedOp.space_of_put waits wanted
  · rename_i number other goal
    cases puts
    rcases replica.store_of_turn number (.put tuple) goal with same | same <;> rw [same]
    exact SequencedOp.space_of_put waits wanted
  · cases puts

/-! ## What a step does to the tuples that a pattern hits -/

section

variable {replica : Replica} {task : Task} {pattern : Pattern}

/-- Whatever a step removes, and however it changes holders, the entries that are left keep their
order. -/
theorem keeps_of_map {entries kept : List Entry} {change : Entry → Entry}
    (sublist : kept.Sublist entries)
    (keeps : ∀ entry, replica.Keeps task (change entry) entry) :
    List.SublistForall₂ (replica.Keeps task) (Space.hitBy ⟨kept.map change⟩ pattern)
      (Space.hitBy ⟨entries⟩ pattern) := by
  refine List.sublistForall₂_iff.mpr ⟨Space.hitBy ⟨kept⟩ pattern, ?_, sublist.filter _⟩
  unfold Space.hitBy
  rw [List.filter_map]
  have same : ((fun entry : Entry => pattern.hits entry.value) ∘ change) =
      fun entry => pattern.hits entry.value := by
    funext entry
    simp [(keeps entry).1]
  rw [same, List.forall₂_map_left_iff]
  exact List.forall₂_same.mpr fun entry _ => keeps entry

theorem keeps_of_sublist {space left : Space} (sublist : left.entries.Sublist space.entries) :
    List.SublistForall₂ (replica.Keeps task) (left.hitBy pattern) (space.hitBy pattern) := by
  have kept : List.SublistForall₂ (replica.Keeps task)
      (Space.hitBy ⟨left.entries.map id⟩ pattern) (Space.hitBy ⟨space.entries⟩ pattern) :=
    keeps_of_map sublist fun entry => ⟨rfl, fun _ held => Or.inl held⟩
  rwa [List.map_id] at kept

theorem keeps_of_reserve (reserved : Pattern) (client : ClientId) (space : Space) :
    List.SublistForall₂ (replica.Keeps task) ((space.reserve reserved client).2.hitBy pattern)
      (space.hitBy pattern) := by
  refine keeps_of_map (List.Sublist.refl _) ?_
  intro entry
  by_cases reservable : entry.isReservable reserved client = true
  · rw [if_pos reservable]
    refine ⟨rfl, fun other held => Or.inl ?_⟩
    have own : other = client := by
      simpa [Entry.isReservable, held] using (Bool.and_eq_true_iff.mp reservable).1
    exact congrArg some own.symm
  · rw [if_neg reservable]
    exact ⟨rfl, fun _ held => Or.inl held⟩

theorem keeps_of_release {client : ClientId} {entries kept : List Entry}
    (frees : replica.Frees client task) (sublist : kept.Sublist entries) :
    List.SublistForall₂ (replica.Keeps task) ((Space.release ⟨kept⟩ client).hitBy pattern)
      (Space.hitBy ⟨entries⟩ pattern) := by
  refine keeps_of_map sublist ?_
  intro entry
  refine ⟨entry.freed_from_value client, fun other held => ?_⟩
  rw [Entry.freed_from_holder]
  by_cases own : entry.holder = some client
  · cases held.symm.trans own
    exact Or.inr frees
  · rw [if_neg own]
    exact Or.inl held

theorem keeps_of_insert {tuple : String} (missed : pattern.hits tuple = false) (space : Space) :
    List.SublistForall₂ (replica.Keeps task) ((space.insert tuple).hitBy pattern)
      (space.hitBy pattern) := by
  have same : (space.insert tuple).hitBy pattern = space.hitBy pattern := by
    simp [Space.hitBy, Space.insert, missed]
  rw [same]
  exact keeps_of_sublist (List.Sublist.refl _)

end

/-! ## What a step does to the queue -/

/-- Whoever waits in a store that a task leads to has waited before, or was queued by the task,
which found everything held. -/
def Carries (replica : Replica) (task : Task) (next : Store) : Prop :=
  ∀ take ∈ next.pending,
    take ∈ replica.store.pending ∧
        List.SublistForall₂ (replica.Keeps task) (next.space.hitBy take.pattern)
          (replica.store.space.hitBy take.pattern) ∨
      next = { replica.store with
          pending := replica.store.pending ++ [take]
          nextTicket := replica.store.nextTicket + 1 } ∧
        ∀ entry ∈ replica.store.space.hitBy take.pattern, entry.holder ≠ none

section

variable {replica : Replica} {task : Task}

theorem carries_of_space {next : Store} (pending : next.pending ⊆ replica.store.pending)
    (space : ∀ take ∈ next.pending,
      List.SublistForall₂ (replica.Keeps task) (next.space.hitBy take.pattern)
        (replica.store.space.hitBy take.pattern)) :
    replica.Carries task next :=
  fun take waiting => Or.inl ⟨pending waiting, space take waiting⟩

theorem carries_same {next : Store} (pending : next.pending = replica.store.pending)
    (space : next.space = replica.store.space) : replica.Carries task next := by
  refine carries_of_space (fun _ waiting => pending ▸ waiting) fun take _ => ?_
  rw [space]
  exact keeps_of_sublist (List.Sublist.refl _)

theorem carries_put {tuple : String} {next : Store} (put : replica.store.put tuple = .ok next) :
    replica.Carries task next := by
  unfold Store.put at put
  split at put
  · cases put
  · split at put
    · rename_i take left served
      cases put
      obtain ⟨before, behind, split, rfl⟩ := Store.serve_split served
      refine carries_of_space ?_ fun _ _ => keeps_of_sublist (List.Sublist.refl _)
      rw [split]
      exact ((List.sublist_cons_self take behind).append_left before).subset
    · rename_i unserved
      cases put
      exact carries_of_space (List.Subset.refl _) fun take waiting =>
        keeps_of_insert (Store.serve_none unserved take waiting) _

theorem carries_take (pattern : Pattern) :
    replica.Carries task (replica.store.takeOrEnqueue pattern).2 := by
  unfold Store.takeOrEnqueue
  split
  · rename_i tuple space removed
    obtain ⟨⟨found, left⟩, extracted, same⟩ := Option.map_eq_some_iff.mp removed
    cases same
    obtain ⟨before, behind, split, rfl, _⟩ := Space.extract_found extracted
    refine carries_of_space (List.Subset.refl _) fun _ _ => keeps_of_sublist ?_
    rw [split]
    exact (List.sublist_cons_self found behind).append_left before
  · rename_i missing
    rw [Space.removeFirst?, Option.map_eq_none_iff] at missing
    intro take waiting
    rcases List.mem_append.mp waiting with earlier | now
    · exact Or.inl ⟨earlier, keeps_of_sublist (List.Sublist.refl _)⟩
    · rw [List.mem_singleton] at now
      cases now
      refine Or.inr ⟨rfl, fun entry hit free => ?_⟩
      obtain ⟨stored, hits⟩ := List.mem_filter.mp hit
      simpa [free, hits] using Space.extract_missing missing entry stored

theorem carries_apply (op : SequencedOp) : replica.Carries task (op.apply replica.store).2 := by
  cases op with
  | put tuple =>
      cases put : replica.store.put tuple with
      | ok next =>
          simp only [SequencedOp.apply, put]
          exact carries_put put
      | error cause =>
          simp only [SequencedOp.apply, put]
          exact carries_same rfl rfl
  | take source =>
      cases parsed : Pattern.parse source with
      | error cause =>
          rw [SequencedOp.take_refused _ parsed]
          exact carries_same rfl rfl
      | ok pattern =>
          rw [SequencedOp.store_of_take parsed]
          exact carries_take pattern

end

/-- No step makes a take wait while a tuple that it could have is free, and none frees a tuple but
by the client that holds it. -/
theorem carries_step (replica : Replica) (task : Task) :
    replica.Carries task (replica.step task).replica.store := by
  cases task with
  | put tuple =>
      rw [store_of_put]
      exact carries_apply (.put tuple)
  | read pattern =>
      simp only [step]
      split <;> exact carries_same rfl rfl
  | reserve pattern client =>
      exact carries_of_space (List.Subset.refl _) fun _ _ => keeps_of_reserve pattern client _
  | release client =>
      exact carries_of_space (List.Subset.refl _) fun _ _ =>
        keeps_of_release (by exact rfl) (List.Sublist.refl _)
  | commit tuple client =>
      cases committed : replica.store.space.commit tuple client with
      | ok next =>
          simp only [step, committed]
          obtain ⟨before, found, behind, split, rfl, holder, same⟩ := Space.commit_split committed
          have held : tuple ∈ replica.store.space.holdings client :=
            Space.mem_holdings.mpr ⟨found, by simp [split], holder, same⟩
          have sublist : (before ++ behind).Sublist replica.store.space.entries := by
            rw [split]
            exact (List.sublist_cons_self found behind).append_left before
          exact carries_of_space (List.Subset.refl _) fun _ _ =>
            keeps_of_release (by exact ⟨rfl, held⟩) sublist
      | error cause =>
          simp only [step, committed]
          exact carries_same rfl rfl
  | snapshot => exact carries_same rfl rfl
  | enqueue pattern =>
      rw [store_of_enqueue]
      exact carries_take pattern
  | take pattern =>
      rw [store_of_take]
      exact carries_take pattern
  | handoff ticket number? =>
      obtain ⟨handoffs, same⟩ := replica.store_of_handoff ticket number?
      rw [same]
      exact carries_same rfl rfl
  | turn number op goal =>
      rcases replica.store_of_turn number op goal with same | same <;> rw [same]
      · exact carries_same rfl rfl
      · exact carries_apply op
  | note number tuple => exact carries_same rfl rfl

/-! ## What a queued take may miss -/

theorem lingers_concat {start : Replica} {tasks : List Task} {task : Task}
    {now between before : List Entry}
    (keeps : List.SublistForall₂ ((start.carryOut tasks).Keeps task) now between)
    (lingers : List.SublistForall₂ (start.Lingers tasks) between before) :
    List.SublistForall₂ (start.Lingers (tasks ++ [task])) now before := by
  induction lingers generalizing now with
  | nil =>
      cases keeps
      exact .nil
  | cons lingers _ induction =>
      cases keeps with
      | nil => exact .nil
      | cons keeps rest => exact .cons (lingers.concat keeps) (induction rest)
      | cons_right rest => exact .cons_right (induction rest)
  | cons_right _ induction => exact .cons_right (induction keeps)

/-- A tuple is held, a take that is after it is queued, and the tuple is freed. -/
def freedBeside (pattern : Pattern) : List Task :=
  [.put "<a>", .reserve pattern ⟨1⟩, .enqueue pattern, .release ⟨1⟩]

theorem freed_beside :
    ∃ pattern, Pattern.parse "<a>" = .ok pattern ∧ pattern.hits "<a>" = true ∧
      (carryOut {} (freedBeside pattern)).store =
        { space := ⟨[⟨"<a>", none⟩]⟩, pending := [⟨0, pattern⟩], nextTicket := 1 } := by
  have carried : (Pattern.parse "<a>").toOption.map (fun pattern =>
      pattern.hits "<a>" && decide ((carryOut {} (freedBeside pattern)).store =
        { space := ⟨[⟨"<a>", none⟩]⟩, pending := [⟨0, pattern⟩], nextTicket := 1 })) =
          some true := by
    decide +kernel
  cases parsed : Pattern.parse "<a>" with
  | error cause =>
      rw [parsed] at carried
      cases carried
  | ok pattern =>
      rw [parsed] at carried
      obtain ⟨hit, store⟩ := Bool.and_eq_true_iff.mp (Option.some.inj carried)
      exact ⟨pattern, rfl, hit, of_decide_eq_true store⟩

/-- Of the tuples that a queued take is after, those that are stored were stored and held when it
was queued, and each is held by the same client still unless that client has given it up since.
None that was put since then is among them, also not if its like was stored before. -/
theorem lingers_of_waiting {gate : Gate} {tasks : List Task} {take : PendingTake}
    (waiting : take ∈ (carryOut { gate } tasks).store.pending) :
    ∃ earlier task later, tasks = earlier ++ task :: later ∧
      (carryOut { gate } earlier).Queues task take ∧
      List.SublistForall₂ ((carryOut { gate } (earlier ++ [task])).Lingers later)
        ((carryOut { gate } tasks).store.space.hitBy take.pattern)
        ((carryOut { gate } earlier).store.space.hitBy take.pattern) ∧
      (carryOut { gate } (earlier ++ [task])).KeepsOut take.pattern later := by
  induction tasks using List.reverseRecOn with
  | nil => cases waiting
  | append_singleton tasks task induction =>
      -- The take waited before the last task and was kept waiting by it, or the task has queued it.
      rw [carryOut_concat] at waiting ⊢
      rcases carries_step _ task take waiting with ⟨before, kept⟩ | ⟨queued, held⟩
      · obtain ⟨earlier, queueing, later, rfl, queues, lingering, keepsOut⟩ := induction before
        have split : carryOut { gate } (earlier ++ queueing :: later) =
            (carryOut { gate } (earlier ++ [queueing])).carryOut later := by
          rw [← carryOut_append]
          simp
        refine ⟨earlier, queueing, later ++ [task], by simp, queues, ?_, ?_⟩
        · rw [split] at kept lingering ⊢
          exact lingers_concat kept lingering
        · rw [split] at before
          exact keepsOut.concat fun tuple puts wanted => space_of_puts puts before wanted
      · refine ⟨tasks, task, [], rfl, queued, ?_, by simp [KeepsOut]⟩
        have space : ((carryOut { gate } tasks).step task).replica.store.space =
            (carryOut { gate } tasks).store.space := by rw [queued]
        rw [space]
        refine List.sublistForall₂_iff.mpr ⟨_, ?_, List.Sublist.refl _⟩
        refine List.forall₂_same.mpr fun entry hit => ?_
        obtain ⟨client, holds⟩ := Option.ne_none_iff_exists'.mp (held entry hit)
        exact ⟨rfl, client, holds, Or.inl holds⟩

theorem lingers_of_freed :
    ∃ pattern, Pattern.parse "<a>" = .ok pattern ∧
      ∃ earlier task later, freedBeside pattern = earlier ++ task :: later ∧
        (carryOut {} earlier).Queues task ⟨0, pattern⟩ ∧
        List.SublistForall₂ ((carryOut {} (earlier ++ [task])).Lingers later) [⟨"<a>", none⟩]
          ((carryOut {} earlier).store.space.hitBy pattern) ∧
        (carryOut {} (earlier ++ [task])).KeepsOut pattern later := by
  obtain ⟨pattern, parsed, hit, store⟩ := freed_beside
  have waiting : ⟨0, pattern⟩ ∈ (carryOut {} (freedBeside pattern)).store.pending := by
    rw [store]
    exact List.mem_singleton_self _
  have lingers := lingers_of_waiting waiting
  rw [store] at lingers
  have hits : Space.hitBy ⟨[⟨"<a>", none⟩]⟩ pattern = [⟨"<a>", none⟩] := by
    simp [Space.hitBy, hit]
  rw [hits] at lingers
  exact ⟨pattern, parsed, lingers⟩

theorem waits_beside_freed :
    ∃ pattern, Pattern.parse "<a>" = .ok pattern ∧
      ∃ take ∈ (carryOut {} (freedBeside pattern)).store.pending,
        ∃ entry ∈ (carryOut {} (freedBeside pattern)).store.space.entries,
          entry.holder = none ∧ take.pattern.hits entry.value = true := by
  obtain ⟨pattern, parsed, hit, store⟩ := freed_beside
  refine ⟨pattern, parsed, ?_⟩
  rw [store]
  exact ⟨⟨0, pattern⟩, List.mem_singleton_self _, ⟨"<a>", none⟩, List.mem_singleton_self _,
    rfl, hit⟩

end Replica

end TupleSpace
