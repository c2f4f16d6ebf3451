import TupleSpace.Proofs.WaitingTakes

/-!
# Held entries

Every stored copy is followed through the operations on its space, by its position before and
after each of them. A copy that a client holds stays with that client until the client releases,
or commits with success; on the way it never passes another copy. Other copies are taken out one
at a time, and only where the operation says so. The tasks of a replica do nothing else to its
space.
-/

namespace TupleSpace

inductive SpaceOp
  | insert (tuple : String)
  | find (pattern : Pattern)
  | removeFirst (pattern : Pattern)
  | reserve (pattern : Pattern) (client : ClientId)
  | release (client : ClientId)
  | commit (tuple : String) (client : ClientId)
deriving DecidableEq

namespace Space

/-- The space that an operation leaves behind. One that finds nothing to do leaves it alone. -/
def perform (space : Space) : SpaceOp → Space
  | .insert tuple => space.insert tuple
  | .find _ => space
  | .removeFirst pattern =>
      match space.removeFirst? pattern with
      | some (_, next) => next
      | none => space
  | .reserve pattern client => (space.reserve pattern client).2
  | .release client => space.release client
  | .commit tuple client =>
      match space.commit tuple client with
      | .ok next => next
      | .error _ => space

def performAll (space : Space) (ops : List SpaceOp) : Space := ops.foldl perform space

def taken? (space : Space) : SpaceOp → Option Nat
  | .removeFirst pattern =>
      space.entries.findIdx? (fun entry => entry.holder.isNone && pattern.hits entry.value)
  | .commit tuple client =>
      space.entries.findIdx? (fun entry => entry.holder == some client && entry.value == tuple)
  | _ => none

/-- Where an entry stands once another one has been taken out, or the entry itself. -/
def closeUp (taken position : Nat) : Option Nat :=
  if position < taken then some position
  else if position = taken then none
  else some (position - 1)

def move? (space : Space) (op : SpaceOp) (position : Nat) : Option Nat :=
  match space.taken? op with
  | none => some position
  | some taken => closeUp taken position

def follow? (space : Space) : List SpaceOp → Nat → Option Nat
  | [], position => some position
  | op :: later, position => (space.move? op position).bind ((space.perform op).follow? later)

def Frees (space : Space) (client : ClientId) : SpaceOp → Prop
  | .release other => other = client
  | .commit tuple other => other = client ∧ (space.commit tuple other).isOk = true
  | _ => False

/-- One of the operations frees what the client holds by then. -/
def GivesUp (space : Space) (client : ClientId) (ops : List SpaceOp) : Prop :=
  ∃ earlier op later, ops = earlier ++ op :: later ∧ (space.performAll earlier).Frees client op

structure KeepsCopies (space : Space) (ops : List SpaceOp) : Prop where
  /-- What a client holds stays stored, and held by it, until it gives that up. -/
  held : ∀ position entry client, space.entries[position]? = some entry →
    entry.holder = some client → ¬ space.GivesUp client ops →
    ∃ now, space.follow? ops position = some now ∧ (space.performAll ops).entries[now]? = some entry
  /-- Copies that are still stored have kept their order. -/
  ordered : ∀ one other here there, space.follow? ops one = some here →
    space.follow? ops other = some there → (one < other ↔ here < there)
  same : ∀ position entry now, space.entries[position]? = some entry →
    space.follow? ops position = some now →
    ∃ still, (space.performAll ops).entries[now]? = some still ∧ still.value = entry.value

/-! ## One operation -/

section

variable {before behind entries left : List Entry} {found entry : Entry}
  {test : Entry → Bool} {taken position now : Nat}

theorem close_up_iff : closeUp taken position = some now ↔
    position < taken ∧ now = position ∨ taken < position ∧ now + 1 = position := by
  unfold closeUp
  split
  · simp only [Option.some.injEq]
    omega
  · split
    · simp only [reduceCtorEq, false_iff]
      omega
    · simp only [Option.some.injEq]
      omega

theorem close_up_none : closeUp taken position = none ↔ position = taken := by
  unfold closeUp
  split
  · simp only [reduceCtorEq, false_iff]
    omega
  · split <;> simpa

theorem closed_up (stored : (before ++ found :: behind)[position]? = some entry)
    (moved : closeUp before.length position = some now) :
    (before ++ behind)[now]? = some entry := by
  rcases close_up_iff.mp moved with ⟨earlier, rfl⟩ | ⟨later, rfl⟩
  · rw [List.getElem?_append_left earlier] at stored ⊢
    exact stored
  · rw [List.getElem?_append_right (by omega)] at stored ⊢
    rw [Nat.succ_sub (by omega), List.getElem?_cons_succ] at stored
    exact stored

theorem extract_place (extracted : extract? test entries = some (found, left)) :
    ∃ before behind, entries = before ++ found :: behind ∧ left = before ++ behind ∧
      entries.findIdx? test = some before.length ∧ test found = true ∧
      ∀ entry ∈ before, test entry = false := by
  obtain ⟨before, behind, split, kept, holds, misses⟩ := extract_found extracted
  have none : before.findIdx? test = none := List.findIdx?_eq_none_iff.mpr misses
  refine ⟨before, behind, split, kept, ?_, holds, misses⟩
  simp [split, List.findIdx?_append, List.findIdx?_cons, none, holds]

theorem extract_nowhere (missing : extract? test entries = none) :
    entries.findIdx? test = none := List.findIdx?_eq_none_iff.mpr (extract_missing missing)

end

section

variable {space next : Space} {op : SpaceOp} {pattern : Pattern} {tuple : String}
  {client : ClientId} {position now : Nat} {entry : Entry}

theorem remove_place (removed : space.removeFirst? pattern = some (tuple, next)) :
    ∃ before behind, space.entries = before ++ ⟨tuple, none⟩ :: behind ∧
      next.entries = before ++ behind ∧
      space.taken? (.removeFirst pattern) = some before.length := by
  obtain ⟨⟨⟨value, holder⟩, left⟩, extracted, same⟩ := Option.map_eq_some_iff.mp removed
  obtain ⟨before, behind, split, kept, place, free, _⟩ := extract_place extracted
  cases same
  cases (show holder = none by simpa using (Bool.and_eq_true_iff.mp free).1)
  exact ⟨before, behind, split, kept, place⟩

theorem remove_nowhere (missing : space.removeFirst? pattern = none) :
    space.taken? (.removeFirst pattern) = none :=
  extract_nowhere (Option.map_eq_none_iff.mp missing)

theorem commit_place (committed : space.commit tuple client = .ok next) :
    ∃ before behind, space.entries = before ++ ⟨tuple, some client⟩ :: behind ∧
      ⟨tuple, some client⟩ ∉ before ∧
      next.entries = (before ++ behind).map (·.freedFrom client) ∧
      space.taken? (.commit tuple client) = some before.length := by
  unfold commit at committed
  split at committed
  · rename_i found left extracted
    cases committed
    obtain ⟨before, behind, split, rfl, place, holds, misses⟩ := extract_place extracted
    have copy : found = ⟨tuple, some client⟩ := by
      obtain ⟨value, holder⟩ := found
      simp only [Bool.and_eq_true, beq_iff_eq] at holds
      rw [holds.1, holds.2]
    refine ⟨before, behind, copy ▸ split, fun member => ?_, rfl, place⟩
    simpa using misses _ member
  · cases committed

theorem commit_nowhere {cause : StoreError} (refused : space.commit tuple client = .error cause) :
    space.taken? (.commit tuple client) = none := by
  unfold commit at refused
  split at refused
  · cases refused
  · rename_i missing
    exact extract_nowhere missing

/-- An entry that is not taken out is still stored after an operation, and with its client unless
the operation frees what that client holds. -/
inductive Becomes (space : Space) (op : SpaceOp) (position : Nat) (entry : Entry) : Prop
  | stays {now : Nat} {still : Entry} (moved : space.move? op position = some now)
      (stored : (space.perform op).entries[now]? = some still) (value : still.value = entry.value)
      (kept : ∀ client, entry.holder = some client →
        still.holder = some client ∨ space.Frees client op)
  | goes (taken : space.move? op position = none)
      (given : ∀ client, entry.holder = some client → space.Frees client op)

theorem becomes_of_map (change : Entry → Entry) (added : List Entry)
    (stored : space.entries[position]? = some entry) (untaken : space.taken? op = none)
    (performed : (space.perform op).entries = space.entries.map change ++ added)
    (value : (change entry).value = entry.value)
    (kept : ∀ client, entry.holder = some client →
      (change entry).holder = some client ∨ space.Frees client op) :
    space.Becomes op position entry := by
  have within := (List.getElem?_eq_some_iff.mp stored).1
  refine .stays (by rw [move?, untaken]) ?_ value kept
  rw [performed, List.getElem?_append_left (by rwa [List.length_map]), List.getElem?_map, stored]
  rfl

theorem becomes_of_split {before behind : List Entry} {found : Entry} (change : Entry → Entry)
    (stored : space.entries[position]? = some entry)
    (split : space.entries = before ++ found :: behind)
    (taken : space.taken? op = some before.length)
    (performed : (space.perform op).entries = (before ++ behind).map change)
    (value : (change entry).value = entry.value)
    (kept : ∀ client, entry.holder = some client →
      (change entry).holder = some client ∨ space.Frees client op)
    (given : ∀ client, found.holder = some client → space.Frees client op) :
    space.Becomes op position entry := by
  have moved : space.move? op position = closeUp before.length position := by rw [move?, taken]
  rw [split] at stored
  cases place : closeUp before.length position with
  | none =>
      cases close_up_none.mp place
      rw [List.getElem?_append_right (Nat.le_refl _), Nat.sub_self] at stored
      cases stored
      exact .goes (moved.trans place) given
  | some now =>
      refine .stays (moved.trans place) ?_ value kept
      rw [performed, List.getElem?_map, closed_up stored place]
      rfl

theorem freed_from_kept {holder : ClientId} (held : entry.holder = some holder) :
    (entry.freedFrom client).holder = some holder ∨ client = holder := by
  rw [Entry.freed_from_holder]
  by_cases own : entry.holder = some client
  · exact Or.inr (Option.some.inj (own.symm.trans held))
  · rw [if_neg own]
    exact Or.inl held

theorem becomes_of_stored (op : SpaceOp) (stored : space.entries[position]? = some entry) :
    space.Becomes op position entry := by
  have alone : ∀ {op : SpaceOp}, space.taken? op = none → space.perform op = space →
      space.Becomes op position entry := fun untaken idle =>
    becomes_of_map id [] stored untaken (by simp [idle]) rfl
      fun _ held => Or.inl held
  cases op with
  | insert tuple =>
      exact becomes_of_map id [_] stored rfl (by rw [List.map_id]; rfl) rfl
        fun _ held => Or.inl held
  | find pattern => exact alone rfl rfl
  | removeFirst pattern =>
      cases removed : space.removeFirst? pattern with
      | none => exact alone (remove_nowhere removed) (by simp only [perform, removed])
      | some pair =>
          obtain ⟨tuple, next⟩ := pair
          obtain ⟨before, behind, split, kept, place⟩ := remove_place removed
          refine becomes_of_split id stored split place ?_ rfl
            (fun _ held => Or.inl held) (fun _ held => by cases held)
          simp only [perform, removed, kept, List.map_id]
  | reserve pattern client =>
      refine becomes_of_map _ [] stored rfl (List.append_nil _).symm ?_ ?_
      · split <;> rfl
      · intro holder held
        split
        · rename_i reservable
          have own : holder = client := by
            simpa [Entry.isReservable, held] using (Bool.and_eq_true_iff.mp reservable).1
          exact Or.inl (congrArg some own.symm)
        · exact Or.inl held
  | release client =>
      exact becomes_of_map _ [] stored rfl (List.append_nil _).symm
        (entry.freed_from_value client) fun holder held => freed_from_kept held
  | commit tuple client =>
      cases committed : space.commit tuple client with
      | error cause => exact alone (commit_nowhere committed) (by simp only [perform, committed])
      | ok next =>
          obtain ⟨before, behind, split, _, kept, place⟩ := commit_place committed
          refine becomes_of_split (·.freedFrom client) stored split place
            (by simpa only [perform, committed]) (entry.freed_from_value client)
            (fun holder held => ?_) fun holder held => ?_
          · exact (freed_from_kept held).imp_right fun same => ⟨same, by rw [committed]; rfl⟩
          · exact ⟨Option.some.inj held, by rw [committed]; rfl⟩

theorem move_ordered {one other here there : Nat} (first : space.move? op one = some here)
    (second : space.move? op other = some there) : one < other ↔ here < there := by
  unfold move? at first second
  cases taken : space.taken? op with
  | none =>
      rw [taken] at first second
      cases first
      cases second
      exact Iff.rfl
  | some place =>
      rw [taken] at first second
      rw [close_up_iff] at first second
      omega

end

/-! ## Runs -/

section

variable {space : Space} {op : SpaceOp} {ops later : List SpaceOp} {client : ClientId}

theorem gives_up_cons : space.GivesUp client (op :: later) ↔
    space.Frees client op ∨ (space.perform op).GivesUp client later := by
  constructor
  · rintro ⟨_ | ⟨first, earlier⟩, freeing, rest, split, frees⟩
    · cases split
      exact Or.inl frees
    · cases split
      exact Or.inr ⟨earlier, freeing, rest, rfl, frees⟩
  · rintro (frees | ⟨earlier, freeing, rest, rfl, frees⟩)
    · exact ⟨[], op, later, rfl, frees⟩
    · exact ⟨op :: earlier, freeing, rest, rfl, frees⟩

instance (space : Space) (client : ClientId) : (op : SpaceOp) → Decidable (space.Frees client op)
  | .release other => inferInstanceAs (Decidable (other = client))
  | .commit tuple other =>
      inferInstanceAs (Decidable (other = client ∧ (space.commit tuple other).isOk = true))
  | .insert _ | .find _ | .removeFirst _ | .reserve _ _ => inferInstanceAs (Decidable False)

instance decidableGivesUp (space : Space) (client : ClientId) :
    (ops : List SpaceOp) → Decidable (space.GivesUp client ops)
  | [] => isFalse (by simp [GivesUp])
  | op :: later =>
      have := decidableGivesUp (space.perform op) client later
      decidable_of_iff _ gives_up_cons.symm

theorem keeps_copies (space : Space) (ops : List SpaceOp) : space.KeepsCopies ops := by
  induction ops generalizing space with
  | nil =>
      refine ⟨fun position entry _ stored _ _ => ⟨position, rfl, stored⟩, ?_, ?_⟩
      · intro one other here there first second
        cases first
        cases second
        exact Iff.rfl
      · intro position entry now stored followed
        cases followed
        exact ⟨entry, stored, rfl⟩
  | cons op later induction =>
      -- the first operation moves each copy, and the rest follow it from where it is then
      have rest := induction (space.perform op)
      refine ⟨fun position entry client stored held kept => ?_, ?_, ?_⟩
      · rw [gives_up_cons, not_or] at kept
        cases becomes_of_stored op stored with
        | goes _ given => exact absurd (given client held) kept.1
        | @stays now still moved there value holder =>
            have same : still = entry := by
              cases still
              cases entry
              cases value
              cases held
              exact congrArg (Entry.mk _) ((holder client rfl).resolve_right kept.1)
            obtain ⟨place, followed, last⟩ := rest.held now entry client (same ▸ there) held kept.2
            exact ⟨place, by rw [follow?, moved]; exact followed, last⟩
      · intro one other here there first second
        obtain ⟨between, moved, followed⟩ := Option.bind_eq_some_iff.mp first
        obtain ⟨beyond, likewise, also⟩ := Option.bind_eq_some_iff.mp second
        exact (move_ordered moved likewise).trans (rest.ordered _ _ _ _ followed also)
      · intro position entry now stored followed
        obtain ⟨between, moved, followed⟩ := Option.bind_eq_some_iff.mp followed
        cases becomes_of_stored op stored with
        | goes taken _ => cases moved.symm.trans taken
        | @stays place still here there value _ =>
            cases moved.symm.trans here
            obtain ⟨last, found, same⟩ := rest.same _ still now there followed
            exact ⟨last, found, same.trans value⟩

end

/-- A copy that a client holds stays stored, in its place among the copies that stay, and held by
that client until it releases or commits with success, whatever is done on the way. In whatever
state the space is by then, only a free copy is removed, a commit that fails changes nothing, one
that succeeds removes the first copy of its tuple that the client holds and frees the others that
it holds, and the stored tuples stay as they are under all other operations but an insertion. -/
theorem held_until_given_up (start : Space) (ops : List SpaceOp) :
    start.KeepsCopies ops ∧
      (∀ pattern tuple next, (start.performAll ops).removeFirst? pattern = some (tuple, next) →
        ∃ before behind, (start.performAll ops).entries = before ++ ⟨tuple, none⟩ :: behind ∧
          next.entries = before ++ behind) ∧
      (∀ tuple client,
        match (start.performAll ops).commit tuple client with
        | .ok next =>
            ∃ before behind,
              (start.performAll ops).entries = before ++ ⟨tuple, some client⟩ :: behind ∧
                ⟨tuple, some client⟩ ∉ before ∧
                next.entries = (before ++ behind).map fun entry =>
                  if entry.holder = some client then ⟨entry.value, none⟩ else entry
        | .error _ =>
            ⟨tuple, some client⟩ ∉ (start.performAll ops).entries ∧
              (start.performAll ops).perform (.commit tuple client) = start.performAll ops ∧
              ∀ replica : Replica, replica.store.space = start.performAll ops →
                (replica.step (.commit tuple client)).replica = replica) ∧
      ∀ op, ((start.performAll ops).perform op).values = (start.performAll ops).values ∨
        (∃ tuple, op = .insert tuple) ∨ (∃ pattern, op = .removeFirst pattern) ∨
          ∃ tuple client, op = .commit tuple client := by
  refine ⟨keeps_copies start ops, fun pattern tuple next removed => ?_, fun tuple client => ?_,
    fun op => ?_⟩
  · obtain ⟨before, behind, split, kept, _⟩ := remove_place removed
    exact ⟨before, behind, split, kept⟩
  · cases committed : (start.performAll ops).commit tuple client with
    | ok next =>
        obtain ⟨before, behind, split, first, kept, _⟩ := commit_place committed
        exact ⟨before, behind, split, first, kept⟩
    | error cause =>
        refine ⟨fun member => ?_, by simp only [perform, committed], fun replica same => ?_⟩
        · obtain ⟨next, done⟩ := commit_of_held (mem_holdings.mpr ⟨_, member, rfl, rfl⟩)
          cases committed.symm.trans done
        · simp only [Replica.step, same, committed]
  · cases op with
    | insert tuple => exact Or.inr (Or.inl ⟨tuple, rfl⟩)
    | find pattern => exact Or.inl rfl
    | removeFirst pattern => exact Or.inr (Or.inr (Or.inl ⟨pattern, rfl⟩))
    | reserve pattern client => exact Or.inl (values_reserve ..)
    | release client => exact Or.inl (values_release ..)
    | commit tuple client => exact Or.inr (Or.inr (Or.inr ⟨tuple, client, rfl⟩))

def contested : Space :=
  ⟨[⟨"<a>", some ⟨2⟩⟩, ⟨"<b>", none⟩, ⟨"<a>", some ⟨1⟩⟩, ⟨"<a>", some ⟨2⟩⟩]⟩

/-- A commit of client 1 that fails, and what others do until client 2 commits. -/
def contest (pattern : Pattern) : List SpaceOp :=
  [.commit "<b>" ⟨1⟩, .removeFirst pattern, .insert "<a>", .reserve pattern ⟨2⟩,
    .commit "<a>" ⟨2⟩]

/-- The copy that client 1 holds comes to the front, still held by it. -/
theorem held_until_given_up_in_contest :
    ∃ pattern, Pattern.parse "<.>" = .ok pattern ∧ ¬ contested.GivesUp ⟨1⟩ (contest pattern) ∧
      contested.follow? (contest pattern) 2 = some 0 ∧
      (contested.performAll (contest pattern)).entries[0]? = some ⟨"<a>", some ⟨1⟩⟩ := by
  have shown : (Pattern.parse "<.>").toOption.map (fun pattern =>
      decide (¬ contested.GivesUp ⟨1⟩ (contest pattern) ∧
        contested.follow? (contest pattern) 2 = some 0)) = some true := by decide +kernel
  obtain ⟨pattern, parsed, holds⟩ := Option.map_eq_some_iff.mp shown
  obtain ⟨kept, followed⟩ := of_decide_eq_true holds
  obtain ⟨now, place, stored⟩ := (held_until_given_up contested (contest pattern)).1.held 2
    ⟨"<a>", some ⟨1⟩⟩ ⟨1⟩ rfl rfl kept
  cases followed.symm.trans place
  exact ⟨pattern, Pattern.parse_of_some parsed, kept, followed, stored⟩

end Space

/-! ## On a replica -/

def SpaceOp.freed? : SpaceOp → Option ClientId
  | .release client | .commit _ client => some client
  | _ => none

def Task.freed? : Task → Option ClientId
  | .release client | .commit _ client => some client
  | _ => none

namespace Store

theorem space_put {store next : Store} {tuple : String} (put : store.put tuple = .ok next) :
    next.space = store.space ∨ next.space = store.space.perform (.insert tuple) := by
  unfold Store.put at put
  split at put
  · cases put
  · split at put <;> cases put
    · exact Or.inl rfl
    · exact Or.inr rfl

theorem space_take (store : Store) (pattern : Pattern) :
    (store.takeOrEnqueue pattern).2.space = store.space.perform (.removeFirst pattern) := by
  cases removed : store.space.removeFirst? pattern <;>
    simp only [takeOrEnqueue, Space.perform, removed]

end Store

theorem SequencedOp.space_apply (op : SequencedOp) (store : Store) :
    (op.apply store).2.space = store.space ∨ ∃ done : SpaceOp, done.freed? = none ∧
      (op.apply store).2.space = store.space.perform done := by
  cases op with
  | put tuple =>
      simp only [apply]
      split
      · rename_i next put
        exact (Store.space_put put).imp_right fun same => ⟨_, rfl, same⟩
      · exact Or.inl rfl
  | take source =>
      cases parsed : Pattern.parse source with
      | error cause => simp only [apply, parsed, true_or]
      | ok pattern =>
          rw [store_of_take parsed]
          exact Or.inr ⟨_, rfl, store.space_take pattern⟩

namespace Replica

/-- A task does one operation at most to the space of its replica, and frees for no other client than
its own. -/
theorem space_step (replica : Replica) (task : Task) :
    (replica.step task).replica.store.space = replica.store.space ∨
      ∃ op : SpaceOp, op.freed? = task.freed? ∧
        (replica.step task).replica.store.space = replica.store.space.perform op := by
  cases task with
  | put tuple =>
      rw [store_of_put]
      exact (SequencedOp.put tuple).space_apply replica.store
  | read pattern =>
      simp only [step]
      split <;> exact Or.inl rfl
  | reserve pattern client => exact Or.inr ⟨.reserve pattern client, rfl, rfl⟩
  | release client => exact Or.inr ⟨.release client, rfl, rfl⟩
  | commit tuple client =>
      cases committed : replica.store.space.commit tuple client with
      | ok next =>
          refine Or.inr ⟨.commit tuple client, rfl, ?_⟩
          simp only [step, Space.perform, committed, withSpace]
      | error cause => exact Or.inl (by simp only [step, committed])
  | snapshot => exact Or.inl rfl
  | enqueue pattern =>
      rw [store_of_enqueue]
      exact Or.inr ⟨_, rfl, replica.store.space_take pattern⟩
  | take pattern =>
      rw [store_of_take]
      exact Or.inr ⟨_, rfl, replica.store.space_take pattern⟩
  | handoff ticket number? =>
      obtain ⟨handoffs, same⟩ := replica.store_of_handoff ticket number?
      exact Or.inl (by rw [same])
  | turn number op goal =>
      rcases replica.store_of_turn number op goal with same | same <;> rw [same]
      · exact Or.inl rfl
      · exact op.space_apply replica.store
  | note number tuple => exact Or.inl rfl

theorem space_carryOut (replica : Replica) (tasks : List Task) :
    ∃ ops, (carryOut replica tasks).store.space = replica.store.space.performAll ops ∧
      ∀ op ∈ ops, ∃ task ∈ tasks, op.freed? = task.freed? := by
  induction tasks using List.reverseRecOn with
  | nil => exact ⟨[], rfl, by simp⟩
  | append_singleton tasks task induction =>
      obtain ⟨ops, done, whose⟩ := induction
      have earlier : ∀ op ∈ ops, ∃ other ∈ tasks ++ [task], op.freed? = other.freed? :=
        fun op member =>
          let ⟨other, inside, same⟩ := whose op member
          ⟨other, List.mem_append_left _ inside, same⟩
      rw [carryOut_concat]
      rcases (carryOut replica tasks).space_step task with same | ⟨op, client, performed⟩
      · exact ⟨ops, same.trans done, earlier⟩
      · refine ⟨ops ++ [op], ?_, fun other member => ?_⟩
        · rw [performed, done, Space.performAll, Space.performAll, List.foldl_append]
          rfl
        · rcases List.mem_append.mp member with inside | last
          · exact earlier other inside
          · cases List.mem_singleton.mp last
            exact ⟨task, by simp, client⟩

theorem held_on_replica {replica : Replica} {tasks : List Task} {client : ClientId} {tuple : String}
    (held : ⟨tuple, some client⟩ ∈ replica.store.space.entries)
    (keeps : ∀ task ∈ tasks, task.freed? ≠ some client) :
    ⟨tuple, some client⟩ ∈ (carryOut replica tasks).store.space.entries := by
  obtain ⟨ops, done, whose⟩ := space_carryOut replica tasks
  obtain ⟨position, stored⟩ := List.mem_iff_getElem?.mp held
  have kept : ¬ replica.store.space.GivesUp client ops := by
    rintro ⟨earlier, op, later, rfl, frees⟩
    obtain ⟨task, inside, same⟩ := whose op (by simp)
    refine keeps task inside (same ▸ ?_)
    cases op with
    | release other => exact congrArg some frees
    | commit tuple other => exact congrArg some frees.1
    | _ => exact frees.elim
  obtain ⟨now, _, still⟩ := (Space.keeps_copies _ ops).held position _ client stored rfl kept
  exact done ▸ List.mem_of_getElem? still

end Replica

end TupleSpace
