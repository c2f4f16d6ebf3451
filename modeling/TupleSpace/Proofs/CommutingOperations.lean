import TupleSpace.Proofs.HeldEntries

/-!
# Operations that commute

A commit or a release concerns the copies that its client holds and no others. It may therefore
come before or after the commits and releases of other clients, and before or after a tuple is put:
the same entries are left in the same order with the same holders, and each operation answers as in
the other order, a commit that is refused included.
-/

namespace TupleSpace

inductive SpaceAnswer
  | done
  | found (tuple? : Option String)
  | reserved (tuples : List String)
  | freed (count : Nat)
  | refused (cause : StoreError)
deriving DecidableEq

namespace Entry

variable {client other : ClientId}

def isCopy (tuple : String) (client : ClientId) (entry : Entry) : Bool :=
  entry.holder == some client && entry.value == tuple

theorem freed_comm (entry : Entry) (client other : ClientId) :
    (entry.freedFrom client).freedFrom other = (entry.freedFrom other).freedFrom client := by
  obtain ⟨value, holder⟩ := entry
  simp only [freedFrom]
  split_ifs <;> simp_all

theorem copy_of_freed (different : client ≠ other) (tuple : String) (entry : Entry) :
    (entry.freedFrom other).isCopy tuple client = entry.isCopy tuple client := by
  unfold isCopy
  rw [freed_from_value, freed_from_holder]
  split
  · rename_i held
    simp [held, different.symm]
  · rfl

theorem copies_apart (different : client ≠ other) (tuple wanted : String) (entry : Entry) :
    ¬ entry.isCopy tuple client = true ∨ ¬ entry.isCopy wanted other = true := by
  by_cases held : entry.holder = some client
  · right
    simp [isCopy, held, different]
  · left
    simp [isCopy, held]

end Entry

theorem SpaceOp.gives_up {op : SpaceOp} {client : ClientId} (mine : op.freed? = some client) :
    op = .release client ∨ ∃ tuple, op = .commit tuple client := by
  cases op with
  | release other => exact Or.inl (congrArg _ (Option.some.inj mine))
  | commit tuple other => exact Or.inr ⟨tuple, congrArg _ (Option.some.inj mine)⟩
  | _ => cases mine

namespace Space

def answer (space : Space) : SpaceOp → SpaceAnswer
  | .insert _ => .done
  | .find pattern => .found (space.find? pattern)
  | .removeFirst pattern => .found ((space.removeFirst? pattern).map (·.1))
  | .reserve pattern client => .reserved (space.reserve pattern client).1
  | .release client => .freed (space.heldCount client)
  | .commit tuple client =>
      match space.commit tuple client with
      | .ok _ => .done
      | .error cause => .refused cause

def withoutCopy (space : Space) (tuple : String) (client : ClientId) : Space :=
  ⟨space.entries.eraseP (·.isCopy tuple client)⟩

/-- A change of spaces that concerns none of the copies that a client holds. -/
structure Spares (client : ClientId) (change : Space → Space) : Prop where
  holdings : ∀ space, (change space).holdings client = space.holdings client
  withoutCopy : ∀ space tuple,
    (change space).withoutCopy tuple client = change (space.withoutCopy tuple client)
  release : ∀ space, (change space).release client = change (space.release client)

/-! ## Commits and releases -/

theorem extract_eq (test : Entry → Bool) (entries : List Entry) :
    extract? test entries =
      (entries.find? test).map fun found => (found, entries.eraseP test) := by
  induction entries with
  | nil => rfl
  | cons entry rest induction =>
      unfold extract?
      cases hit : test entry with
      | true => simp [hit]
      | false => simp [hit, induction, Function.comp_def]

theorem commit_eq (space : Space) (tuple : String) (client : ClientId) :
    space.commit tuple client =
      if tuple ∈ space.holdings client then .ok ((space.withoutCopy tuple client).release client)
      else .error (.notHolder tuple client) := by
  have held : tuple ∈ space.holdings client ↔
      (space.entries.find? (·.isCopy tuple client)).isSome = true := by
    simp [mem_holdings, Entry.isCopy]
  have extracted : extract? (fun entry => entry.holder == some client && entry.value == tuple)
      space.entries = (space.entries.find? (·.isCopy tuple client)).map
        fun found => (found, (space.withoutCopy tuple client).entries) := extract_eq _ _
  unfold commit
  rw [extracted]
  cases found : space.entries.find? (·.isCopy tuple client) with
  | none => simp [held, found]
  | some entry => simp [held, found]

variable {space next : Space} {client other : ClientId} {one another : SpaceOp}

theorem perform_commit (space : Space) (tuple : String) (client : ClientId) :
    space.perform (.commit tuple client) =
      if tuple ∈ space.holdings client then (space.withoutCopy tuple client).release client
      else space := by
  simp only [perform, commit_eq]
  split_ifs <;> rfl

theorem answer_of_holdings (mine : one.freed? = some client)
    (same : next.holdings client = space.holdings client) : next.answer one = space.answer one := by
  rcases SpaceOp.gives_up mine with rfl | ⟨tuple, rfl⟩
  · have count : ∀ space : Space, space.heldCount client = (space.holdings client).length := by
      simp [heldCount, holdings, List.countP_eq_length_filter]
    simp only [answer, count, same]
  · simp only [answer, commit_eq, same]
    split_ifs <;> rfl

/-- A change that spares a client comes before or after what the client gives up. -/
theorem Spares.perform {change : Space → Space} (spares : Spares client change)
    (mine : one.freed? = some client) (space : Space) :
    (change space).perform one = change (space.perform one) := by
  rcases SpaceOp.gives_up mine with rfl | ⟨tuple, rfl⟩
  · exact spares.release space
  · rw [perform_commit, perform_commit, spares.holdings, spares.withoutCopy, spares.release]
    split_ifs <;> rfl

/-! ## Changes that spare a client -/

theorem spares_insert (client : ClientId) (tuple : String) : Spares client (·.insert tuple) := by
  refine ⟨fun space => holdings_insert space tuple client, fun space wanted => ?_, fun space => ?_⟩
  · have free : ([⟨tuple, none⟩] : List Entry).eraseP (·.isCopy wanted client) = [⟨tuple, none⟩] :=
      List.eraseP_of_forall_not (by simp [Entry.isCopy])
    unfold withoutCopy insert
    rw [List.eraseP_append, free]
    split
    · rfl
    · rename_i nowhere
      rw [List.eraseP_of_forall_not fun entry member copy =>
        nowhere (List.any_eq_true.mpr ⟨entry, member, copy⟩)]
  · simp [Space.release, insert, Entry.freedFrom]

theorem spares_release (different : client ≠ other) : Spares client (·.release other) := by
  refine ⟨fun space => holdings_release_other space different.symm, fun space tuple => ?_,
    fun space => ?_⟩
  · have same : Entry.isCopy tuple client ∘ Entry.freedFrom other = Entry.isCopy tuple client :=
      funext (Entry.copy_of_freed different tuple)
    simp only [withoutCopy, Space.release, List.eraseP_map, same]
  · simp [Space.release, Entry.freed_comm _ client other]

theorem spares_without (different : client ≠ other) (wanted : String) :
    Spares client (·.withoutCopy wanted other) := by
  refine ⟨fun space => ?_, fun space tuple => ?_, fun space => ?_⟩
  · unfold Space.holdings withoutCopy
    rcases List.exists_or_eq_self_of_eraseP (·.isCopy wanted other) space.entries with
      same | ⟨copy, before, behind, _, held, split, left⟩
    · rw [same]
    · have holder : copy.holder = some other := by
        simp only [Entry.isCopy, Bool.and_eq_true, beq_iff_eq] at held
        exact held.1
      rw [left, split]
      simp [holder, different.symm]
  · unfold withoutCopy
    rw [List.eraseP_comm fun entry _ => (Entry.copies_apart different tuple wanted entry).symm]
  · exact ((spares_release different.symm).withoutCopy space wanted).symm

theorem spares_removal (different : client ≠ other) (wanted : String) :
    Spares client fun space => (space.withoutCopy wanted other).release other := by
  have first := spares_without different wanted
  have second := spares_release different
  refine ⟨fun space => ?_, fun space tuple => ?_, fun space => ?_⟩
  · rw [second.holdings, first.holdings]
  · rw [second.withoutCopy, first.withoutCopy]
  · rw [second.release, first.release]

theorem holdings_apart (different : client ≠ other) (theirs : another.freed? = some other) :
    (space.perform another).holdings client = space.holdings client := by
  rcases SpaceOp.gives_up theirs with rfl | ⟨wanted, rfl⟩
  · exact (spares_release different).holdings space
  · rw [perform_commit]
    split_ifs
    · exact (spares_removal different wanted).holdings space
    · rfl

theorem perform_comm (space : Space) (different : client ≠ other)
    (mine : one.freed? = some client) (theirs : another.freed? = some other) :
    (space.perform another).perform one = (space.perform one).perform another := by
  rcases SpaceOp.gives_up theirs with rfl | ⟨wanted, rfl⟩
  · exact (spares_release different).perform mine space
  · rw [perform_commit, perform_commit, holdings_apart different.symm mine]
    split_ifs
    · exact (spares_removal different wanted).perform mine space
    · rfl

/-- What clients give up one after another they may give up in any order, if each does so once. -/
theorem perform_all_perm {ops reordered : List SpaceOp} (perm : ops.Perm reordered)
    (apart : (ops.map (·.freed?)).Nodup) (yields : ∀ op ∈ ops, op.freed?.isSome = true)
    (space : Space) : space.performAll ops = space.performAll reordered := by
  refine perm.foldl_eq' ?_ space
  intro one first another second space
  obtain ⟨client, mine⟩ := Option.isSome_iff_exists.mp (yields one first)
  obtain ⟨other, theirs⟩ := Option.isSome_iff_exists.mp (yields another second)
  by_cases different : client = other
  · have same : one.freed? = another.freed? := by rw [mine, theirs, different]
    rw [List.inj_on_of_nodup_map apart first second same]
  · exact perform_comm space (Ne.symm different) theirs mine

/-- What a client gives up commutes with what another client gives up, and with a tuple that is
put: in either order the space comes to the same, and both operations answer alike. -/
theorem answers_in_either_order (space : Space) (different : client ≠ other)
    (mine : one.freed? = some client)
    (theirs : another.freed? = some other ∨ ∃ tuple, another = .insert tuple) :
    space.performAll [one, another] = space.performAll [another, one] ∧
      (space.perform another).answer one = space.answer one ∧
      (space.perform one).answer another = space.answer another := by
  rcases theirs with theirs | ⟨tuple, rfl⟩
  · exact ⟨(perform_comm space different mine theirs).symm,
      answer_of_holdings mine (holdings_apart different theirs),
      answer_of_holdings theirs (holdings_apart different.symm mine)⟩
  · have spares := spares_insert client tuple
    exact ⟨(spares.perform mine space).symm, answer_of_holdings mine (spares.holdings space), rfl⟩

/-- Two clients that hold copies of one tuple commit it. -/
theorem answers_in_either_order_of_contest :
    contested.performAll [.commit "<a>" ⟨1⟩, .commit "<a>" ⟨2⟩] =
        contested.performAll [.commit "<a>" ⟨2⟩, .commit "<a>" ⟨1⟩] ∧
      (contested.perform (.commit "<a>" ⟨2⟩)).answer (.commit "<a>" ⟨1⟩) = .done ∧
      (contested.perform (.commit "<a>" ⟨1⟩)).answer (.commit "<a>" ⟨2⟩) = .done ∧
      contested.performAll [.commit "<a>" ⟨1⟩, .commit "<a>" ⟨2⟩] =
        ⟨[⟨"<b>", none⟩, ⟨"<a>", none⟩]⟩ := by
  have mine : (SpaceOp.commit "<a>" ⟨1⟩).freed? = some ⟨1⟩ := rfl
  have theirs : (SpaceOp.commit "<a>" ⟨2⟩).freed? = some ⟨2⟩ := rfl
  obtain ⟨same, one, another⟩ :=
    answers_in_either_order contested (by decide) mine (Or.inl theirs)
  exact ⟨same, one.trans (by decide), another.trans (by decide), by decide⟩

end Space

end TupleSpace
