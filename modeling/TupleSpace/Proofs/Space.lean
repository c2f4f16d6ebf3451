import Mathlib.Data.List.Basic
import TupleSpace.Space

/-!
# Holdings and copies in a space

Two views of a space decide what a take can do: the tuples that a client holds, in store order,
and how many copies of a tuple are stored. Every operation is described by its effect on both.
-/

namespace TupleSpace

theorem Pattern.parse_of_some {source : String} {pattern : Pattern}
    (found : (Pattern.parse source).toOption = some pattern) :
    Pattern.parse source = .ok pattern := by
  cases parsed : Pattern.parse source with
  | error cause =>
      rw [parsed] at found
      cases found
  | ok other =>
      rw [parsed] at found
      cases found
      rfl

namespace Entry

theorem freed_from_value (entry : Entry) (client : ClientId) :
    (entry.freedFrom client).value = entry.value := by
  unfold freedFrom
  split <;> rfl

theorem freed_from_holder (entry : Entry) (client : ClientId) :
    (entry.freedFrom client).holder =
      if entry.holder = some client then none else entry.holder := by
  unfold freedFrom
  split <;> simp_all

end Entry

namespace Space

def holdings (space : Space) (client : ClientId) : List String :=
  (space.entries.filter (fun entry => entry.holder == some client)).map (·.value)

def copies (space : Space) (tuple : String) : Nat := space.values.count tuple

theorem extract_found {test : Entry → Bool} {entries left : List Entry} {found : Entry}
    (extracted : extract? test entries = some (found, left)) :
    ∃ before behind, entries = before ++ found :: behind ∧ left = before ++ behind ∧
      test found = true ∧ ∀ entry ∈ before, test entry = false := by
  induction entries generalizing left with
  | nil => simp [extract?] at extracted
  | cons entry rest induction =>
      unfold extract? at extracted
      by_cases hit : test entry = true
      · rw [if_pos hit] at extracted
        cases extracted
        exact ⟨[], rest, rfl, rfl, hit, by simp⟩
      · rw [if_neg hit] at extracted
        obtain ⟨⟨inner, remaining⟩, tail, same⟩ := Option.map_eq_some_iff.mp extracted
        cases same
        obtain ⟨before, behind, split, kept, holds, misses⟩ := induction tail
        refine ⟨entry :: before, behind, by simp [split], by simp [kept], holds, ?_⟩
        intro other member
        rcases List.mem_cons.mp member with rfl | earlier
        · simpa using hit
        · exact misses other earlier

theorem extract_missing {test : Entry → Bool} {entries : List Entry}
    (missing : extract? test entries = none) : ∀ entry ∈ entries, test entry = false := by
  induction entries with
  | nil => simp
  | cons entry rest induction =>
      unfold extract? at missing
      by_cases hit : test entry = true
      · simp [hit] at missing
      · rw [if_neg hit, Option.map_eq_none_iff] at missing
        intro other member
        rcases List.mem_cons.mp member with rfl | later
        · simpa using hit
        · exact induction missing other later

theorem mem_holdings {space : Space} {client : ClientId} {tuple : String} :
    tuple ∈ space.holdings client ↔
      ∃ entry ∈ space.entries, entry.holder = some client ∧ entry.value = tuple := by
  simp [holdings, and_assoc]

/-! ## Holdings -/

@[simp] theorem holdings_insert (space : Space) (tuple : String) (client : ClientId) :
    (space.insert tuple).holdings client = space.holdings client := by
  simp [holdings, insert]

@[simp] theorem holdings_release_own (space : Space) (client : ClientId) :
    (space.release client).holdings client = [] := by
  simp only [holdings, release, List.map_eq_nil_iff, List.filter_eq_nil_iff, List.mem_map]
  rintro entry ⟨old, _, rfl⟩
  rw [Entry.freed_from_holder]
  split <;> simp_all

/-- A change of entries that keeps their values decides by itself what a client holds. -/
private theorem holdings_mapped (entries : List Entry) (client : ClientId) (change : Entry → Entry)
    (value : ∀ entry, (change entry).value = entry.value) :
    holdings ⟨entries.map change⟩ client =
      (entries.filter (fun entry => (change entry).holder == some client)).map (·.value) := by
  simp [holdings, List.filter_map, Function.comp_def, value]

theorem holdings_release_other (space : Space) {client other : ClientId}
    (different : other ≠ client) :
    (space.release other).holdings client = space.holdings client := by
  unfold release holdings
  refine (holdings_mapped space.entries client (·.freedFrom other)
    (fun entry => entry.freed_from_value other)).trans ?_
  congr 2
  funext entry
  rw [Entry.freed_from_holder]
  split
  · rename_i own
    simp [own, different]
  · rfl

private theorem reserved_value (entry : Entry) (pattern : Pattern) (client : ClientId) :
    (if entry.isReservable pattern client then entry.heldBy client else entry).value =
      entry.value := by
  split <;> rfl

theorem holdings_reserve_other (space : Space) (pattern : Pattern) {client other : ClientId}
    (different : other ≠ client) :
    (space.reserve pattern other).2.holdings client = space.holdings client := by
  refine (holdings_mapped space.entries client _
    (fun entry => reserved_value entry pattern other)).trans ?_
  unfold holdings
  congr 2
  funext entry
  split
  · rename_i reservable
    have free : entry.holder = none ∨ entry.holder = some other := by
      simp only [Entry.isReservable, Bool.and_eq_true, Bool.or_eq_true] at reservable
      simpa using reservable.1
    rcases free with free | free <;> simp [Entry.heldBy, free, different]
  · rfl

/-- What a client is given is all that it holds, if it held nothing that its pattern misses. -/
theorem holdings_reserve_own (space : Space) (pattern : Pattern) (client : ClientId)
    (hit : ∀ tuple ∈ space.holdings client, pattern.hits tuple = true) :
    (space.reserve pattern client).2.holdings client = (space.reserve pattern client).1 := by
  refine (holdings_mapped space.entries client _
    (fun entry => reserved_value entry pattern client)).trans ?_
  unfold reserve
  congr 1
  refine List.filter_congr ?_
  intro entry member
  by_cases reservable : entry.isReservable pattern client = true
  · simp [reservable, Entry.heldBy]
  · have apart : entry.holder ≠ some client := by
      intro held
      apply reservable
      simp [Entry.isReservable, held, hit entry.value (mem_holdings.mpr ⟨entry, member, held, rfl⟩)]
    simp [reservable, apart]

theorem not_held_of_nothing {space : Space} {client : ClientId} {entry : Entry}
    (nothing : space.holdings client = []) (member : entry ∈ space.entries) :
    entry.holder ≠ some client := by
  intro held
  have inside : entry.value ∈ space.holdings client :=
    mem_holdings.mpr ⟨entry, member, held, rfl⟩
  rw [nothing] at inside
  cases inside

theorem mem_holdings_reserve (space : Space) (pattern : Pattern) (client : ClientId)
    (tuple : String) :
    tuple ∈ (space.reserve pattern client).2.holdings client ↔
      tuple ∈ space.holdings client ∨ tuple ∈ (space.reserve pattern client).1 := by
  have after := holdings_mapped space.entries client _
    (fun entry => reserved_value entry pattern client)
  change tuple ∈ holdings ⟨space.entries.map _⟩ client ↔ _
  rw [after]
  unfold holdings reserve
  simp only [List.mem_map, List.mem_filter]
  constructor
  · rintro ⟨entry, ⟨member, own⟩, rfl⟩
    by_cases reservable : entry.isReservable pattern client = true
    · exact Or.inr ⟨entry, ⟨member, reservable⟩, rfl⟩
    · rw [if_neg reservable] at own
      exact Or.inl ⟨entry, ⟨member, own⟩, rfl⟩
  · rintro (⟨entry, ⟨member, own⟩, rfl⟩ | ⟨entry, ⟨member, reservable⟩, rfl⟩)
    · refine ⟨entry, ⟨member, ?_⟩, rfl⟩
      split
      · simp [Entry.heldBy]
      · exact own
    · exact ⟨entry, ⟨member, by simp [reservable, Entry.heldBy]⟩, rfl⟩

theorem hits_of_reserved {space : Space} {pattern : Pattern} {client : ClientId} {tuple : String}
    (member : tuple ∈ (space.reserve pattern client).1) : pattern.hits tuple = true := by
  obtain ⟨entry, inside, rfl⟩ := List.mem_map.mp member
  have reservable := (List.mem_filter.mp inside).2
  simp only [Entry.isReservable, Bool.and_eq_true] at reservable
  exact reservable.2

/-! ## Commits -/

theorem commit_split {space next : Space} {tuple : String} {client : ClientId}
    (committed : space.commit tuple client = .ok next) :
    ∃ before found behind, space.entries = before ++ found :: behind ∧
      next = release ⟨before ++ behind⟩ client ∧ found.holder = some client ∧
      found.value = tuple := by
  unfold commit at committed
  split at committed
  · rename_i found left extracted
    cases committed
    obtain ⟨before, behind, split, kept, holds, _⟩ := extract_found extracted
    simp only [Bool.and_eq_true, beq_iff_eq] at holds
    exact ⟨before, found, behind, split, by rw [kept], holds.1, holds.2⟩
  · cases committed

theorem commit_of_held {space : Space} {tuple : String} {client : ClientId}
    (held : tuple ∈ space.holdings client) : ∃ next, space.commit tuple client = .ok next := by
  unfold commit
  split
  · exact ⟨_, rfl⟩
  · rename_i missing
    obtain ⟨entry, member, own, same⟩ := mem_holdings.mp held
    have miss := extract_missing missing entry member
    simp [own, same] at miss

theorem holdings_commit_own {space next : Space} {tuple : String} {client : ClientId}
    (committed : space.commit tuple client = .ok next) : next.holdings client = [] := by
  obtain ⟨before, found, behind, _, rfl, _⟩ := commit_split committed
  exact holdings_release_own _ _

theorem holdings_commit_other {space next : Space} {tuple : String} {client other : ClientId}
    (committed : space.commit tuple other = .ok next) (different : other ≠ client) :
    next.holdings client = space.holdings client := by
  obtain ⟨before, found, behind, split, rfl, holder, _⟩ := commit_split committed
  rw [holdings_release_other _ different]
  simp [holdings, split, holder, different]

/-! ## Copies -/

@[simp] theorem values_release (space : Space) (client : ClientId) :
    (space.release client).values = space.values := by
  simp [values, release, Entry.freed_from_value]

@[simp] theorem values_reserve (space : Space) (pattern : Pattern) (client : ClientId) :
    (space.reserve pattern client).2.values = space.values := by
  simp only [values, reserve, List.map_map]
  apply List.map_congr_left
  intro entry _
  simp only [Function.comp_apply]
  split <;> rfl

@[simp] theorem values_insert (space : Space) (tuple : String) :
    (space.insert tuple).values = space.values ++ [tuple] := by
  simp [values, insert]

theorem values_commit {space next : Space} {tuple : String} {client : ClientId}
    (committed : space.commit tuple client = .ok next) :
    space.values.Perm (tuple :: next.values) := by
  obtain ⟨before, found, behind, split, rfl, _, same⟩ := commit_split committed
  rw [values_release]
  simp [values, split, same, List.perm_middle]

@[simp] theorem copies_release (space : Space) (client : ClientId) (tuple : String) :
    (space.release client).copies tuple = space.copies tuple := by
  simp [copies]

@[simp] theorem copies_reserve (space : Space) (pattern : Pattern) (client : ClientId)
    (tuple : String) : (space.reserve pattern client).2.copies tuple = space.copies tuple := by
  simp [copies]

@[simp] theorem copies_insert (space : Space) (put tuple : String) :
    (space.insert put).copies tuple = space.copies tuple + if put = tuple then 1 else 0 := by
  simp [copies, List.count_append, List.count_singleton]

theorem copies_commit {space next : Space} {removed : String} {client : ClientId}
    (committed : space.commit removed client = .ok next) (tuple : String) :
    next.copies tuple + (if removed = tuple then 1 else 0) = space.copies tuple := by
  unfold copies
  rw [(values_commit committed).count_eq tuple, List.count_cons]
  simp

end Space

end TupleSpace
