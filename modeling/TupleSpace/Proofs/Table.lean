import Mathlib.Data.List.Nodup
import Mathlib.Data.List.Perm.Basic

/-!
# Tables by name

Replicas, holdings and tuples on hand are kept in lists of rows, each with the key it is found
under. Where no key stands twice, a list behaves as a function from keys, and a change of one row
as a change of that function at one key.
-/

namespace TupleSpace.Table

variable {α κ : Type}

def place (name : String) (content : α) (table : List (String × α)) : List (String × α) :=
  table.map (fun row => if row.1 = name then (name, content) else row)

@[simp] theorem names_place (name : String) (content : α) (table : List (String × α)) :
    (place name content table).map (·.1) = table.map (·.1) := by
  simp only [place, List.map_map]
  apply List.map_congr_left
  intro row _
  simp only [Function.comp_apply]
  split <;> simp_all

section

variable [BEq κ] [LawfulBEq κ] {name : κ} {content : α} {table other : List (κ × α)}

theorem lookup_isSome : (table.lookup name).isSome ↔ name ∈ table.map (·.1) := by
  rw [List.lookup_isSome_iff, List.mem_map]
  simp only [beq_iff_eq]
  exact ⟨fun ⟨row, member, same⟩ => ⟨row, member, same.symm⟩,
    fun ⟨row, member, same⟩ => ⟨row, member, same.symm⟩⟩

theorem lookup_none : table.lookup name = none ↔ name ∉ table.map (·.1) := by
  rw [← lookup_isSome, Option.not_isSome_iff_eq_none]

theorem mem_of_lookup (found : table.lookup name = some content) : (name, content) ∈ table := by
  obtain ⟨before, behind, split, _⟩ := List.lookup_eq_some_iff.mp found
  simp [split]

theorem lookup_of_mem (distinct : (table.map (·.1)).Nodup) (member : (name, content) ∈ table) :
    table.lookup name = some content := by
  induction table with
  | nil => simp at member
  | cons row rest induction =>
      obtain ⟨key, old⟩ := row
      rw [List.map_cons, List.nodup_cons] at distinct
      rcases List.mem_cons.mp member with same | later
      · cases same
        simp
      · have apart : (name == key) = false := by
          rw [beq_eq_false_iff_ne]
          rintro rfl
          exact distinct.1 (List.mem_map.mpr ⟨_, later, rfl⟩)
        rw [List.lookup_cons, apart]
        exact induction distinct.2 later

theorem lookup_perm (distinct : (table.map (·.1)).Nodup) (same : table.Perm other) (name : κ) :
    table.lookup name = other.lookup name := by
  have distinct_ : (other.map (·.1)).Nodup := (same.map _).nodup_iff.mp distinct
  cases found : table.lookup name with
  | none =>
      have absent : name ∉ other.map (·.1) :=
        fun member => lookup_none.mp found ((same.map _).mem_iff.mpr member)
      exact (lookup_none.mpr absent).symm
  | some content =>
      exact (lookup_of_mem distinct_ (same.mem_iff.mp (mem_of_lookup found))).symm

end

theorem place_absent {name : String} (content : α) {table : List (String × α)}
    (absent : name ∉ table.map (·.1)) : place name content table = table := by
  unfold place
  conv_rhs => rw [← List.map_id table]
  apply List.map_congr_left
  intro row member
  rw [if_neg]
  · rfl
  · rintro rfl
    exact absent (List.mem_map.mpr ⟨row, member, rfl⟩)

theorem place_found {name : String} {content : α} {table : List (String × α)}
    (distinct : (table.map (·.1)).Nodup) (found : table.lookup name = some content) :
    place name content table = table := by
  unfold place
  conv_rhs => rw [← List.map_id table]
  apply List.map_congr_left
  rintro ⟨other, stored⟩ member
  split
  · rename_i same
    change other = name at same
    subst other
    rw [lookup_of_mem distinct member] at found
    cases found
    rfl
  · rfl

theorem lookup_place (name other : String) (content : α) (table : List (String × α)) :
    (place name content table).lookup other =
      if other = name then (table.lookup other).map (fun _ => content)
      else table.lookup other := by
  induction table with
  | nil => simp [place]
  | cons row rest induction =>
      obtain ⟨key, old⟩ := row
      unfold place at induction ⊢
      rw [List.map_cons]
      by_cases here : key = name
      · subst key
        by_cases same : other = name
        · simp [same]
        · have apart : (other == name) = false := by simpa using same
          rw [if_neg same] at induction ⊢
          simp [List.lookup_cons, apart, induction]
      · rw [if_neg here]
        by_cases there : other = key
        · simp [here, there]
        · have apart : (other == key) = false := by simpa using there
          simp only [List.lookup_cons, apart]
          exact induction

theorem lookup_same (content : α) (names : List String) (name : String) :
    (names.map fun other => (other, content)).lookup name =
      if name ∈ names then some content else none := by
  induction names with
  | nil => rfl
  | cons first rest induction =>
      rw [List.map_cons, List.lookup_cons]
      by_cases here : name = first
      · simp [here]
      · have apart : (name == first) = false := by simpa using here
        simp [apart, here, induction]

theorem set_eq_place {index : Nat} {name : String} {old : α} (content : α)
    {table : List (String × α)} (distinct : (table.map (·.1)).Nodup)
    (found : table[index]? = some (name, old)) :
    table.set index (name, content) = place name content table := by
  induction table generalizing index with
  | nil => simp at found
  | cons row rest induction =>
      rw [List.map_cons, List.nodup_cons] at distinct
      cases index with
      | zero =>
          simp only [List.getElem?_cons_zero, Option.some.injEq] at found
          subst row
          have others := place_absent content distinct.1
          unfold place at others
          simp [place, others]
      | succ index =>
          rw [List.getElem?_cons_succ] at found
          have later : name ∈ rest.map (·.1) :=
            List.mem_map.mpr ⟨_, List.mem_of_getElem? found, rfl⟩
          have apart : row.1 ≠ name := fun same => distinct.1 (same ▸ later)
          have tail := induction distinct.2 found
          simpa [place, apart] using tail

end TupleSpace.Table
