import Mathlib.Data.List.Perm.Basic
import TupleSpace.Sorting

/-!
# Sorting by name

Sorting rearranges a list and leaves no freedom: lists of the same names sort alike.
-/

namespace TupleSpace.Sorting

variable {α : Type}

theorem insert_perm (le : α → α → Bool) (a : α) (list : List α) :
    (insert le a list).Perm (a :: list) := by
  induction list with
  | nil => exact List.Perm.refl _
  | cons b rest induction =>
      unfold insert
      split
      · exact List.Perm.refl _
      · exact (induction.cons b).trans (List.Perm.swap a b rest)

theorem sort_perm (le : α → α → Bool) (list : List α) : (sort le list).Perm list := by
  induction list with
  | nil => exact List.Perm.refl _
  | cons a rest induction => exact (insert_perm le a _).trans (induction.cons a)

theorem insert_ordered (le : α → α → Bool) (total : ∀ a b, le a b = true ∨ le b a = true)
    (transitive : ∀ a b c, le a b = true → le b c = true → le a c = true) (a : α)
    {list : List α} (ordered : list.Pairwise (le · · = true)) :
    (insert le a list).Pairwise (le · · = true) := by
  induction list with
  | nil => exact List.pairwise_singleton _ _
  | cons b rest induction =>
      have tail := List.pairwise_cons.mp ordered
      unfold insert
      split
      · rename_i before
        refine List.pairwise_cons.mpr ⟨?_, ordered⟩
        intro c member
        rcases List.mem_cons.mp member with rfl | later
        · exact before
        · exact transitive a b c before (tail.1 c later)
      · rename_i notBefore
        refine List.pairwise_cons.mpr ⟨?_, induction tail.2⟩
        intro c member
        rcases List.mem_cons.mp ((insert_perm le a rest).mem_iff.mp member) with rfl | later
        · exact (total c b).resolve_left notBefore
        · exact tail.1 c later

theorem sort_ordered (le : α → α → Bool) (total : ∀ a b, le a b = true ∨ le b a = true)
    (transitive : ∀ a b c, le a b = true → le b c = true → le a c = true) (list : List α) :
    (sort le list).Pairwise (le · · = true) := by
  induction list with
  | nil => exact List.Pairwise.nil
  | cons a rest induction => exact insert_ordered le total transitive a induction

/-- Of elements that an order does not tell apart, sorting leaves the first one first. -/
theorem find_insert {le : α → α → Bool} {test : α → Bool} {a : α}
    (alike : ∀ b, test a = true → test b = true → le a b = true) (list : List α) :
    (insert le a list).find? test = (a :: list).find? test := by
  induction list with
  | nil => rfl
  | cons b rest induction =>
      unfold insert
      split
      · rfl
      · rename_i behind
        rw [List.find?_cons, induction, List.find?_cons, List.find?_cons, List.find?_cons]
        cases here : test a with
        | false => rfl
        | true =>
            cases there : test b with
            | false => rfl
            | true => exact absurd (alike b here there) behind

theorem find_sort {le : α → α → Bool} {test : α → Bool}
    (alike : ∀ a b, test a = true → test b = true → le a b = true) (list : List α) :
    (sort le list).find? test = list.find? test := by
  induction list with
  | nil => rfl
  | cons a rest induction =>
      rw [sort, find_insert (alike a), List.find?_cons, List.find?_cons, induction]

theorem name_order_iff (a b : String) : nameOrder a b = true ↔ a ≤ b := by
  rw [nameOrder, Bool.not_eq_true', decide_eq_false_iff_not]
  rfl

theorem name_order_total (a b : String) : nameOrder a b = true ∨ nameOrder b a = true := by
  simp only [name_order_iff]
  exact String.le_total a b

theorem name_order_trans (a b c : String) (first : nameOrder a b = true)
    (second : nameOrder b c = true) : nameOrder a c = true := by
  rw [name_order_iff] at *
  exact String.le_trans first second

/-- Sorted names depend on the names alone and not on the order they came in. -/
theorem sorted_names_eq {left right : List String} (same : left.Perm right) :
    sort nameOrder left = sort nameOrder right := by
  refine List.Perm.eq_of_pairwise ?_
    (sort_ordered nameOrder name_order_total name_order_trans left)
    (sort_ordered nameOrder name_order_total name_order_trans right)
    ((sort_perm nameOrder left).trans (same.trans (sort_perm nameOrder right).symm))
  intro a b _ _ first second
  rw [name_order_iff] at first second
  exact String.le_antisymm first second

end TupleSpace.Sorting
