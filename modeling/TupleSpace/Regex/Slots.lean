/-!
# Slots

A table from numbers below a power of two to values, kept as a binary tree whose branches follow
the binary digits of a number, the lowest first. A slot holds the value that was put there last.
-/

namespace TupleSpace.Regex

inductive Slots (α : Type)
  | vacant
  | value (content : α)
  | fork (even odd : Slots α)
deriving Repr, Inhabited

namespace Slots

variable {α : Type}

def get? : Slots α → Nat → Option α
  | vacant, _ => none
  | value content, _ => some content
  | fork even odd, slot => if slot % 2 = 0 then even.get? (slot / 2) else odd.get? (slot / 2)

def put : (digits : Nat) → Slots α → (slot : Nat) → α → Slots α
  | 0, _, _, content => value content
  | digits + 1, slots, slot, content =>
      let (even, odd) := match slots with
        | fork even odd => (even, odd)
        | _ => (vacant, vacant)
      if slot % 2 = 0 then fork (even.put digits (slot / 2) content) odd
      else fork even (odd.put digits (slot / 2) content)

theorem get?_put_self (digits : Nat) (slots : Slots α) (slot : Nat) (content : α) :
    (slots.put digits slot content).get? slot = some content := by
  induction digits generalizing slots slot with
  | zero => rfl
  | succ digits induction =>
      simp only [put]
      split <;> rename_i parity <;> simp [get?, parity, induction]

end Slots

end TupleSpace.Regex
