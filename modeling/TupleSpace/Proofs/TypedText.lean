import Mathlib.Data.List.Induction
import TupleSpace.Proofs.WrittenText
import TupleSpace.Text.Blank

/-!
# Words and numbers as people type them

People put blanks where they like and write a number in more than one way. A text falls into words
in one way only, whatever blanks are around them; an unsigned number is read from any of its
spellings and from nothing else; and two spellings of one number differ in a plus sign and in
leading zeros.
-/

namespace TupleSpace.Text

/-! ## Words -/

/-- A text consists of these words, with blanks between them and perhaps at either end. -/
inductive Spaced : List (List Char) → List Char → Prop
  | nil {gap : List Char} (blank : ∀ c ∈ gap, isBlank c = true) : Spaced [] gap
  /-- Behind a word the text ends or a blank follows. -/
  | cons {gap word rest : List Char} {later : List (List Char)}
      (blank : ∀ c ∈ gap, isBlank c = true) (something : word ≠ [])
      (solid : ∀ c ∈ word, isBlank c = false) (apart : ∀ c ∈ rest.head?, isBlank c = true)
      (others : Spaced later rest) : Spaced (word :: later) (gap ++ word ++ rest)

namespace Spaced

variable {found : List (List Char)} {text : List Char}

theorem behind_blank {c : Char} (blank : isBlank c = true) (spaced : Spaced found text) :
    Spaced found (c :: text) := by
  cases spaced with
  | nil others => exact .nil (List.forall_mem_cons.mpr ⟨blank, others⟩)
  | cons others something solid apart later =>
      exact .cons (List.forall_mem_cons.mpr ⟨blank, others⟩) something solid apart later

theorem word_solid (spaced : Spaced found text) {word : List Char} (member : word ∈ found) :
    word ≠ [] ∧ ∀ c ∈ word, isBlank c = false := by
  induction spaced with
  | nil => cases member
  | cons blank something solid apart others induction =>
      rcases List.mem_cons.mp member with rfl | later
      · exact ⟨something, solid⟩
      · exact induction later

end Spaced

theorem spaced_joined {found : List (List Char)}
    (solid : ∀ word ∈ found, word ≠ [] ∧ ∀ c ∈ word, isBlank c = false) :
    Spaced found (found.flatMap (' ' :: ·)) := by
  induction found with
  | nil => exact .nil (by simp)
  | cons word later induction =>
      obtain ⟨here, others⟩ := List.forall_mem_cons.mp solid
      have blank : ∀ c ∈ [' '], isBlank c = true := List.forall_mem_singleton.mpr rfl
      apply Spaced.cons blank here.1 here.2
      · cases later with
        | nil => simp
        | cons => simpa using blank
      · exact induction others

section

variable {gap word rest : List Char}

theorem words_from_spaced (text : List Char) {start : List Char}
    (solid : ∀ c ∈ start, isBlank c = false) :
    Spaced (wordsFrom start text) (start.reverse ++ text) := by
  have bare : ∀ c ∈ ([] : List Char), isBlank c = true := by simp
  have turned {start : List Char} (solid : ∀ c ∈ start, isBlank c = false) :
      ∀ c ∈ start.reverse, isBlank c = false := fun c member => solid c (List.mem_reverse.mp member)
  induction text generalizing start with
  | nil =>
      rw [wordsFrom]
      split
      · rename_i empty
        rw [List.isEmpty_iff.mp empty]
        exact .nil (by simp)
      · rename_i something
        have begun : start.reverse ≠ [] := by simpa using something
        exact .cons bare begun (turned solid) (by simp) (.nil bare)
  | cons c rest induction =>
      rw [wordsFrom]
      by_cases blank : isBlank c = true
      · rw [if_pos blank]
        have others : Spaced (wordsFrom [] rest) ([] ++ rest) := induction (by simp)
        have behind := others.behind_blank blank
        split
        · rename_i empty
          rw [List.isEmpty_iff.mp empty]
          exact behind
        · rename_i something
          have begun : start.reverse ≠ [] := by simpa using something
          exact .cons bare begun (turned solid) (by simpa using blank) behind
      · rw [if_neg blank]
        have longer : ∀ d ∈ c :: start, isBlank d = false :=
          List.forall_mem_cons.mpr ⟨by simpa using blank, solid⟩
        simpa using induction longer

theorem words_behind_gap (blank : ∀ c ∈ gap, isBlank c = true) (text : List Char) :
    wordsFrom [] (gap ++ text) = wordsFrom [] text := by
  induction gap with
  | nil => rfl
  | cons c gap induction =>
      obtain ⟨here, later⟩ := List.forall_mem_cons.mp blank
      rw [List.cons_append, wordsFrom, if_pos here]
      exact induction later

theorem words_from_solid (start : List Char) (solid : ∀ c ∈ word, isBlank c = false) :
    wordsFrom start (word ++ rest) = wordsFrom (word.reverse ++ start) rest := by
  induction word generalizing start with
  | nil => rfl
  | cons c word induction =>
      obtain ⟨here, later⟩ := List.forall_mem_cons.mp solid
      rw [List.cons_append, wordsFrom, if_neg (by simp [here]), induction _ later]
      simp

theorem words_from_end (something : word ≠ []) (apart : ∀ c ∈ rest.head?, isBlank c = true) :
    wordsFrom word.reverse rest = word :: wordsFrom [] rest := by
  cases rest with
  | nil => simp [wordsFrom, something]
  | cons c rest => simp [wordsFrom, something, apart c rfl]

theorem words_eq_iff {text : List Char} {found : List (List Char)} :
    words text = found ↔ Spaced found text := by
  constructor
  · rintro rfl
    exact words_from_spaced text (by simp)
  · intro spaced
    induction spaced with
    | nil blank => simpa [words, wordsFrom] using words_behind_gap blank []
    | cons blank something solid apart others induction =>
        rw [words, List.append_assoc, words_behind_gap blank, words_from_solid [] solid,
          List.append_nil, words_from_end something apart]
        exact congrArg _ induction

end

/-! ## Numbers -/

structure Denotes (digits : List Char) (number : Nat) : Prop where
  something : digits ≠ []
  decimal : ∀ c ∈ digits, c.isDigit = true
  value : Nat.ofDigitChars 10 digits 0 = number

inductive Numeral : List Char → Nat → Prop
  | plain {digits : List Char} {number : Nat} (denotes : Denotes digits number) :
      Numeral digits number
  | signed {digits : List Char} {number : Nat} (denotes : Denotes digits number) :
      Numeral ('+' :: digits) number

section

variable {digits text : List Char} {number value bound : Nat}

theorem digit_iff {c : Char} : (digit? c).isSome = true ↔ c.isDigit = true := by
  have range : ('0' ≤ c ∧ c ≤ '9') ↔ c.isDigit = true := by
    simp only [Char.isDigit, ge_iff_le, Bool.and_eq_true, decide_eq_true_eq]
    rfl
  rw [← range, digit?]
  split
  · rename_i inside
    exact ⟨fun _ => inside, fun _ => rfl⟩
  · rename_i outside
    exact ⟨fun some => (Bool.false_ne_true some).elim, fun inside => absurd inside outside⟩

theorem digit_range {c : Char} (digit : c.isDigit = true) : 48 ≤ c.toNat ∧ c.toNat ≤ 57 := by
  simpa [Char.isDigit, UInt32.le_iff_toNat_le] using digit

theorem digits_from_iff : digitsFrom? value digits = some number ↔
    (∀ c ∈ digits, c.isDigit = true) ∧ Nat.ofDigitChars 10 digits value = number := by
  constructor
  · intro read
    have decimal : ∀ c ∈ digits, c.isDigit = true := by
      induction digits generalizing value with
      | nil => simp
      | cons c rest induction =>
          obtain ⟨digit, here, later⟩ := Option.bind_eq_some_iff.mp read
          exact List.forall_mem_cons.mpr ⟨digit_iff.mp (by simp [here]), induction later⟩
    rw [Json.natural_of_digits digits value decimal] at read
    exact ⟨decimal, Option.some.inj read⟩
  · rintro ⟨decimal, rfl⟩
    exact Json.natural_of_digits digits value decimal

theorem natural_iff : natural? digits = some number ↔ Denotes digits number := by
  constructor
  · intro read
    cases digits with
    | nil => cases read
    | cons c rest =>
        obtain ⟨decimal, value⟩ := digits_from_iff.mp read
        exact ⟨by simp, decimal, value⟩
  · intro denotes
    have read := digits_from_iff.mpr ⟨denotes.decimal, denotes.value⟩
    cases digits with
    | nil => exact absurd rfl denotes.something
    | cons c rest => exact read

theorem Denotes.unsigned (denotes : Denotes digits number) (rest : List Char) :
    digits ≠ '+' :: rest := by
  rintro rfl
  exact absurd (denotes.decimal '+' List.mem_cons_self) (by decide)

/-- A number is read from its numerals, if it is small enough, and from nothing else. -/
theorem unsigned_iff :
    unsigned? bound text = some number ↔ Numeral text number ∧ number < bound := by
  unfold unsigned?
  rw [Option.filter_eq_some_iff, natural_iff, decide_eq_true_iff]
  apply and_congr_left
  intro _
  constructor
  · intro denotes
    split at denotes
    · exact .signed denotes
    · exact .plain denotes
  · intro numeral
    cases numeral with
    | plain denotes =>
        split
        · rename_i rest
          exact absurd rfl (denotes.unsigned rest)
        · exact denotes
    | signed denotes => exact denotes

end

/-! ## Spellings of one number -/

/-- What may stand before the digits of a number and leave it as it is. -/
inductive Padding : List Char → Prop
  | plain (zeros : Nat) : Padding (List.replicate zeros '0')
  | signed (zeros : Nat) : Padding ('+' :: List.replicate zeros '0')

def Respelled (first second : List Char) : Prop :=
  ∃ padding other digits, Padding padding ∧ Padding other ∧ (∀ c ∈ digits, c.isDigit = true) ∧
    first = padding ++ digits ∧ second = other ++ digits

section

variable {digits others first second : List Char} {number : Nat}

theorem zeros_pad (zeros : Nat) (digits : List Char) (value : Nat) :
    Nat.ofDigitChars 10 (List.replicate zeros '0' ++ digits) 0 = value ↔
      Nat.ofDigitChars 10 digits 0 = value := by
  rw [Nat.ofDigitChars_append, Nat.ofDigitChars_replicate_zero, Nat.mul_zero]

theorem value_concat (digits : List Char) (c : Char) :
    Nat.ofDigitChars 10 (digits ++ [c]) 0 =
      10 * Nat.ofDigitChars 10 digits 0 + (c.toNat - '0'.toNat) := by
  rw [Nat.ofDigitChars_append, Nat.ofDigitChars_cons, Nat.ofDigitChars_nil]

theorem digit_of_value {c d : Char} (first : c.isDigit = true) (second : d.isDigit = true) :
    c.toNat - '0'.toNat < 10 ∧ (c.toNat - '0'.toNat = d.toNat - '0'.toNat → c = d) := by
  have here := digit_range first
  have there := digit_range second
  have zero : '0'.toNat = 48 := rfl
  refine ⟨by omega, fun same => Char.toNat_inj.mp (by omega)⟩

theorem zeros_of_value (decimal : ∀ c ∈ digits, c.isDigit = true)
    (zero : Nat.ofDigitChars 10 digits 0 = 0) : ∃ zeros, digits = List.replicate zeros '0' := by
  induction digits using List.reverseRecOn with
  | nil => exact ⟨0, rfl⟩
  | append_singleton rest c induction =>
      obtain ⟨front, last⟩ := List.forall_mem_append.mp decimal
      rw [value_concat] at zero
      obtain ⟨zeros, rfl⟩ := induction front (by omega)
      have none : c.toNat - '0'.toNat = 0 := by omega
      have same : c = '0' := (digit_of_value (last c List.mem_cons_self) (by decide)).2 none
      exact ⟨zeros + 1, by rw [same, List.replicate_succ']⟩

/-- Digits with the same value differ in leading zeros. -/
theorem zeros_apart (decimal : ∀ c ∈ digits, c.isDigit = true)
    (decimal_ : ∀ c ∈ others, c.isDigit = true)
    (same : Nat.ofDigitChars 10 digits 0 = Nat.ofDigitChars 10 others 0) :
    ∃ zeros more rest, (∀ c ∈ rest, c.isDigit = true) ∧
      digits = List.replicate zeros '0' ++ rest ∧ others = List.replicate more '0' ++ rest := by
  induction digits using List.reverseRecOn generalizing others with
  | nil =>
      obtain ⟨more, rfl⟩ := zeros_of_value decimal_ same.symm
      exact ⟨0, more, [], by simp, by simp, by simp⟩
  | append_singleton front c induction =>
      rcases List.eq_nil_or_concat others with rfl | ⟨front_, d, rfl⟩
      · obtain ⟨zeros, all⟩ := zeros_of_value decimal same
        exact ⟨zeros, 0, [], by simp, by simpa using all, by simp⟩
      · rw [List.concat_eq_append] at decimal_ same ⊢
        obtain ⟨before, last⟩ := List.forall_mem_append.mp decimal
        obtain ⟨before_, last_⟩ := List.forall_mem_append.mp decimal_
        have here := last c List.mem_cons_self
        have there := last_ d List.mem_cons_self
        rw [value_concat, value_concat] at same
        have small := (digit_of_value here there).1
        have small_ := (digit_of_value there here).1
        obtain ⟨zeros, more, rest, plain, rfl, rfl⟩ := induction before before_ (by omega)
        have equal : c = d := (digit_of_value here there).2 (by omega)
        subst equal
        exact ⟨zeros, more, rest ++ [c], List.forall_mem_append.mpr ⟨plain, last⟩, by simp, by simp⟩

theorem Padding.numeral {padding : List Char} (pads : Padding padding)
    (denotes : Denotes digits number) : Numeral (padding ++ digits) number := by
  have padded (zeros : Nat) : Denotes (List.replicate zeros '0' ++ digits) number := by
    refine ⟨?_, ?_, (zeros_pad _ _ _).mpr denotes.value⟩
    · exact List.append_ne_nil_of_right_ne_nil _ denotes.something
    · refine List.forall_mem_append.mpr ⟨?_, denotes.decimal⟩
      intro c member
      rw [List.eq_of_mem_replicate member]
      decide
  cases pads with
  | plain zeros => exact .plain (padded zeros)
  | signed zeros => exact .signed (padded zeros)

theorem Numeral.parts (numeral : Numeral first number) :
    ∃ sign digits, (sign = [] ∨ sign = ['+']) ∧ Denotes digits number ∧ first = sign ++ digits := by
  cases numeral with
  | plain denotes => exact ⟨[], _, .inl rfl, denotes, rfl⟩
  | signed denotes => exact ⟨['+'], _, .inr rfl, denotes, rfl⟩

theorem padding_of_sign {sign : List Char} (signed : sign = [] ∨ sign = ['+']) (zeros : Nat) :
    Padding (sign ++ List.replicate zeros '0') := by
  rcases signed with rfl | rfl
  · exact .plain zeros
  · exact .signed zeros

theorem Numeral.respelled (numeral : Numeral first number) (other : Numeral second number) :
    Respelled first second := by
  obtain ⟨sign, digits, signed, denotes, rfl⟩ := numeral.parts
  obtain ⟨sign_, others, signed_, denotes_, rfl⟩ := other.parts
  obtain ⟨zeros, more, rest, plain, rfl, rfl⟩ :=
    zeros_apart denotes.decimal denotes_.decimal (denotes.value.trans denotes_.value.symm)
  exact ⟨_, _, rest, padding_of_sign signed zeros, padding_of_sign signed_ more, plain,
    by simp, by simp⟩

theorem Padding.value {padding : List Char} (pads : Padding padding)
    (decimal : ∀ c ∈ digits, c.isDigit = true) (numeral : Numeral (padding ++ digits) number) :
    Nat.ofDigitChars 10 digits 0 = number := by
  have unsigned (zeros : Nat) (rest : List Char) :
      List.replicate zeros '0' ++ digits ≠ '+' :: rest := by
    intro same
    have plus : '+' ∈ List.replicate zeros '0' ++ digits := same ▸ List.mem_cons_self
    rcases List.mem_append.mp plus with padded | member
    · exact absurd (List.eq_of_mem_replicate padded) (by decide)
    · exact absurd (decimal '+' member) (by decide)
  cases pads with
  | plain zeros =>
      generalize whole : List.replicate zeros '0' ++ digits = text at numeral
      cases numeral with
      | plain denotes =>
          subst whole
          exact (zeros_pad _ _ _).mp denotes.value
      | signed denotes => exact absurd whole (unsigned zeros _)
  | signed zeros =>
      cases numeral with
      | plain denotes => exact absurd rfl (denotes.unsigned _)
      | signed denotes => exact (zeros_pad _ _ _).mp denotes.value

/-- Every spelling of a positive number is a numeral of it. -/
theorem Respelled.numeral (respelled : Respelled first second) (positive : 0 < number)
    (numeral : Numeral first number) : Numeral second number := by
  obtain ⟨padding, other, digits, pads, pads_, decimal, rfl, rfl⟩ := respelled
  have value := pads.value decimal numeral
  apply pads_.numeral
  refine ⟨?_, decimal, value⟩
  rintro rfl
  rw [← value] at positive
  exact absurd positive (Nat.lt_irrefl 0)

end

end TupleSpace.Text
