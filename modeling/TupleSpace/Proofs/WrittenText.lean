import TupleSpace.Json.Reader
import TupleSpace.Text.Number

/-!
# Written texts and numbers are read back

A text is written with its quotes, backslashes and control characters escaped. The reader makes a
piece of every character, and joins the pieces to the text again. Numbers are written as digits
without a leading zero.
-/

namespace TupleSpace.Json

open TupleSpace.Regex (CharSet.hexValue?)

/-! ## Texts -/

section Pieces

variable {c : Char} (rounds : Nat) (text : List Char)

theorem hex_of_digit : ∀ digit < 16, CharSet.hexValue? (Nat.digitChar digit) = some digit := by
  decide

theorem join_unit {code : Nat} (low : code < 0xD800) (rest : List Piece) :
    joinPieces? (.unit code :: rest) = (joinPieces? rest).map (Char.ofNat code :: ·) := by
  have single : ¬(0xD800 ≤ code ∧ code < 0xE000) := by omega
  have high : ¬(0xD800 ≤ code ∧ code < 0xDC00) := by omega
  have trailing : ¬(0xDC00 ≤ code ∧ code < 0xE000) := by omega
  match rest with
  | [] => simp [joinPieces?, single]
  | .char _ :: _ => simp [joinPieces?, single]
  | .unit _ :: _ => simp [joinPieces?, high, trailing]

theorem read_simple {escape : Char} (plain : escape ≠ 'u')
    (means : simpleEscape? escape = some c) :
    readPieces (rounds + 1) ('\\' :: escape :: text) =
      (readPieces rounds text).map fun (pieces, rest) => (.char c :: pieces, rest) := by
  rw [readPieces, means]
  · cases readPieces rounds text <;> rfl
  · exact plain

theorem read_printable (quote : c ≠ '"') (backslash : c ≠ '\\') (printable : 0x20 ≤ c.toNat) :
    readPieces (rounds + 1) (c :: text) =
      (readPieces rounds text).map fun (pieces, rest) => (.char c :: pieces, rest) := by
  rw [readPieces, if_neg (by omega)]
  · exact quote
  · exact fun _ same => absurd same backslash
  · exact fun _ _ same => absurd same backslash
  · exact fun same => absurd same backslash

theorem read_control (control : c.toNat < 0x20) :
    readPieces (rounds + 1) (['\\', 'u', '0', '0'] ++ hexPair c.toNat ++ text) =
      (readPieces rounds text).map fun (pieces, rest) => (.unit c.toNat :: pieces, rest) := by
  have high := hex_of_digit (c.toNat / 16) (by omega)
  have low := hex_of_digit (c.toNat % 16) (by omega)
  have zero : CharSet.hexValue? '0' = some 0 := by decide
  have unit : readUnit? ('0' :: '0' :: (hexPair c.toNat ++ text)) = some (c.toNat, text) := by
    simp [readUnit?, hexPair, zero, high, low]
    omega
  simp only [List.cons_append, List.nil_append]
  rw [readPieces, unit]
  simp only [Option.bind_eq_bind, Option.bind_some]
  cases readPieces rounds text <;> rfl

end Pieces

/-- The three ways in which a character is written. -/
theorem escaped_cases (c : Char) :
    (∃ escape, escape ≠ 'u' ∧ 0x20 ≤ escape.toNat ∧ simpleEscape? escape = some c ∧
      escapedChar c = ['\\', escape]) ∨
    (c ≠ '"' ∧ c ≠ '\\' ∧ 0x20 ≤ c.toNat ∧ escapedChar c = [c]) ∨
    (c.toNat < 0x20 ∧ escapedChar c = ['\\', 'u', '0', '0'] ++ hexPair c.toNat) := by
  by_cases named : c ∈ ['"', '\\', '\x08', '\x0C', '\n', '\r', '\t']
  · left
    simp only [List.mem_cons, List.not_mem_nil, or_false] at named
    rcases named with rfl | rfl | rfl | rfl | rfl | rfl | rfl
    · exact ⟨'"', by decide⟩
    · exact ⟨'\\', by decide⟩
    · exact ⟨'b', by decide⟩
    · exact ⟨'f', by decide⟩
    · exact ⟨'n', by decide⟩
    · exact ⟨'r', by decide⟩
    · exact ⟨'t', by decide⟩
  · right
    simp only [List.mem_cons, List.not_mem_nil, or_false, not_or] at named
    by_cases printable : 0x20 ≤ c.toNat
    · exact Or.inl ⟨named.1, named.2.1, printable, by simp [escapedChar, named, printable]⟩
    · exact Or.inr ⟨by omega, by simp [escapedChar, named, printable]⟩

theorem read_escaped (c : Char) :
    ∃ piece, (∀ rest, joinPieces? (piece :: rest) = (joinPieces? rest).map (c :: ·)) ∧
      ∀ rounds text, readPieces (rounds + 1) (escapedChar c ++ text) =
        (readPieces rounds text).map fun (pieces, rest) => (piece :: pieces, rest) := by
  rcases escaped_cases c with
    ⟨escape, plain, _, means, same⟩ | ⟨quote, backslash, printable, same⟩ | ⟨control, same⟩ <;>
    rw [same]
  · exact ⟨.char c, fun _ => rfl, fun rounds text => read_simple rounds text plain means⟩
  · exact ⟨.char c, fun _ => rfl,
      fun rounds text => read_printable rounds text quote backslash printable⟩
  · refine ⟨.unit c.toNat, fun rest => ?_, fun rounds text => read_control rounds text control⟩
    rw [join_unit (by omega), Char.ofNat_toNat]

theorem read_pieces (content : List Char) {rounds : Nat} (rest : List Char)
    (enough : (content.flatMap escapedChar).length < rounds) :
    ∃ pieces, joinPieces? pieces = some content ∧
      readPieces rounds (content.flatMap escapedChar ++ '"' :: rest) = some (pieces, rest) := by
  induction content generalizing rounds with
  | nil =>
      obtain ⟨fewer, rfl⟩ := Nat.exists_eq_succ_of_ne_zero (Nat.ne_of_gt enough)
      exact ⟨[], rfl, rfl⟩
  | cons c more induction =>
      obtain ⟨piece, stands, read⟩ := read_escaped c
      have written : 0 < (escapedChar c).length := by
        rcases escaped_cases c with ⟨_, _, _, _, same⟩ | ⟨_, _, _, same⟩ | ⟨_, same⟩ <;> simp [same]
      rw [List.flatMap_cons, List.length_append] at enough
      obtain ⟨fewer, rfl⟩ := Nat.exists_eq_succ_of_ne_zero (Nat.ne_of_gt (Nat.zero_lt_of_lt enough))
      obtain ⟨pieces, joined, others⟩ := induction (show _ < fewer by omega)
      refine ⟨piece :: pieces, ?_, ?_⟩
      · rw [stands, joined]
        rfl
      · rw [List.flatMap_cons, List.append_assoc, read, others]
        rfl

theorem read_text (content rest : List Char) :
    readText (content.flatMap escapedChar ++ '"' :: rest) = some (some content, rest) := by
  have enough : (content.flatMap escapedChar).length <
      (content.flatMap escapedChar ++ '"' :: rest).length + 1 := by
    rw [List.length_append]
    omega
  obtain ⟨pieces, joined, read⟩ := read_pieces content rest enough
  simp only [readText, read, Option.map_some, joined]

theorem printable_text (content : List Char) : ∀ c ∈ encodeText content, 0x20 ≤ c.toNat := by
  have hex : ∀ digit < 16, 0x20 ≤ (Nat.digitChar digit).toNat := by decide
  simp only [encodeText, List.mem_append, List.mem_cons, List.mem_flatMap, List.not_mem_nil,
    or_false]
  rintro c ((rfl | ⟨source, _, inside⟩) | rfl)
  · decide
  · rcases escaped_cases source with ⟨escape, _, printable, _, same⟩ | ⟨_, _, printable, same⟩ |
      ⟨control, same⟩ <;> rw [same] at inside
    · rcases List.mem_cons.mp inside with rfl | last
      · decide
      · exact List.mem_singleton.mp last ▸ printable
    · exact List.mem_singleton.mp inside ▸ printable
    · simp only [hexPair, List.mem_append, List.mem_cons, List.not_mem_nil, or_false] at inside
      rcases inside with (rfl | rfl | rfl | rfl) | (rfl | rfl)
      · decide
      · decide
      · decide
      · decide
      · exact hex _ (by omega)
      · exact hex _ (by omega)
  · decide

/-! ## Numbers -/

theorem natural_of_digits (digits : List Char) (value : Nat)
    (plain : ∀ c ∈ digits, c.isDigit = true) :
    Text.digitsFrom? value digits = some (Nat.ofDigitChars 10 digits value) := by
  induction digits generalizing value with
  | nil => rfl
  | cons c rest induction =>
      have digit : Text.digit? c = some (c.toNat - '0'.toNat) := by
        have range := plain c List.mem_cons_self
        simp only [Char.isDigit, ge_iff_le, Bool.and_eq_true, decide_eq_true_eq] at range
        exact if_pos range
      rw [Text.digitsFrom?, digit, Option.bind_some, Nat.ofDigitChars_cons, Nat.mul_comm]
      exact induction _ fun c member => plain c (List.mem_cons_of_mem _ member)

theorem digits_of_number (number : Nat) : ∀ c ∈ encodeNumber number, c.isDigit = true :=
  fun _ member => Nat.isDigit_of_mem_toDigits (by decide) (by decide) member

theorem natural_number (number : Nat) : Text.natural? (encodeNumber number) = some number := by
  have value := natural_of_digits (encodeNumber number) 0 (digits_of_number number)
  rw [encodeNumber, Nat.ofDigitChars_ten_toDigits] at value
  unfold Text.natural? encodeNumber
  split
  · rename_i empty
    exact absurd empty Nat.toDigits_ne_nil
  · exact value

theorem head_of_number {number : Nat} (positive : 0 < number) :
    (Nat.toDigits 10 number).head? ≠ some '0' := by
  induction number using Nat.strongRecOn with
  | _ number induction =>
      rw [Nat.toDigits_eq_if (by decide)]
      split
      case isTrue small =>
        have digits : ∀ digit < 10, 0 < digit → [Nat.digitChar digit].head? ≠ some '0' := by
          decide
        exact digits number small positive
      case isFalse large =>
        have shorter := induction (number / 10) (by omega) (by omega)
        rw [List.head?_append, Option.or_of_isSome (by simp [Nat.toDigits_ne_nil])]
        exact shorter

def EndsNumber (rest : List Char) : Prop :=
  ∀ c ∈ rest.head?, c.isDigit = false ∧ c ≠ '.' ∧ c ≠ 'e' ∧ c ≠ 'E'

theorem read_digits (number : Nat) {rest : List Char} (ends : EndsNumber rest) :
    readDigits (encodeNumber number ++ rest) = some (encodeNumber number, rest) := by
  have plain := digits_of_number number
  have taken : (encodeNumber number ++ rest).takeWhile Char.isDigit = encodeNumber number := by
    rw [List.takeWhile_append_of_pos plain]
    cases rest with
    | nil => simp
    | cons c rest => simp [(ends c rfl).1]
  have dropped : (encodeNumber number ++ rest).dropWhile Char.isDigit = rest := by
    rw [List.dropWhile_append_of_pos plain]
    cases rest with
    | nil => rfl
    | cons c rest => simp [(ends c rfl).1]
  unfold readDigits
  rw [taken, dropped]
  split
  · rename_i empty
    exact absurd empty Nat.toDigits_ne_nil
  · rfl

theorem read_number (number : Nat) {rest : List Char} (ends : EndsNumber rest) :
    readNumber (encodeNumber number ++ rest) = some (encodeNumber number, rest) := by
  have integer : readInteger (encodeNumber number ++ rest) = some (encodeNumber number, rest) := by
    unfold readInteger
    rw [read_digits number ends]
    simp only [Option.bind_eq_bind, Option.bind_some]
    rw [if_neg]
    rcases Nat.eq_zero_or_pos number with rfl | positive
    · decide
    · have head := head_of_number positive
      simp [encodeNumber, head]
  have fraction : readFraction rest = some ([], rest) := by
    unfold readFraction
    split
    · exact absurd rfl (ends _ rfl).2.1
    · rfl
  have exponent : readExponent rest = some ([], rest) := by
    unfold readExponent
    split
    · obtain ⟨_, _, small, large⟩ := ends _ rfl
      rw [if_neg (by simp [small, large])]
    · rfl
  have unsigned : ∀ behind, encodeNumber number ++ rest ≠ '-' :: behind := by
    intro behind same
    have plain := digits_of_number number
    cases written : encodeNumber number with
    | nil => exact Nat.toDigits_ne_nil written
    | cons c more =>
        rw [written] at same plain
        obtain ⟨rfl, _⟩ := List.cons.inj same
        exact absurd (plain _ List.mem_cons_self) (by decide)
  unfold readNumber
  split
  rename_i signed
  split at signed
  · rename_i same
    exact absurd same (unsigned _)
  · cases signed
    simp [integer, fraction, exponent]

end TupleSpace.Json
