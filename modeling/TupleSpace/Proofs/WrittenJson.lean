import Mathlib.Data.List.TakeWhile
import TupleSpace.Proofs.WrittenText

/-!
# Written values are read back

Texts, numbers, arrays and objects are written so that the reader gets the value back and goes on
behind it. What is written has no control characters, and so fits on a line.
-/

namespace TupleSpace.Json

structure Writes (text : List Char) (value : Value) : Prop where
  /-- It starts with a character that is neither blank nor a closing bracket. -/
  opens : ∃ c rest, text = c :: rest ∧ 0x20 < c.toNat ∧ c.toNat < 0x7F ∧ c ≠ ']'
  printable : ∀ c ∈ text, 0x20 ≤ c.toNat
  /-- The reader gets the value from it, whatever follows. -/
  reads : ∀ {rounds : Nat} {rest : List Char}, text.length ≤ rounds → EndsNumber rest →
    readValue rounds (text ++ rest) = some (value, rest)

/-! ## Space -/

theorem visible_of_space {c : Char} (visible : 0x20 < c.toNat) : isSpace c = false := by
  simp only [isSpace, Bool.or_eq_false_iff, beq_eq_false_iff_ne]
  refine ⟨⟨⟨?_, ?_⟩, ?_⟩, ?_⟩ <;>
    rintro rfl <;> revert visible <;> decide

theorem skip_visible {c : Char} (visible : 0x20 < c.toNat) (rest : List Char) :
    skipSpace (c :: rest) = c :: rest := by
  rw [skipSpace, List.dropWhile_cons, visible_of_space visible]
  rfl

theorem ends_of_mark {c : Char} (mark : c ∈ [',', ']', '\x7d', '\n']) (rest : List Char) :
    EndsNumber (c :: rest) := by
  intro other same
  cases same
  simp only [List.mem_cons, List.not_mem_nil, or_false] at mark
  rcases mark with rfl | rfl | rfl | rfl <;> decide

/-! ## Texts and numbers -/

theorem writes_text (content : List Char) :
    Writes (encodeText content) (.text (some content)) := by
  constructor
  case opens => exact ⟨'"', _, rfl, by decide⟩
  case printable => exact printable_text content
  case reads =>
    intro rounds rest enough _
    obtain ⟨fewer, rfl⟩ := Nat.exists_eq_succ_of_ne_zero (n := rounds) (by
      rintro rfl
      simp [encodeText] at enough)
    have written : encodeText content ++ rest =
        '"' :: (content.flatMap escapedChar ++ '"' :: rest) := by
      simp [encodeText]
    rw [written, readValue, skip_visible (by decide)]
    simp only [read_text, Option.map_some]

theorem writes_number (number : Nat) :
    Writes (encodeNumber number) (.number (encodeNumber number)) := by
  have plain := digits_of_number number
  have range : ∀ c : Char, c.isDigit = true → 0x30 ≤ c.toNat ∧ c.toNat ≤ 0x39 := by
    intro c digit
    simpa [Char.isDigit, UInt32.le_iff_toNat_le] using digit
  obtain ⟨c, more, written⟩ := List.exists_cons_of_ne_nil
    (show encodeNumber number ≠ [] from Nat.toDigits_ne_nil)
  have first := plain c (written ▸ List.mem_cons_self)
  have bounds := range c first
  constructor
  case opens =>
    refine ⟨c, more, written, by omega, by omega, ?_⟩
    rintro rfl
    exact absurd first (by decide)
  case printable =>
    intro c member
    have bounds := range c (plain c member)
    omega
  case reads =>
    intro rounds rest enough ends
    have read := read_number number ends
    rw [written] at enough read ⊢
    obtain ⟨fewer, rfl⟩ := Nat.exists_eq_succ_of_ne_zero (Nat.ne_of_gt (Nat.zero_lt_of_lt enough))
    rw [List.cons_append] at read ⊢
    rw [readValue, skip_visible (by omega)]
    split
    case h_7 => rw [read, Option.map_some]
    all_goals
      rename_i same
      obtain ⟨rfl, _⟩ := List.cons.inj same
      exact absurd first (by decide)

/-! ## Arrays and objects -/

theorem comma_between {item : List Char} {rest : List (List Char)} (more : rest ≠ []) :
    commaSeparated (item :: rest) = item ++ ',' :: commaSeparated rest := by
  cases rest with
  | nil => exact absurd rfl more
  | cons next rest => rfl

theorem printable_separated (texts : List (List Char))
    (printable : ∀ text ∈ texts, ∀ c ∈ text, 0x20 ≤ c.toNat) :
    ∀ c ∈ commaSeparated texts, 0x20 ≤ c.toNat := by
  induction texts with
  | nil => nofun
  | cons text rest induction =>
      have later := induction fun text member => printable text (List.mem_cons_of_mem _ member)
      have first := printable text List.mem_cons_self
      by_cases more : rest = []
      · subst more
        exact first
      · rw [comma_between more]
        intro c member
        rcases List.mem_append.mp member with here | behind
        · exact first c here
        · rcases List.mem_cons.mp behind with rfl | there
          · decide
          · exact later c there

section Steps

variable {text : List Char} {value : Value} {rounds : Nat}

theorem Writes.read_last_item (writes : Writes text value) (enough : text.length ≤ rounds)
    (rest : List Char) :
    readItems (rounds + 1) (text ++ ']' :: rest) = some ([value], rest) := by
  rw [readItems, writes.reads enough (ends_of_mark (by decide) rest)]
  simp only [Option.bind_eq_bind, Option.bind_some]
  rw [skip_visible (by decide)]
  rfl

theorem Writes.read_next_item (writes : Writes text value) (enough : text.length ≤ rounds)
    (rest : List Char) :
    readItems (rounds + 1) (text ++ ',' :: rest) =
      (readItems rounds rest).map fun (items, rest) => (value :: items, rest) := by
  rw [readItems, writes.reads enough (ends_of_mark (by decide) rest)]
  simp only [Option.bind_eq_bind, Option.bind_some]
  rw [skip_visible (by decide)]
  change ((readItems rounds rest).bind fun read => some (value :: read.1, read.2)) = _
  cases readItems rounds rest <;> rfl

theorem Writes.read_member (writes : Writes text value) (enough : text.length ≤ rounds)
    (key : String) {behind : List Char} (ends : EndsNumber behind) :
    readMembers (rounds + 1) (encodeText key.toList ++ ':' :: text ++ behind) =
      match skipSpace behind with
      | '\x7d' :: rest => some ([(some key.toList, value)], rest)
      | ',' :: rest => (readMembers rounds rest).bind fun (members, rest) =>
          some ((some key.toList, value) :: members, rest)
      | _ => none := by
  have shape : encodeText key.toList ++ ':' :: text ++ behind =
      '"' :: (key.toList.flatMap escapedChar ++ '"' :: ':' :: (text ++ behind)) := by
    simp [encodeText]
  rw [shape, readMembers, skip_visible (by decide)]
  simp only [read_text, Option.bind_eq_bind, Option.bind_some]
  rw [skip_visible (by decide)]
  change (readValue rounds (text ++ behind)).bind _ = _
  rw [writes.reads enough ends]
  rfl

theorem Writes.read_last_member (writes : Writes text value) (enough : text.length ≤ rounds)
    (key : String) (rest : List Char) :
    readMembers (rounds + 1) (encodeText key.toList ++ ':' :: text ++ '\x7d' :: rest) =
      some ([(some key.toList, value)], rest) := by
  rw [writes.read_member enough key (ends_of_mark (by decide) rest), skip_visible (by decide)]
  rfl

theorem Writes.read_next_member (writes : Writes text value) (enough : text.length ≤ rounds)
    (key : String) (rest : List Char) :
    readMembers (rounds + 1) (encodeText key.toList ++ ':' :: text ++ ',' :: rest) =
      (readMembers rounds rest).map fun (members, rest) =>
        ((some key.toList, value) :: members, rest) := by
  rw [writes.read_member enough key (ends_of_mark (by decide) rest), skip_visible (by decide)]
  change ((readMembers rounds rest).bind fun read =>
    some ((some key.toList, value) :: read.1, read.2)) = _
  cases readMembers rounds rest <;> rfl

end Steps

/-- Items that are written one after another are read up to the closing bracket. The rounds that
are left stay above the length of the text that is left. -/
theorem read_items {items : List (List Char × Value)} (nonempty : items ≠ [])
    (written : ∀ item ∈ items, Writes item.1 item.2) {rounds : Nat} (rest : List Char)
    (enough : (commaSeparated (items.map (·.1))).length < rounds) :
    readItems rounds (commaSeparated (items.map (·.1)) ++ ']' :: rest) =
      some (items.map (·.2), rest) := by
  induction items generalizing rounds with
  | nil => exact absurd rfl nonempty
  | cons item more induction =>
      have first := written item List.mem_cons_self
      obtain ⟨fewer, rfl⟩ := Nat.exists_eq_succ_of_ne_zero (Nat.ne_of_gt (Nat.zero_lt_of_lt enough))
      by_cases last : more = []
      · subst last
        simp only [List.map_cons, List.map_nil, commaSeparated] at enough ⊢
        exact first.read_last_item (by omega) rest
      · have others : more.map (·.1) ≠ [] := by simpa using last
        rw [List.map_cons, comma_between others] at enough ⊢
        simp only [List.length_append, List.length_cons] at enough
        have later := induction last
          (fun item member => written item (List.mem_cons_of_mem _ member))
          (show _ < fewer by omega)
        rw [List.append_assoc, List.cons_append, first.read_next_item (by omega), later]
        rfl

theorem read_members {members : List (String × List Char × Value)} (nonempty : members ≠ [])
    (written : ∀ member ∈ members, Writes member.2.1 member.2.2) {rounds : Nat}
    (rest : List Char)
    (enough : (commaSeparated (members.map fun member =>
      encodeText member.1.toList ++ ':' :: member.2.1)).length < rounds) :
    readMembers rounds (commaSeparated (members.map fun member =>
        encodeText member.1.toList ++ ':' :: member.2.1) ++ '\x7d' :: rest) =
      some (members.map fun member => (some member.1.toList, member.2.2), rest) := by
  induction members generalizing rounds with
  | nil => exact absurd rfl nonempty
  | cons member more induction =>
      have first := written member List.mem_cons_self
      obtain ⟨fewer, rfl⟩ := Nat.exists_eq_succ_of_ne_zero (Nat.ne_of_gt (Nat.zero_lt_of_lt enough))
      by_cases last : more = []
      · subst last
        simp only [List.map_cons, List.map_nil, commaSeparated] at enough ⊢
        simp only [List.length_append, List.length_cons] at enough
        exact first.read_last_member (by omega) member.1 rest
      · have others : (more.map fun member =>
            encodeText member.1.toList ++ ':' :: member.2.1) ≠ [] := by simpa using last
        rw [List.map_cons, comma_between others] at enough ⊢
        simp only [List.length_append, List.length_cons] at enough
        have later := induction last
          (fun item member => written item (List.mem_cons_of_mem _ member))
          (show _ < fewer by omega)
        rw [List.append_assoc _ (',' :: _), List.cons_append,
          first.read_next_member (by omega), later]
        rfl

theorem read_array (rounds : Nat) (rest : List Char) :
    readValue (rounds + 1) ('[' :: rest) =
      match skipSpace rest with
      | ']' :: rest => some (.array [], rest)
      | rest => (readItems rounds rest).map fun (items, rest) => (.array items, rest) := by
  rw [readValue, skip_visible (by decide)]
  rfl

theorem read_object (rounds : Nat) (rest : List Char) :
    readValue (rounds + 1) ('\x7b' :: rest) =
      match skipSpace rest with
      | '\x7d' :: rest => some (.object [], rest)
      | rest => (readMembers rounds rest).map fun (members, rest) => (.object members, rest) := by
  rw [readValue, skip_visible (by decide)]
  rfl

theorem opens_separated {text : List Char} {value : Value} (more : List (List Char))
    (first : Writes text value) :
    ∃ c rest, commaSeparated (text :: more) = c :: rest ∧ 0x20 < c.toNat ∧ c ≠ ']' := by
  obtain ⟨c, rest, rfl, visible, _, other⟩ := first.opens
  cases more with
  | nil => exact ⟨c, rest, rfl, visible, other⟩
  | cons next more => exact ⟨c, _, rfl, visible, other⟩

theorem writes_array (items : List (List Char × Value))
    (written : ∀ item ∈ items, Writes item.1 item.2) :
    Writes (encodeArray (items.map (·.1))) (.array (items.map (·.2))) := by
  constructor
  case opens => exact ⟨'[', _, rfl, by decide⟩
  case printable =>
    have inner := printable_separated (items.map (·.1)) (by
      intro text member
      obtain ⟨item, inside, rfl⟩ := List.mem_map.mp member
      exact (written item inside).printable)
    simp only [encodeArray, List.cons_append, List.mem_cons, List.mem_append, List.not_mem_nil,
      or_false]
    rintro c (rfl | inside | rfl)
    · decide
    · exact inner c inside
    · decide
  case reads =>
    intro rounds rest enough _
    have shape : encodeArray (items.map (·.1)) ++ rest =
        '[' :: (commaSeparated (items.map (·.1)) ++ ']' :: rest) := by
      simp [encodeArray]
    have length : (encodeArray (items.map (·.1))).length =
        (commaSeparated (items.map (·.1))).length + 2 := by
      simp [encodeArray]
    obtain ⟨fewer, rfl⟩ := Nat.exists_eq_succ_of_ne_zero (n := rounds) (by omega)
    rw [shape, read_array]
    cases items with
    | nil =>
        rw [List.map_nil, commaSeparated, List.nil_append, skip_visible (by decide)]
        rfl
    | cons item more =>
        have read := read_items (List.cons_ne_nil item more) written rest
          (show _ < fewer by omega)
        obtain ⟨c, behind, opening, visible, other⟩ :=
          opens_separated (more.map (·.1)) (written item List.mem_cons_self)
        rw [List.map_cons, opening, List.cons_append] at read ⊢
        rw [skip_visible visible]
        split
        · rename_i same
          exact absurd (List.cons.inj same).1 other
        · rw [read, Option.map_some]

theorem writes_object (members : List (String × List Char × Value))
    (written : ∀ member ∈ members, Writes member.2.1 member.2.2) :
    Writes (encodeObject (members.map fun member => (member.1, member.2.1)))
      (.object (members.map fun member => (some member.1.toList, member.2.2))) := by
  have shape : encodeObject (members.map fun member => (member.1, member.2.1)) =
      '\x7b' :: (commaSeparated (members.map fun member =>
        encodeText member.1.toList ++ ':' :: member.2.1) ++ ['\x7d']) := by
    simp [encodeObject, Function.comp_def]
  rw [shape]
  constructor
  case opens => exact ⟨'\x7b', _, rfl, by decide⟩
  case printable =>
    have inner := printable_separated (members.map fun member =>
        encodeText member.1.toList ++ ':' :: member.2.1) (by
      intro text inside c member
      obtain ⟨row, present, rfl⟩ := List.mem_map.mp inside
      rcases List.mem_append.mp member with key | behind
      · exact printable_text _ c key
      · rcases List.mem_cons.mp behind with rfl | value
        · decide
        · exact (written row present).printable c value)
    simp only [List.mem_cons, List.mem_append, List.not_mem_nil, or_false]
    rintro c (rfl | inside | rfl)
    · decide
    · exact inner c inside
    · decide
  case reads =>
    intro rounds rest enough _
    simp only [List.length_cons, List.length_append, List.length_nil] at enough
    obtain ⟨fewer, rfl⟩ := Nat.exists_eq_succ_of_ne_zero (n := rounds) (by omega)
    rw [List.cons_append, List.append_assoc, List.singleton_append, read_object]
    cases members with
    | nil =>
        rw [List.map_nil, commaSeparated, List.nil_append, skip_visible (by decide)]
        rfl
    | cons member more =>
        have read := read_members (List.cons_ne_nil member more) written rest
          (show _ < fewer by omega)
        have opening : ∃ behind, commaSeparated ((member :: more).map fun member =>
            encodeText member.1.toList ++ ':' :: member.2.1) = '"' :: behind := by
          cases more <;> exact ⟨_, rfl⟩
        obtain ⟨behind, opening⟩ := opening
        rw [opening, List.cons_append] at read ⊢
        rw [skip_visible (by decide)]
        change (readMembers fewer _).map _ = _
        rw [read, Option.map_some]

/-! ## Whole texts -/

theorem Writes.read {text : List Char} {value : Value} (writes : Writes text value)
    (behind : List Char) (blank : ∀ c ∈ behind, isSpace c = true) :
    read? (text ++ behind) = some value := by
  have ends : EndsNumber behind := by
    intro c first
    have space := blank c (List.mem_of_mem_head? first)
    simp only [isSpace, Bool.or_eq_true, beq_iff_eq] at space
    rcases space with ((rfl | rfl) | rfl) | rfl <;> decide
  have skipped : skipSpace behind = [] := List.dropWhile_eq_nil_iff.mpr blank
  rw [read?, writes.reads (by rw [List.length_append]; omega) ends]
  simp [skipped]

end TupleSpace.Json
