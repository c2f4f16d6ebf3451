import TupleSpace.Command
import TupleSpace.Proofs.TypedText

/-!
# The grammar of the command language

A line is a command exactly if its words are a verb and the arguments that the verb takes, however
much blank there is between them. Every other line is refused with what is wrong with it. A command
whose arguments are single words can be typed, and it is understood however it is typed.
-/

namespace TupleSpace

open TupleSpace.Text

/-! ## Words -/

def Bracketed (text : String) : Prop := ∃ inside, text.toList = '<' :: inside ++ ['>']

def Searchable (source : String) : Prop := ∃ pattern, Pattern.parse source = .ok pattern

def Seconds (word : String) (number : Nat) : Prop :=
  Numeral word.toList number ∧ number < UInt64.size

def Solid (text : String) : Prop := text ≠ "" ∧ ∀ c ∈ text.toList, isBlank c = false

instance (text : String) : Decidable (Solid text) :=
  -- The characters of the text are gone through, not all that there are.
  haveI := List.decidableBAll (fun c => isBlank c = false) text.toList
  inferInstanceAs (Decidable (text ≠ "" ∧ ∀ c ∈ text.toList, isBlank c = false))

def Typed (line : String) (found : List String) : Prop :=
  Spaced (found.map String.toList) line.toList

section

variable {text source word line : String} {number : Nat} {found : List String}

theorem bracketed_iff : isBracketed text = true ↔ Bracketed text := by
  unfold isBracketed Bracketed
  generalize text.toList = characters
  rw [Bool.and_eq_true, beq_iff_eq, beq_iff_eq]
  constructor
  · rintro ⟨opened, closed⟩
    obtain ⟨rest, rfl⟩ := List.head?_eq_some_iff.mp opened
    cases rest with
    | nil => exact absurd closed (by decide)
    | cons c rest =>
        rw [List.getLast?_cons_cons] at closed
        obtain ⟨inside, whole⟩ := List.getLast?_eq_some_iff.mp closed
        exact ⟨inside, congrArg _ whole⟩
  · rintro ⟨inside, rfl⟩
    exact ⟨rfl, List.getLast?_concat⟩

theorem tuple_accepted (bracketed : Bracketed text) : checkTuple text = .ok () :=
  if_pos (bracketed_iff.mpr bracketed)

theorem tuple_refused (bare : ¬ Bracketed text) : checkTuple text = .error (.invalidTuple text) :=
  if_neg fun bracketed => bare (bracketed_iff.mp bracketed)

theorem pattern_accepted (searchable : Searchable source) : checkPattern source = .ok () := by
  obtain ⟨pattern, accepted⟩ := searchable
  rw [checkPattern, accepted]
  rfl

theorem pattern_refused (senseless : ¬ Searchable source) :
    checkPattern source = .error (.invalidPattern source) := by
  unfold checkPattern
  cases parsed : Pattern.parse source with
  | ok pattern => exact absurd ⟨pattern, parsed⟩ senseless
  | error cause =>
      unfold Pattern.parse at parsed
      split at parsed
      · cases parsed
      · cases parsed
        rfl

theorem seconds_accepted (typed : Seconds word number) : Command.seconds word = .ok number := by
  have read : unsigned? UInt64.size word.toList = some number := unsigned_iff.mpr typed
  rw [Command.seconds, read]

theorem seconds_refused (wrong : ∀ number, ¬ Seconds word number) :
    Command.seconds word = .error (.invalidCommand (.seconds word)) := by
  have unread : unsigned? UInt64.size word.toList = none :=
    Option.eq_none_iff_forall_ne_some.mpr fun number read => wrong number (unsigned_iff.mp read)
  rw [Command.seconds, unread]

theorem typed_iff : Typed line found ↔ (words line.toList).map String.ofList = found := by
  rw [Typed, ← words_eq_iff]
  constructor
  · intro split
    rw [split, List.map_map]
    simp
  · rintro rfl
    simp

theorem Typed.solid (typed : Typed line found) (listed : word ∈ found) : Solid word := by
  have solid := typed.word_solid (List.mem_map_of_mem listed)
  exact ⟨fun empty => solid.1 (String.toList_eq_nil_iff.mpr empty), solid.2⟩

theorem typed_joined (solid : ∀ word ∈ found, Solid word) : ∃ line, Typed line found := by
  refine ⟨String.ofList ((found.map String.toList).flatMap (' ' :: ·)), ?_⟩
  rw [Typed, String.toList_ofList]
  apply spaced_joined
  intro characters member
  obtain ⟨word, listed, rfl⟩ := List.mem_map.mp member
  refine ⟨fun empty => (solid word listed).1 (String.toList_eq_nil_iff.mp empty), ?_⟩
  exact (solid word listed).2

theorem decimal_spells (number : Nat) :
    Numeral (String.ofList (Json.encodeNumber number)).toList number := by
  rw [String.toList_ofList]
  exact .plain (natural_iff.mp (Json.natural_number number))

theorem digit_solid {c : Char} (digit : c.isDigit = true) : isBlank c = false := by
  have range := digit_range digit
  simp only [isBlank, Bool.or_eq_false_iff, Bool.and_eq_false_iff, decide_eq_false_iff_not,
    beq_eq_false_iff_ne]
  omega

theorem decimal_solid (number : Nat) : Solid (String.ofList (Json.encodeNumber number)) := by
  refine ⟨fun empty => Nat.toDigits_ne_nil (String.ofList_eq_empty_iff.mp empty), ?_⟩
  rw [String.toList_ofList]
  exact fun c member => digit_solid (Json.digits_of_number number c member)

end

namespace Command

/-! ## Commands -/

/-- The words of a command. A number may be typed in several ways. -/
inductive Spelled : Command → List String → Prop
  | put (tuple : String) : Spelled (.put tuple) ["put", tuple]
  | read (pattern : String) : Spelled (.read pattern) ["read", pattern]
  | take (pattern : String) : Spelled (.take pattern) ["take", pattern]
  | state (qualifier : String) : Spelled (.state qualifier) ["getTupleSpacesState", qualifier]
  | sleep {word : String} {number : Nat} (numeral : Numeral word.toList number) :
      Spelled (.sleep number) ["sleep", word]
  | setDelay (qualifier : String) {word : String} {number : Nat}
      (numeral : Numeral word.toList number) :
      Spelled (.setDelay qualifier number) ["setdelay", qualifier, word]

def Valid : Command → Prop
  | .put tuple => Bracketed tuple
  | .read pattern => Searchable pattern
  | .take pattern => Searchable pattern
  | .state _ => True
  | .sleep number => number < UInt64.size
  | .setDelay _ number => number < UInt64.size

def arguments : Command → List String
  | .put tuple => [tuple]
  | .read pattern => [pattern]
  | .take pattern => [pattern]
  | .state qualifier => [qualifier]
  | .sleep _ => []
  | .setDelay qualifier _ => [qualifier]

def Sayable (command : Command) : Prop :=
  ∀ argument ∈ command.arguments, Solid argument

def verbs : List (String × Nat) :=
  [("put", 1), ("read", 1), ("take", 1), ("getTupleSpacesState", 1), ("sleep", 1), ("setdelay", 2)]

def Known (found : List String) : Prop :=
  ∃ verb arguments, found = verb :: arguments ∧ (verb, arguments.length) ∈ verbs

inductive Refused (line : String) : List String → ClientError → Prop
  | tuple {text : String} (bare : ¬ Bracketed text) :
      Refused line ["put", text] (.invalid (.invalidTuple text))
  | pattern {verb source : String} (search : verb = "read" ∨ verb = "take")
      (senseless : ¬ Searchable source) :
      Refused line [verb, source] (.invalid (.invalidPattern source))
  | sleep {word : String} (wrong : ∀ number, ¬ Seconds word number) :
      Refused line ["sleep", word] (.invalidCommand (.seconds word))
  | setDelay {qualifier word : String} (wrong : ∀ number, ¬ Seconds word number) :
      Refused line ["setdelay", qualifier, word] (.invalidCommand (.seconds word))
  | unknown {found : List String} (strange : ¬ Known found) :
      Refused line found (.invalidCommand (.unknown (String.ofList (trim line.toList))))

section

variable {line : String} {found : List String} {command : Command} {cause : ClientError}

theorem Spelled.accepted (spelled : command.Spelled found) (valid : command.Valid) :
    ofWords line found = .ok command := by
  cases spelled with
  | put tuple => simp only [ofWords, tuple_accepted valid, Except.mapError, Except.map]
  | read pattern => simp only [ofWords, pattern_accepted valid, Except.mapError, Except.map]
  | take pattern => simp only [ofWords, pattern_accepted valid, Except.mapError, Except.map]
  | state qualifier => rfl
  | sleep numeral => simp only [ofWords, seconds_accepted ⟨numeral, valid⟩, Except.map]
  | setDelay qualifier numeral =>
      simp only [ofWords, seconds_accepted ⟨numeral, valid⟩, Except.map]

theorem Refused.refused (refused : Refused line found cause) :
    ofWords line found = .error cause := by
  cases refused with
  | tuple bare => simp only [ofWords, tuple_refused bare, Except.mapError, Except.map]
  | pattern search senseless =>
      rcases search with rfl | rfl <;>
        simp only [ofWords, pattern_refused senseless, Except.mapError, Except.map]
  | sleep wrong => simp only [ofWords, seconds_refused wrong, Except.map]
  | setDelay wrong => simp only [ofWords, seconds_refused wrong, Except.map]
  | unknown strange =>
      have unlike (verb : String) (arguments : List String)
          (listed : (verb, arguments.length) ∈ verbs) : found ≠ verb :: arguments :=
        fun same => strange ⟨verb, arguments, same, listed⟩
      unfold ofWords
      split
      · exact absurd rfl (unlike "put" _ (by simp [verbs]))
      · exact absurd rfl (unlike "read" _ (by simp [verbs]))
      · exact absurd rfl (unlike "take" _ (by simp [verbs]))
      · exact absurd rfl (unlike "getTupleSpacesState" _ (by simp [verbs]))
      · exact absurd rfl (unlike "sleep" _ (by simp [verbs]))
      · exact absurd rfl (unlike "setdelay" _ (by simp [verbs]))
      · rfl

/-- Words make a command that is in order, or there is something wrong with them. -/
theorem spelled_or_refused (line : String) (found : List String) :
    (∃ command : Command, command.Spelled found ∧ command.Valid) ∨
      ∃ cause, Refused line found cause := by
  by_cases known : Known found
  · obtain ⟨verb, arguments, rfl, listed⟩ := known
    -- One case for each row of the table.
    simp only [verbs, List.mem_cons, Prod.mk.injEq, List.not_mem_nil, or_false] at listed
    rcases listed with ⟨rfl, one⟩ | ⟨rfl, one⟩ | ⟨rfl, one⟩ | ⟨rfl, one⟩ | ⟨rfl, one⟩ | ⟨rfl, two⟩
    · obtain ⟨tuple, rfl⟩ := List.length_eq_one_iff.mp one
      by_cases bracketed : Bracketed tuple
      · exact .inl ⟨_, .put tuple, bracketed⟩
      · exact .inr ⟨_, .tuple bracketed⟩
    · obtain ⟨pattern, rfl⟩ := List.length_eq_one_iff.mp one
      by_cases searchable : Searchable pattern
      · exact .inl ⟨_, .read pattern, searchable⟩
      · exact .inr ⟨_, .pattern (.inl rfl) searchable⟩
    · obtain ⟨pattern, rfl⟩ := List.length_eq_one_iff.mp one
      by_cases searchable : Searchable pattern
      · exact .inl ⟨_, .take pattern, searchable⟩
      · exact .inr ⟨_, .pattern (.inr rfl) searchable⟩
    · obtain ⟨qualifier, rfl⟩ := List.length_eq_one_iff.mp one
      exact .inl ⟨_, .state qualifier, trivial⟩
    · obtain ⟨word, rfl⟩ := List.length_eq_one_iff.mp one
      by_cases typed : ∃ number, Seconds word number
      · obtain ⟨number, numeral, small⟩ := typed
        exact .inl ⟨_, .sleep numeral, small⟩
      · exact .inr ⟨_, .sleep (not_exists.mp typed)⟩
    · obtain ⟨qualifier, word, rfl⟩ : ∃ qualifier word, arguments = [qualifier, word] := by
        match arguments, two with
        | [qualifier, word], _ => exact ⟨qualifier, word, rfl⟩
      by_cases typed : ∃ number, Seconds word number
      · obtain ⟨number, numeral, small⟩ := typed
        exact .inl ⟨_, .setDelay qualifier numeral, small⟩
      · exact .inr ⟨_, .setDelay (not_exists.mp typed)⟩
  · exact .inr ⟨_, .unknown known⟩

theorem of_words_ok_iff :
    ofWords line found = .ok command ↔ command.Spelled found ∧ command.Valid := by
  refine ⟨fun accepted => ?_, fun ⟨spelled, valid⟩ => spelled.accepted valid⟩
  rcases spelled_or_refused line found with ⟨other, spelled, valid⟩ | ⟨cause, refused⟩
  · cases accepted.symm.trans (spelled.accepted valid)
    exact ⟨spelled, valid⟩
  · cases accepted.symm.trans refused.refused

theorem of_words_error_iff : ofWords line found = .error cause ↔ Refused line found cause := by
  refine ⟨fun failed => ?_, Refused.refused⟩
  rcases spelled_or_refused line found with ⟨command, spelled, valid⟩ | ⟨other, refused⟩
  · cases failed.symm.trans (spelled.accepted valid)
  · cases failed.symm.trans refused.refused
    exact refused

theorem parse_eq_iff {outcome : Except ClientError Command} :
    parse line = outcome ↔ ∃ found, Typed line found ∧ ofWords line found = outcome := by
  constructor
  · exact fun parsed => ⟨_, typed_iff.mpr rfl, parsed⟩
  · rintro ⟨found, typed, rfl⟩
    rw [parse, typed_iff.mp typed]

def written : Command → List String
  | .put tuple => ["put", tuple]
  | .read pattern => ["read", pattern]
  | .take pattern => ["take", pattern]
  | .state qualifier => ["getTupleSpacesState", qualifier]
  | .sleep number => ["sleep", String.ofList (Json.encodeNumber number)]
  | .setDelay qualifier number =>
      ["setdelay", qualifier, String.ofList (Json.encodeNumber number)]

theorem written_spelled (command : Command) : command.Spelled command.written := by
  cases command with
  | put tuple => exact .put tuple
  | read pattern => exact .read pattern
  | take pattern => exact .take pattern
  | state qualifier => exact .state qualifier
  | sleep number => exact .sleep (decimal_spells number)
  | setDelay qualifier number => exact .setDelay qualifier (decimal_spells number)

theorem Sayable.written_solid (sayable : command.Sayable) :
    ∀ word ∈ command.written, Solid word := by
  have verb : ∀ verb ∈ verbs, Solid verb.1 := by decide
  unfold Sayable at sayable
  cases command <;> simp_all [written, arguments, verbs, decimal_solid]

theorem Spelled.sayable (spelled : command.Spelled found) (typed : Typed line found) :
    command.Sayable := by
  have among : ∀ argument ∈ command.arguments, argument ∈ found := by
    cases spelled <;> simp [arguments]
  exact fun argument member => typed.solid (among argument member)

/-- A line is a command exactly if its words spell one that is in order, and it is refused exactly
for what is wrong with its words. The commands that are in order and can be typed are those that
some line spells and that are read from every line that spells them. -/
theorem parse_grammar :
    (∀ line command, parse line = .ok command ↔
      ∃ found, Typed line found ∧ command.Spelled found ∧ command.Valid) ∧
    (∀ line cause, parse line = .error cause ↔
      ∃ found, Typed line found ∧ Refused line found cause) ∧
    (∀ command : Command, command.Valid ∧ command.Sayable ↔
      (∃ line found, Typed line found ∧ command.Spelled found) ∧
      ∀ line found, Typed line found → command.Spelled found → parse line = .ok command) := by
  have understood (line : String) (command : Command) : parse line = .ok command ↔
      ∃ found, Typed line found ∧ command.Spelled found ∧ command.Valid := by
    simp only [parse_eq_iff, of_words_ok_iff]
  refine ⟨understood, fun line cause => ?_, fun command => ⟨?_, ?_⟩⟩
  · simp only [parse_eq_iff, of_words_error_iff]
  · rintro ⟨valid, sayable⟩
    obtain ⟨line, typed⟩ := typed_joined sayable.written_solid
    refine ⟨⟨line, _, typed, command.written_spelled⟩, fun line found typed spelled => ?_⟩
    exact (understood line command).mpr ⟨found, typed, spelled, valid⟩
  · rintro ⟨⟨line, found, typed, spelled⟩, always⟩
    obtain ⟨_, _, _, valid⟩ := (understood line command).mp (always line found typed spelled)
    exact ⟨valid, spelled.sayable typed⟩

/-- Blanks of any kind stand around words, and zeros before a number; a number may be too large. -/
theorem parse_grammar_of_padded :
    parse "\t setdelay  A +007 " = .ok (.setDelay "A" 7) ∧
    parse "sleep 18446744073709551616" =
      .error (.invalidCommand (.seconds "18446744073709551616")) ∧
    ((Command.put "<a>").Valid ∧ (Command.put "<a>").Sayable) ∧
    parse "\u2003put\u00a0<a>\n" = .ok (.put "<a>") := by
  obtain ⟨accepted, refused, converse⟩ := parse_grammar
  have seven : Denotes ['0', '0', '7'] 7 := natural_iff.mp (by decide)
  have large : unsigned? UInt64.size "18446744073709551616".toList = none := by decide +kernel
  have valid : (Command.put "<a>").Valid := ⟨['a'], by decide +kernel⟩
  have sayable : (Command.put "<a>").Sayable :=
    List.forall_mem_singleton.mpr (by decide +kernel)
  refine ⟨?_, ?_, ⟨valid, sayable⟩, ?_⟩
  · refine (accepted _ _).mpr ⟨["setdelay", "A", "+007"], typed_iff.mpr (by decide +kernel), ?_, ?_⟩
    · exact .setDelay "A" (.signed seven)
    · show 7 < UInt64.size
      decide
  · refine (refused _ _).mpr ⟨["sleep", _], typed_iff.mpr (by decide +kernel), .sleep ?_⟩
    intro number typed
    cases large.symm.trans (unsigned_iff.mpr typed)
  · exact ((converse _).mp ⟨valid, sayable⟩).2 _ _ (typed_iff.mpr (by decide +kernel)) (.put "<a>")

end

end Command

end TupleSpace
