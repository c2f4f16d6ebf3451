import TupleSpace.Regex.Bracket

/-!
# Reading with more text behind

A pattern is read with `)$` behind it. Whatever one of the readers makes of a text on its own, it
makes of the longer text too, and leaves the same text with `)$` behind it. The exception is a
comment that runs to the end of the text: it takes what is behind along, so that nothing is left
either way.
-/

namespace TupleSpace.Regex

open TupleSpace.Text

/-- A text that is left to be read, and what is left in its place with `)$` behind the whole. -/
def Trails (text longer : List Char) : Prop := longer = text ∨ longer = text ++ [')', '$']

namespace Trails

variable {text longer rest : List Char} {c : Char}

theorem refl : Trails text text := Or.inl rfl

theorem cons (trails : Trails text longer) : Trails (c :: text) (c :: longer) := by
  rcases trails with rfl | rfl
  · exact refl
  · exact Or.inr rfl

theorem of_nil (trails : Trails [] longer) : longer = [] ∨ longer = [')', '$'] := trails

theorem of_cons (trails : Trails (c :: text) longer) :
    ∃ behind, longer = c :: behind ∧ Trails text behind := by
  rcases trails with rfl | rfl
  · exact ⟨text, rfl, refl⟩
  · exact ⟨_, rfl, Or.inr rfl⟩

/-- Only a closing parenthesis may come from what is behind. -/
theorem to_cons (trails : Trails text (c :: rest)) (other : c ≠ ')') :
    ∃ shorter, text = c :: shorter ∧ Trails shorter rest := by
  cases text with
  | nil =>
      rcases trails.of_nil with absent | behind
      · cases absent
      · cases behind
        exact absurd rfl other
  | cons d text =>
      obtain ⟨behind, same, trails⟩ := trails.of_cons
      cases same
      exact ⟨text, rfl, trails⟩

theorem plain (trails : Trails text longer) (other : c ≠ ')') (plain : ∀ rest, text ≠ c :: rest)
    (rest : List Char) : longer ≠ c :: rest := by
  rintro rfl
  obtain ⟨shorter, same, _⟩ := trails.to_cons other
  exact plain shorter same

theorem plain_pair {d : Char} (trails : Trails text longer) (others : c ≠ ')' ∧ d ≠ ')')
    (plain : ∀ rest, text ≠ c :: d :: rest) (rest : List Char) : longer ≠ c :: d :: rest := by
  rintro rfl
  obtain ⟨_, rfl, second⟩ := trails.to_cons others.1
  obtain ⟨shorter, rfl, _⟩ := second.to_cons others.2
  exact plain shorter rfl

theorem to_nil (trails : Trails text []) : text = [] := by
  rcases trails with same | longer
  · exact same.symm
  · simp at longer

theorem head_iff (trails : Trails text longer) (other : c ≠ ')') :
    longer.head? = some c ↔ text.head? = some c := by
  rcases trails with rfl | rfl
  · rfl
  · cases text with
    | nil => simpa using other.symm
    | cons d text => rfl

theorem dropWhile (skipped : Char → Bool) (stops : skipped ')' = true → skipped '$' = true)
    (trails : Trails text longer) :
    Trails (text.dropWhile skipped) (longer.dropWhile skipped) := by
  rcases trails with rfl | rfl
  · exact refl
  · induction text with
    | nil =>
        cases closes : skipped ')' with
        | true => exact Or.inl (by simp [closes, stops closes])
        | false => exact Or.inr (by simp [closes])
    | cons c text induction =>
        cases keeps : skipped c with
        | true => simpa [keeps] using induction
        | false => exact Or.inr (by simp [keeps])

theorem dropBlanks (trails : Trails text longer) :
    Trails (text.dropWhile isBlank) (longer.dropWhile isBlank) :=
  trails.dropWhile isBlank (fun blank => absurd blank (by decide))

theorem takeWhile (kept : Char → Bool) (trails : Trails text longer)
    (ends : text.dropWhile kept ≠ []) : longer.takeWhile kept = text.takeWhile kept := by
  rcases trails with rfl | rfl
  · rfl
  · induction text with
    | nil => exact absurd rfl ends
    | cons c text induction =>
        cases keeps : kept c with
        | true => simpa [keeps] using induction (by simpa [keeps] using ends)
        | false => simp [keeps]

theorem length_le (trails : Trails text longer) : text.length ≤ longer.length := by
  rcases trails with rfl | rfl <;> simp

end Trails

/-- What was read and what it leaves stay so with `)$` behind. -/
def Kept {α : Type} (alone within : Option (α × List Char)) : Prop :=
  ∀ read rest, alone = some (read, rest) →
    ∃ behind, within = some (read, behind) ∧ Trails rest behind

namespace Kept

variable {α β : Type} {alone within : Option (α × List Char)} {rest behind : List Char} {read : α}

theorem none : Kept none within := nofun

theorem some (trails : Trails rest behind) : Kept (some (read, rest)) (some (read, behind)) := by
  rintro _ _ ⟨⟩
  exact ⟨behind, rfl, trails⟩

theorem cases (kept : Kept alone within) :
    alone = .none ∨ ∃ read rest behind,
      alone = .some (read, rest) ∧ within = .some (read, behind) ∧ Trails rest behind := by
  cases alone with
  | none => exact Or.inl rfl
  | some result =>
      obtain ⟨behind, within, trails⟩ := kept result.1 result.2 rfl
      exact Or.inr ⟨result.1, result.2, behind, rfl, within, trails⟩

theorem bind {next after : α × List Char → Option (β × List Char)} (kept : Kept alone within)
    (goes : ∀ read rest behind, Trails rest behind → Kept (next (read, rest)) (after (read, behind))) :
    Kept (alone.bind next) (within.bind after) := by
  obtain rfl | ⟨read, rest, behind, rfl, rfl, trails⟩ := kept.cases
  · exact none
  · exact goes read rest behind trails

theorem map (kept : Kept alone within) (f : α → β) :
    Kept (alone.map fun (read, rest) => (f read, rest))
      (within.map fun (read, rest) => (f read, rest)) := by
  obtain rfl | ⟨read, rest, behind, rfl, rfl, trails⟩ := kept.cases
  · exact none
  · exact some trails

theorem found {γ : Type} {found : Option γ} {f : γ → α} (trails : Trails rest behind) :
    Kept (found.map fun value => (f value, rest)) (found.map fun value => (f value, behind)) := by
  cases found with
  | none => exact none
  | some value => exact some trails

theorem under {γ : Type} {found : Option γ} {next after : γ → Option (α × List Char)}
    (goes : ∀ value, Kept (next value) (after value)) :
    Kept (found.bind next) (found.bind after) := by
  cases found with
  | none => exact none
  | some value => exact goes value

end Kept

/-! ## Modes -/

namespace Modes

variable {modes : Modes} {text longer : List Char}

theorem dropSpace_trails {inComment : Bool} (trails : Trails text longer) :
    Trails (dropSpace inComment text) (dropSpace inComment longer) := by
  rcases trails with rfl | rfl
  · exact .refl
  · induction text generalizing inComment with
    | nil =>
        cases inComment with
        | false => exact Or.inr rfl
        | true => exact Or.inl rfl
    | cons c text induction =>
        rw [List.cons_append]
        unfold dropSpace
        split
        · exact induction
        · split
          · exact induction
          · split
            · exact induction
            · exact Or.inr rfl

theorem skip_trails (modes : Modes) (trails : Trails text longer) :
    Trails (modes.skip text) (modes.skip longer) := by
  unfold skip
  split
  · exact dropSpace_trails trails
  · exact trails

theorem skip_cons {c : Char} {rest : List Char} (modes : Modes) (trails : Trails text longer)
    (here : modes.skip text = c :: rest) :
    ∃ behind, modes.skip longer = c :: behind ∧ Trails rest behind := by
  have skipped := modes.skip_trails trails
  rw [here] at skipped
  exact skipped.of_cons

theorem dropSpace_length {inComment : Bool} : (dropSpace inComment text).length ≤ text.length := by
  induction text generalizing inComment with
  | nil => exact Nat.le_refl _
  | cons c text induction =>
      unfold dropSpace
      split
      · exact Nat.le_succ_of_le induction
      · split
        · exact Nat.le_succ_of_le induction
        · split
          · exact Nat.le_succ_of_le induction
          · exact Nat.le_refl _

theorem skip_length (modes : Modes) (text : List Char) :
    (modes.skip text).length ≤ text.length := by
  unfold skip
  split
  · exact dropSpace_length
  · exact Nat.le_refl _

/-- Characters are taken as before where the taking ends within the text, and it does at the
latest at a closing parenthesis if that is not one to take. -/
theorem takeSpaced_trails {keep : Char → Bool} {inComment : Bool} {taken left : List Char}
    (trails : Trails text longer) (takes : modes.takeSpaced keep inComment text = (taken, left))
    (ends : keep ')' = false ∨ left ≠ []) :
    ∃ behind, modes.takeSpaced keep inComment longer = (taken, behind) ∧ Trails left behind := by
  rcases trails with rfl | rfl
  · exact ⟨left, takes, .refl⟩
  · induction text generalizing inComment taken left with
    | nil =>
        cases takes
        have stops := ends.resolve_right (fun left => left rfl)
        cases inComment with
        | true => exact ⟨[], by simp [takeSpaced], Or.inl rfl⟩
        | false =>
            refine ⟨[')', '$'], ?_, Or.inr rfl⟩
            have blank : isBlank ')' = false := by decide
            simp [takeSpaced, blank, stops]
    | cons c text induction =>
        rw [List.cons_append]
        unfold takeSpaced at takes ⊢
        split at takes
        · rw [if_pos ‹_›]
          exact induction takes ends
        rw [if_neg ‹_›]
        split at takes
        · rw [if_pos ‹_›]
          exact induction takes ends
        rw [if_neg ‹_›]
        split at takes
        · rw [if_pos ‹_›]
          exact induction takes ends
        rw [if_neg ‹_›]
        split at takes
        · rw [if_pos ‹_›]
          cases takes
          obtain ⟨behind, same, trails⟩ := induction rfl ends
          exact ⟨behind, by rw [same], trails⟩
        · rw [if_neg ‹_›]
          cases takes
          exact ⟨_, rfl, Or.inr rfl⟩

theorem takeSpaced_cons {keep : Char → Bool} {inComment : Bool} {taken left : List Char} {c : Char}
    (trails : Trails text longer)
    (takes : modes.takeSpaced keep inComment text = (taken, c :: left)) :
    ∃ behind, modes.takeSpaced keep inComment longer = (taken, c :: behind) ∧
      Trails left behind := by
  obtain ⟨_, same, ended⟩ := takeSpaced_trails trails takes (Or.inr nofun)
  obtain ⟨behind, rfl, inner⟩ := ended.of_cons
  exact ⟨behind, same, inner⟩

theorem peek_iff {c : Char} (modes : Modes) (trails : Trails text longer) (other : c ≠ ')') :
    modes.peek longer = some c ↔ modes.peek text = some c := by
  unfold peek
  split
  · exact trails.head_iff other
  · have trimmed := trails.dropBlanks
    split
    · rename_i behind hash
      rw [hash] at trimmed
      obtain ⟨rest, same, inner⟩ := trimmed.to_cons (by decide)
      simp only [same]
      exact inner.dropBlanks.head_iff other
    · rename_i plain
      split
      · rename_i rest hash
        rw [hash] at trimmed
        obtain ⟨behind, same, _⟩ := trimmed.of_cons
        exact absurd same (plain behind)
      · exact trimmed.head_iff other

theorem readFlags_kept {read after : FlagsRead} {c : Char} {rest : List Char}
    (trails : Trails text longer) (reads : readFlags read text = some (after, c, rest)) :
    ∃ behind, readFlags read longer = some (after, c, behind) ∧ Trails rest behind := by
  induction text generalizing longer read with
  | nil => cases reads
  | cons d text induction =>
      obtain ⟨behind, rfl, inner⟩ := trails.of_cons
      unfold readFlags at reads ⊢
      split at reads
      · rw [if_pos ‹_›]
        split at reads
        · cases reads
        · rw [if_neg ‹_›]
          cases reads
          exact ⟨behind, rfl, inner⟩
      · rw [if_neg ‹_›]
        split at reads
        · cases reads
        rw [if_neg ‹_›]
        split at reads
        · rw [if_pos ‹_›]
          exact induction inner reads
        · rw [if_neg ‹_›]
          cases flag : read.modes.set? d (!read.negated) with
          | none =>
              rw [flag] at reads
              cases reads
          | some modes =>
              simp only [flag] at reads ⊢
              exact induction inner reads

end Modes

/-! ## Escapes -/

namespace Escape

variable {modes : Modes} {text longer : List Char}

theorem hexDigits_kept {count : Nat} (trails : Trails text longer) :
    Kept (hexDigits modes count text) (hexDigits modes count longer) := by
  induction count generalizing text longer with
  | zero => exact .some trails
  | succ count induction =>
      cases text with
      | nil => exact .none
      | cons c text =>
          obtain ⟨behind, rfl, inner⟩ := trails.of_cons
          unfold hexDigits
          split
          · exact (induction (modes.skip_trails inner)).map (c :: ·)
          · exact .none

theorem hexadecimal_kept {kind : Char} (trails : Trails text longer) :
    Kept (hexadecimal modes kind text) (hexadecimal modes kind longer) := by
  have skipped := modes.skip_trails trails
  unfold hexadecimal
  generalize (if kind = 'x' then 2 else if kind = 'u' then 4 else 8) = width
  split
  · obtain ⟨_, same, inner⟩ := modes.skip_cons trails ‹_›
    simp only [same]
    split
    · obtain ⟨_, same, left⟩ := Modes.takeSpaced_cons inner ‹_›
      simp only [same]
      split
      · exact .none
      · exact .under fun number => .under fun c => .some (modes.skip_trails left)
    · exact .none
  · rename_i plain
    split
    · exact (skipped.plain (by decide) plain _ ‹_›).elim
    · refine (hexDigits_kept skipped).bind ?_
      intro digits rest behind left
      exact .under fun number => .under fun c => .some left

theorem propertyName_kept (trails : Trails text longer) :
    Kept (propertyName modes text) (propertyName modes longer) := by
  unfold propertyName
  split
  · exact .none
  · obtain ⟨_, same, inner⟩ := modes.skip_cons trails ‹_›
    simp only [same]
    split
    · obtain ⟨_, same, left⟩ := Modes.takeSpaced_cons inner ‹_›
      simp only [same]
      exact .found left
    · exact .none
  · exact .none
  · rename_i letter rest no_brace no_backslash here
    obtain ⟨_, same, inner⟩ := modes.skip_cons trails here
    rw [same]
    split
    · contradiction
    · exact (no_brace (List.cons.inj ‹_›).1).elim
    · exact (no_backslash (List.cons.inj ‹_›).1).elim
    · rename_i there
      cases there
      exact .found (modes.skip_trails inner)

theorem property_kept {negated : Bool} (trails : Trails text longer) :
    Kept (property modes negated text) (property modes negated longer) := by
  unfold property
  refine (propertyName_kept trails).bind ?_
  rintro ⟨set, unequal⟩ rest behind left
  dsimp only
  generalize (if modes.ignoreCase then set.caseClosure else set) = set
  split
  · exact .none
  · exact .some left

theorem wordBoundary_kept (trails : Trails text longer) :
    Kept (wordBoundary modes text) (wordBoundary modes longer) := by
  unfold wordBoundary
  split
  · obtain ⟨_, rfl, inner⟩ := trails.of_cons
    simp only
    split
    · exact .none
    · obtain ⟨_, same, within⟩ := modes.skip_cons inner ‹_›
      simp only [same]
      split
      · exact .some trails
      · split
        · obtain ⟨_, same, left⟩ := Modes.takeSpaced_cons within.cons ‹_›
          simp only [same]
          generalize String.ofList _ = name
          split
          · exact .some left
          · exact .some left
          · exact .some left
          · exact .some left
          · exact .none
        · exact .none
  · rename_i plain
    split
    · exact (trails.plain (by decide) plain _ rfl).elim
    · exact .some trails

theorem read_kept (trails : Trails text longer) :
    Kept (read modes text) (read modes longer) := by
  cases text with
  | nil => exact .none
  | cons c text =>
      obtain ⟨behind, rfl, inner⟩ := trails.of_cons
      simp only [read]
      split
      · exact hexadecimal_kept inner
      split
      · exact property_kept inner
      split
      · exact .found inner
      split
      · exact .some inner
      split
      · exact (wordBoundary_kept inner).map Atom.look
      split
      · exact .some inner
      · exact .found inner

end Escape

/-! ## Bracketed classes -/

namespace Bracket

variable {modes : Modes} {text longer : List Char}

theorem atom_kept (trails : Trails text longer) :
    Kept (atom modes text) (atom modes longer) := by
  unfold atom
  split
  · exact .none
  · obtain ⟨behind, rfl, inner⟩ := trails.of_cons
    exact Escape.read_kept inner
  · rename_i c rest plain
    obtain ⟨behind, rfl, inner⟩ := trails.of_cons
    split
    · contradiction
    · exact (plain (List.cons.inj ‹_›).1).elim
    · rename_i there
      cases there
      exact .some inner

theorem member_kept (trails : Trails text longer) :
    Kept (member modes text) (member modes longer) := by
  unfold member
  refine (atom_kept trails).bind ?_
  intro first rest behind trails
  have skipped := modes.skip_trails trails
  dsimp only
  split
  · exact .none
  · obtain ⟨_, same, inner⟩ := modes.skip_cons trails ‹_›
    have bracket := modes.peek_iff (c := ']') inner (by decide)
    have hyphen := modes.peek_iff (c := '-') inner (by decide)
    simp only [same, bracket, hyphen]
    split
    · exact .under fun set => .some inner.cons
    · refine (atom_kept (modes.skip_trails inner)).bind ?_
      intro second rest behind trails
      dsimp only
      split
      · split
        · exact .none
        · exact .under fun low => .under fun high => .some trails
      · exact .none
  · rename_i rest no_end no_hyphen
    split
    · rename_i nothing
      rw [nothing] at skipped
      exact (no_end skipped.to_nil).elim
    · exact (skipped.plain (by decide) no_hyphen _ ‹_›).elim
    · exact .under fun set => .some skipped

theorem asciiName_kept {negated : Bool} (trails : Trails text longer) :
    Kept (asciiName modes negated text) (asciiName modes negated longer) := by
  have behind := trails.dropWhile (· != ':') (fun _ => by decide)
  unfold asciiName
  split
  · rename_i left here
    have same := trails.takeWhile (· != ':') (by simp [here])
    rw [here] at behind
    obtain ⟨_, there, behind⟩ := behind.of_cons
    obtain ⟨_, rfl, left⟩ := behind.of_cons
    rw [there, same]
    exact .found left
  · exact .none

theorem asciiName_none {negated : Bool} (trails : Trails text longer)
    (none : asciiName modes negated text = none) : asciiName modes negated longer = .none := by
  have behind := trails.dropWhile (· != ':') (fun _ => by decide)
  unfold asciiName at none ⊢
  split
  · rename_i here
    rw [here] at behind
    obtain ⟨_, there, behind⟩ := behind.to_cons (by decide)
    obtain ⟨_, rfl, left⟩ := behind.to_cons (by decide)
    have same := trails.takeWhile (· != ':') (by simp [there])
    rw [there] at none
    rw [same]
    simpa using none
  · rfl

theorem asciiClass_kept (modes : Modes) (trails : Trails text longer) :
    Kept (asciiClass modes text) (asciiClass modes longer) ∧
      (asciiClass modes text = none → asciiClass modes longer = none) := by
  unfold asciiClass
  split
  · obtain ⟨_, rfl, behind⟩ := trails.of_cons
    obtain ⟨_, rfl, inner⟩ := behind.of_cons
    exact ⟨asciiName_kept inner, asciiName_none inner⟩
  · rename_i rest plain
    obtain ⟨behind, rfl, inner⟩ := trails.of_cons
    split
    · rename_i caret
      cases caret
      exact (inner.plain (by decide) plain _ rfl).elim
    · rename_i same
      cases same
      exact ⟨asciiName_kept inner, asciiName_none inner⟩
    · rename_i other
      exact (other _ rfl).elim
  · rename_i no_caret no_colon
    refine ⟨.none, fun _ => ?_⟩
    split
    · exact (trails.plain (by decide) no_colon _ rfl).elim
    · exact (trails.plain (by decide) no_colon _ rfl).elim
    · rfl

theorem leadingHyphens_plain {rounds : Nat} {operand : Operand}
    (plain : ∀ rest, text ≠ '-' :: rest) :
    leadingHyphens modes rounds operand text = (operand, text) := by
  unfold leadingHyphens
  split
  · exact (plain _ rfl).elim
  · rfl

/-- Each round consumes a hyphen, so that a round for every character is enough. -/
theorem leadingHyphens_trails (modes : Modes) (operand : Operand) {rounds more : Nat}
    (enough : text.length ≤ rounds) (fueled : rounds ≤ more) (trails : Trails text longer) :
    ∃ behind, leadingHyphens modes more operand longer =
        ((leadingHyphens modes rounds operand text).1, behind) ∧
      Trails (leadingHyphens modes rounds operand text).2 behind := by
  induction rounds generalizing more operand text longer with
  | zero =>
      cases List.eq_nil_of_length_eq_zero (Nat.le_zero.mp enough)
      rw [leadingHyphens_plain (trails.plain (by decide) (by simp))]
      exact ⟨longer, rfl, trails⟩
  | succ rounds induction =>
      cases more with
      | zero => cases fueled
      | succ more =>
          by_cases hyphen : ∃ rest, text = '-' :: rest
          · obtain ⟨rest, rfl⟩ := hyphen
            obtain ⟨behind, rfl, inner⟩ := trails.of_cons
            have shorter := Nat.le_trans (modes.skip_length rest) (Nat.le_of_succ_le_succ enough)
            exact induction _ shorter (Nat.le_of_succ_le_succ fueled) (modes.skip_trails inner)
          · have plain : ∀ rest, text ≠ '-' :: rest := fun rest same => hyphen ⟨rest, same⟩
            rw [leadingHyphens_plain plain, leadingHyphens_plain (trails.plain (by decide) plain)]
            exact ⟨longer, rfl, trails⟩

theorem caret_trails {negated : Bool} {rest : List Char} (trails : Trails text longer)
    (reads : caret modes text = (negated, rest)) :
    ∃ behind, caret modes longer = (negated, behind) ∧ Trails rest behind := by
  have skipped := modes.skip_trails trails
  unfold caret at reads ⊢
  split at reads
  · obtain ⟨_, same, inner⟩ := modes.skip_cons trails ‹_›
    cases reads
    rw [same]
    exact ⟨_, rfl, modes.skip_trails inner⟩
  · rename_i plain
    cases reads
    split
    · exact (skipped.plain (by decide) plain _ ‹_›).elim
    · exact ⟨_, rfl, skipped⟩

theorem opening_trails {negated : Bool} {operand : Operand} {rest : List Char}
    (trails : Trails text longer) (opens : opening modes text = (negated, operand, rest)) :
    ∃ behind, opening modes longer = (negated, operand, behind) ∧ Trails rest behind := by
  unfold opening at opens ⊢
  cases first : caret modes text with
  | mk sign start =>
      obtain ⟨behind, same, inner⟩ := caret_trails trails first
      obtain ⟨left, led, hyphens⟩ := leadingHyphens_trails modes {} (Nat.le_refl _)
        inner.length_le inner
      simp only [first] at opens
      simp only [same, led]
      split at opens
      · rename_i here
        rw [here] at hyphens
        obtain ⟨left, rfl, inner⟩ := hyphens.of_cons
        simp only
        split at opens
        · rw [if_pos ‹_›]
          cases opens
          exact ⟨_, rfl, modes.skip_trails inner⟩
        · rw [if_neg ‹_›]
          cases opens
          exact ⟨_, rfl, by rwa [here]⟩
      · rename_i plain
        cases opens
        split
        · exact (hyphens.plain (by decide) plain _ rfl).elim
        · exact ⟨_, rfl, hyphens⟩

theorem token_kept (modes : Modes) (trails : Trails text longer) :
    Kept (token modes text) (token modes longer) := by
  have skipped := modes.skip_trails trails
  unfold token
  split
  · exact .none
  · obtain ⟨_, same, inner⟩ := modes.skip_cons trails ‹_›
    simp only [same]
    exact .some inner
  · obtain ⟨_, same, second⟩ := modes.skip_cons trails ‹_›
    obtain ⟨_, rfl, inner⟩ := second.of_cons
    simp only [same]
    exact .some inner
  · obtain ⟨_, same, second⟩ := modes.skip_cons trails ‹_›
    obtain ⟨_, rfl, inner⟩ := second.of_cons
    simp only [same]
    exact .some inner
  · obtain ⟨_, same, second⟩ := modes.skip_cons trails ‹_›
    obtain ⟨_, rfl, inner⟩ := second.of_cons
    simp only [same]
    exact .some inner
  · rename_i rest here
    obtain ⟨behind, same, inner⟩ := modes.skip_cons trails here
    obtain ⟨named, unnamed⟩ := asciiClass_kept modes inner
    simp only [same]
    obtain none | ⟨set, left, beyond, alone, within, after⟩ := named.cases
    · rw [none, unnamed none]
      cases opens : opening modes rest with
      | mk negated opened =>
          obtain ⟨_, same, inside⟩ := opening_trails inner opens
          simp only [same]
          exact .some inside
    · rw [alone, within]
      exact .found after
  · rename_i no_end no_finish no_intersection no_difference no_symmetric no_bracket
    split
    · rename_i nothing
      rw [nothing] at skipped
      exact (no_end skipped.to_nil).elim
    · exact (skipped.plain (by decide) no_finish _ ‹_›).elim
    · exact (skipped.plain_pair (by decide) no_intersection _ ‹_›).elim
    · exact (skipped.plain_pair (by decide) no_difference _ ‹_›).elim
    · exact (skipped.plain_pair (by decide) no_symmetric _ ‹_›).elim
    · exact (skipped.plain (by decide) no_bracket _ ‹_›).elim
    · exact (member_kept skipped).map Token.member

/-- Spare rounds change nothing either. -/
theorem body_kept {rounds more : Nat} {negated : Bool} {pending : Pending} {operand : Operand}
    (fueled : rounds ≤ more) (trails : Trails text longer) :
    Kept (body modes rounds negated pending operand text)
      (body modes more negated pending operand longer) := by
  induction rounds generalizing more negated pending operand text longer with
  | zero => exact .none
  | succ rounds induction =>
      cases more with
      | zero => cases fueled
      | succ more =>
          replace fueled := Nat.le_of_succ_le_succ fueled
          unfold body
          obtain none | ⟨token, rest, behind, alone, within, inner⟩ :=
            (token_kept modes trails).cases
          · rw [none]
            exact .none
          · rw [alone, within]
            cases token with
            | finish => exact .found inner
            | operator operator => exact induction fueled inner
            | member set => exact induction fueled inner
            | nested negated operand =>
                have inside : Kept (body modes rounds negated none operand rest)
                    (body modes more negated none operand behind) := induction fueled inner
                obtain none | ⟨read, rest, behind, alone, within, left⟩ := inside.cases
                · simp only [none]
                  exact .none
                · simp only [alone, within]
                  exact induction fueled left

theorem read_kept (trails : Trails text longer) : Kept (read modes text) (read modes longer) := by
  unfold read
  cases opens : opening modes text with
  | mk negated opened =>
      obtain ⟨behind, same, inner⟩ := opening_trails trails opens
      rw [same]
      exact body_kept (Nat.succ_le_succ trails.length_le) inner

end Bracket

end TupleSpace.Regex
