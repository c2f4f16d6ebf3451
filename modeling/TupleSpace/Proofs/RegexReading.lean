import TupleSpace.Regex.Reader
import TupleSpace.Proofs.RegexSearch
import TupleSpace.Proofs.RegexTrail

/-!
# Reading expressions

With `)$` behind it, a text is read as the expression that it is on its own, and the reading goes
on where the text ends. The rounds of the reading are told apart by their tokens: each reader of
tokens keeps what it reads, and so does an expression, however many rounds are left over. What is
read never asks for more repetitions than it allows.
-/

namespace TupleSpace.Regex

open TupleSpace.Text

namespace Reader

variable {modes : Modes} {context : Context} {text longer : List Char}

theorem count_kept (trails : Trails text longer) :
    Kept (count modes text) (count modes longer) := by
  unfold count
  cases taking : modes.takeSpaced Char.isDigit false (text.dropWhile isBlank) with
  | mk digits rest =>
      obtain ⟨behind, same, inner⟩ :=
        Modes.takeSpaced_trails trails.dropBlanks taking (Or.inl (by decide))
      simp only [same]
      split
      · exact .none
      · exact .some inner.dropBlanks

theorem counts_kept (modes : Modes) (trails : Trails text longer) :
    Kept (counts modes text) (counts modes longer) := by
  unfold counts
  refine (count_kept (modes.skip_trails trails)).bind ?_
  intro least rest behind trails
  dsimp only
  split
  · obtain ⟨_, rfl, inner⟩ := trails.of_cons
    exact .some inner
  · obtain ⟨_, rfl, inner⟩ := trails.of_cons
    have skipped := modes.skip_trails inner
    simp only
    split
    · rename_i here
      rw [here] at skipped
      obtain ⟨_, same, inner⟩ := skipped.of_cons
      simp only [same]
      exact .some inner
    · rename_i plain
      split
      · exact (skipped.plain (by decide) plain _ ‹_›).elim
      · refine (count_kept skipped).bind ?_
        intro greatest rest behind trails
        dsimp only
        split
        · obtain ⟨_, rfl, inner⟩ := trails.of_cons
          simp only
          split
          · exact .none
          · exact .some inner
        · exact .none
  · exact .none

theorem laziness_kept (trails : Trails text longer) :
    Kept (some (laziness modes text)) (some (laziness modes longer)) := by
  unfold laziness
  split
  · obtain ⟨_, rfl, inner⟩ := trails.of_cons
    exact .some inner
  · rename_i plain
    split
    · exact (trails.plain (by decide) plain _ rfl).elim
    · exact .some trails

theorem repetition_kept {least : Nat} {greatest : Option Nat} (trails : Trails text longer) :
    Kept (some (repetition modes least greatest text))
      (some (repetition modes least greatest longer)) :=
  (laziness_kept trails).map (Token.repetition least greatest)

theorem groupName_kept {names : List (List Char)} (trails : Trails text longer) :
    Kept (groupName names text) (groupName names longer) := by
  unfold groupName
  split
  · rename_i first others rest name here
    have behind := trails.dropWhile (· != '>') (fun _ => by decide)
    have same := trails.takeWhile (· != '>') (by simp [here])
    rw [here] at behind
    obtain ⟨_, there, inner⟩ := behind.of_cons
    rw [same, there, name]
    simp only
    split
    · exact .some inner
    · exact .none
  · exact .none

theorem flags_kept (trails : Trails text longer) :
    Kept (flags modes text) (flags modes longer) := by
  unfold flags
  split
  · rename_i reads
    obtain ⟨behind, same, inner⟩ := Modes.readFlags_kept trails reads
    simp only [same]
    split
    · exact .none
    · exact .some inner
  · rename_i read c rest grouped reads
    obtain ⟨behind, same, inner⟩ := Modes.readFlags_kept trails reads
    rw [same]
    split
    · rename_i there
      cases there
      exact (grouped rfl).elim
    · rename_i there
      cases there
      exact .some inner
    · contradiction
  · exact .none

theorem extension_kept (trails : Trails text longer) :
    Kept (extension context text) (extension context longer) := by
  unfold extension
  dsimp only
  split
  · exact .none
  · exact .none
  · exact .none
  · exact .none
  · obtain ⟨_, rfl, second⟩ := trails.of_cons
    obtain ⟨_, rfl, inner⟩ := second.of_cons
    exact (groupName_kept inner).map fun name => Opening.capture (some name)
  · rename_i no_equal no_exclamation
    obtain ⟨_, rfl, inner⟩ := trails.of_cons
    split
    · rename_i there
      simp at there
    · rename_i there
      simp at there
    · rename_i there
      cases there
      exact (inner.plain (by decide) no_equal _ rfl).elim
    · rename_i there
      cases there
      exact (inner.plain (by decide) no_exclamation _ rfl).elim
    · rename_i there
      simp at there
    · rename_i there
      cases there
      exact (groupName_kept inner).map fun name => Opening.capture (some name)
    · rename_i other
      exact (other _ rfl).elim
  · rename_i no_equal no_exclamation no_behind no_not_behind no_named no_angle
    split
    · exact (trails.plain (by decide) no_equal _ rfl).elim
    · exact (trails.plain (by decide) no_exclamation _ rfl).elim
    · exact (trails.plain (by decide) no_angle _ rfl).elim
    · exact (trails.plain (by decide) no_angle _ rfl).elim
    · exact (trails.plain_pair (by decide) no_named _ rfl).elim
    · exact (trails.plain (by decide) no_angle _ rfl).elim
    · exact flags_kept trails

theorem opening_kept (trails : Trails text longer) :
    Kept (opening context text) (opening context longer) := by
  have skipped := context.modes.skip_trails trails
  unfold opening
  split
  · obtain ⟨_, same, inner⟩ := context.modes.skip_cons trails ‹_›
    simp only [same]
    exact extension_kept inner
  · rename_i plain
    split
    · exact (skipped.plain (by decide) plain _ ‹_›).elim
    · exact .some skipped

theorem primitive_kept (trails : Trails text longer) :
    Kept (primitive modes text) (primitive modes longer) := by
  unfold primitive
  split
  · exact .none
  · obtain ⟨_, rfl, inner⟩ := trails.of_cons
    refine (Escape.read_kept inner).bind ?_
    intro atom rest behind trails
    dsimp only
    split
    · exact .under fun e => .some trails
    · exact .some trails
    · exact .some trails
  · obtain ⟨_, rfl, inner⟩ := trails.of_cons
    exact .found inner
  · obtain ⟨_, rfl, inner⟩ := trails.of_cons
    exact .some inner
  · obtain ⟨_, rfl, inner⟩ := trails.of_cons
    exact .some inner
  · rename_i c rest no_escape no_dot no_start no_end
    obtain ⟨behind, rfl, inner⟩ := trails.of_cons
    split
    · contradiction
    · exact (no_escape (List.cons.inj ‹_›).1).elim
    · exact (no_dot (List.cons.inj ‹_›).1).elim
    · exact (no_start (List.cons.inj ‹_›).1).elim
    · exact (no_end (List.cons.inj ‹_›).1).elim
    · rename_i same
      cases same
      exact .found inner

theorem token_kept (context : Context) (trails : Trails text longer) :
    Kept (token context text) (token context longer) := by
  have skipped := context.modes.skip_trails trails
  unfold token
  dsimp only
  split
  · rename_i nothing
    rw [nothing] at skipped
    rcases skipped.of_nil with same | same
    · rw [same]
      exact .some .refl
    · rw [same]
      exact .some (Or.inr rfl)
  · obtain ⟨_, same, inner⟩ := context.modes.skip_cons trails ‹_›
    simp only [same]
    exact .some inner.cons
  · obtain ⟨_, same, inner⟩ := context.modes.skip_cons trails ‹_›
    simp only [same]
    exact .some inner
  · obtain ⟨_, same, inner⟩ := context.modes.skip_cons trails ‹_›
    simp only [same]
    exact repetition_kept inner
  · obtain ⟨_, same, inner⟩ := context.modes.skip_cons trails ‹_›
    simp only [same]
    exact repetition_kept inner
  · obtain ⟨_, same, inner⟩ := context.modes.skip_cons trails ‹_›
    simp only [same]
    exact repetition_kept inner
  · obtain ⟨_, same, inner⟩ := context.modes.skip_cons trails ‹_›
    simp only [same]
    obtain none | ⟨⟨least, greatest⟩, rest, behind, alone, within, left⟩ :=
      (counts_kept context.modes inner).cases
    · rw [none]
      exact .none
    · rw [alone, within]
      exact repetition_kept (context.modes.skip_trails left)
  · obtain ⟨_, same, inner⟩ := context.modes.skip_cons trails ‹_›
    simp only [same]
    exact (Bracket.read_kept inner).map
      fun read => Token.part ⟨.set read.1 context.modes.unicode, read.2, true⟩
  · obtain ⟨_, same, inner⟩ := context.modes.skip_cons trails ‹_›
    simp only [same]
    exact (opening_kept inner).map (Opening.token context)
  · rename_i no_end no_close no_bar no_question no_star no_plus no_brace no_bracket no_open
    split
    · rename_i nothing
      rw [nothing] at skipped
      exact (no_end skipped.to_nil).elim
    · rename_i rest there
      cases shape : context.modes.skip text with
      | nil => exact (no_end shape).elim
      | cons c shorter =>
          obtain ⟨_, same, _⟩ := context.modes.skip_cons trails shape
          cases same.symm.trans there
          exact (no_close _ shape).elim
    · exact (skipped.plain (by decide) no_bar _ ‹_›).elim
    · exact (skipped.plain (by decide) no_question _ ‹_›).elim
    · exact (skipped.plain (by decide) no_star _ ‹_›).elim
    · exact (skipped.plain (by decide) no_plus _ ‹_›).elim
    · exact (skipped.plain (by decide) no_brace _ ‹_›).elim
    · exact (skipped.plain (by decide) no_bracket _ ‹_›).elim
    · exact (skipped.plain (by decide) no_open _ ‹_›).elim
    · exact (primitive_kept skipped).map fun e => Token.part ⟨e, 0, true⟩

/-- Spare rounds change nothing either. -/
theorem expression_kept {rounds more : Nat} {progress : Progress} {piece : Piece}
    {after : Context} {rest : List Char} (fueled : rounds ≤ more) (trails : Trails text longer)
    (reads : expression rounds context progress text = some (piece, after, rest)) :
    ∃ behind, expression more context progress longer = some (piece, after, behind) ∧
      Trails rest behind := by
  induction rounds generalizing more context progress text longer piece after rest with
  | zero => cases reads
  | succ rounds induction =>
      cases more with
      | zero => cases fueled
      | succ more =>
          replace fueled := Nat.le_of_succ_le_succ fueled
          unfold expression at reads ⊢
          obtain none | ⟨token, left, behind, alone, within, inner⟩ := (token_kept context trails).cases
          · rw [none] at reads
            cases reads
          · rw [alone] at reads
            rw [within]
            cases token with
            | finish =>
                cases reads
                exact ⟨behind, rfl, inner⟩
            | alternative => exact induction fueled inner reads
            | repetition least greatest isLazy =>
                dsimp only at reads ⊢
                split at reads
                · exact induction fueled inner reads
                · cases reads
            | part piece => exact induction fueled inner reads
            | directive modes => exact induction fueled inner reads
            | group number context =>
                dsimp only at reads ⊢
                split at reads
                · rename_i body
                  obtain ⟨_, same, closed⟩ := induction fueled inner body
                  obtain ⟨_, rfl, left⟩ := closed.of_cons
                  rw [same]
                  exact induction fueled left reads
                · cases reads

/-! ## Counts of repetitions -/

def Token.Ordered : Token → Prop
  | .repetition least greatest _ => ∀ most, greatest = some most → least ≤ most
  | .part piece => piece.expr.Ordered
  | _ => True

def Progress.Ordered (progress : Progress) : Prop :=
  (∀ piece ∈ progress.finished, piece.expr.Ordered) ∧
    ∀ piece ∈ progress.current, piece.expr.Ordered

theorem counts_ordered {least : Nat} {greatest : Option Nat} {rest : List Char}
    (reads : counts modes text = some ((least, greatest), rest)) :
    ∀ most, greatest = some most → least ≤ most := by
  unfold counts at reads
  obtain ⟨⟨first, behind⟩, _, reads⟩ := Option.bind_eq_some_iff.mp reads
  dsimp only at reads
  split at reads
  · cases reads
    rintro _ ⟨⟩
    exact Nat.le_refl _
  · split at reads
    · cases reads
      exact nofun
    · obtain ⟨⟨second, behind⟩, _, reads⟩ := Option.bind_eq_some_iff.mp reads
      dsimp only at reads
      split at reads
      · split at reads
        · cases reads
        · rename_i order
          cases reads
          rintro _ ⟨⟩
          exact Nat.le_of_not_lt order
      · cases reads
  · cases reads

theorem literal_ordered {c : Char} {isByte : Bool} {e : Expr}
    (reads : literal modes c isByte = some e) : e.Ordered := by
  unfold literal at reads
  split at reads
  · cases reads
  · split at reads
    · cases reads
      trivial
    · split at reads
      · cases reads
        trivial
      · cases reads
        trivial

theorem dot_ordered {e : Expr} (reads : dot modes = some e) : e.Ordered := by
  unfold dot at reads
  split at reads
  · cases reads
  · split at reads
    · cases reads
      trivial
    · split at reads
      · cases reads
        trivial
      · cases reads
        trivial

theorem primitive_ordered {e : Expr} {rest : List Char}
    (reads : primitive modes text = some (e, rest)) : e.Ordered := by
  unfold primitive at reads
  split at reads
  · cases reads
  · obtain ⟨⟨atom, behind⟩, _, reads⟩ := Option.bind_eq_some_iff.mp reads
    dsimp only at reads
    split at reads
    · obtain ⟨found, literal, reads⟩ := Option.bind_eq_some_iff.mp reads
      cases reads
      exact literal_ordered literal
    · cases reads
      trivial
    · cases reads
      trivial
  · obtain ⟨found, dot, reads⟩ := Option.map_eq_some_iff.mp reads
    cases reads
    exact dot_ordered dot
  · cases reads
    trivial
  · cases reads
    trivial
  · obtain ⟨found, literal, reads⟩ := Option.map_eq_some_iff.mp reads
    cases reads
    exact literal_ordered literal

theorem repetition_ordered {least : Nat} {greatest : Option Nat} {token : Token}
    {rest : List Char} (counts : ∀ most, greatest = some most → least ≤ most)
    (reads : some (repetition modes least greatest text) = some (token, rest)) :
    token.Ordered := by
  unfold repetition at reads
  cases reads
  exact counts

theorem token_ordered {token : Token} {rest : List Char}
    (reads : Reader.token context text = some (token, rest)) : token.Ordered := by
  unfold Reader.token at reads
  dsimp only at reads
  split at reads
  · cases reads
    trivial
  · cases reads
    trivial
  · cases reads
    trivial
  · exact repetition_ordered (fun _ _ => Nat.zero_le _) reads
  · refine repetition_ordered ?_ reads
    exact nofun
  · refine repetition_ordered ?_ reads
    exact nofun
  · obtain ⟨⟨⟨least, greatest⟩, behind⟩, counts, reads⟩ := Option.map_eq_some_iff.mp reads
    exact repetition_ordered (counts_ordered counts) (congrArg some reads)
  · obtain ⟨_, _, reads⟩ := Option.map_eq_some_iff.mp reads
    cases reads
    trivial
  · obtain ⟨⟨opening, behind⟩, _, reads⟩ := Option.map_eq_some_iff.mp reads
    cases reads
    cases opening <;> trivial
  · obtain ⟨⟨e, behind⟩, primitive, reads⟩ := Option.map_eq_some_iff.mp reads
    cases reads
    exact primitive_ordered primitive

theorem concat_ordered {parts : List Expr} (ordered : ∀ e ∈ parts, e.Ordered) :
    (Expr.concat parts).Ordered := by
  fun_induction Expr.concat parts with
  | case1 => trivial
  | case2 e => exact ordered e (by simp)
  | case3 e rest _ induction =>
      exact ⟨ordered e (by simp), induction fun part member => ordered part (by simp [member])⟩

theorem alternatives_ordered {parts : List Expr} (ordered : ∀ e ∈ parts, e.Ordered) :
    (Expr.alternatives parts).Ordered := by
  fun_induction Expr.alternatives parts with
  | case1 => trivial
  | case2 e => exact ordered e (by simp)
  | case3 e rest _ induction =>
      exact ⟨ordered e (by simp), induction fun part member => ordered part (by simp [member])⟩

theorem join_ordered {combine : List Expr → Expr}
    (combined : ∀ parts, (∀ e ∈ parts, e.Ordered) → (combine parts).Ordered)
    {pieces : List Piece} (ordered : ∀ piece ∈ pieces, piece.expr.Ordered) :
    (Piece.join combine pieces).expr.Ordered := by
  unfold Piece.join
  split
  · rename_i piece
    exact ordered piece (List.mem_singleton_self piece)
  · trivial
  · refine combined _ fun e member => ?_
    obtain ⟨piece, inside, rfl⟩ := List.mem_map.mp member
    exact ordered piece inside

namespace Progress

variable {progress after : Progress}

theorem Ordered.start : Progress.Ordered {} := ⟨by simp, by simp⟩

theorem Ordered.push (ordered : progress.Ordered) {piece : Piece} (part : piece.expr.Ordered) :
    (progress.push piece).Ordered := by
  refine ⟨ordered.1, fun other member => ?_⟩
  rcases List.mem_cons.mp member with rfl | member
  · exact part
  · exact ordered.2 other member

theorem Ordered.sequence (ordered : progress.Ordered) : progress.sequence.expr.Ordered :=
  join_ordered (fun _ => concat_ordered) fun piece member =>
    ordered.2 piece (List.mem_reverse.mp member)

theorem Ordered.finished (ordered : progress.Ordered) :
    ∀ piece ∈ progress.sequence :: progress.finished, piece.expr.Ordered := by
  intro piece member
  rcases List.mem_cons.mp member with rfl | member
  · exact ordered.sequence
  · exact ordered.1 piece member

theorem Ordered.nextAlternative (ordered : progress.Ordered) :
    progress.nextAlternative.Ordered :=
  ⟨ordered.finished, nofun⟩

theorem Ordered.finish (ordered : progress.Ordered) : progress.finish.expr.Ordered :=
  join_ordered (fun _ => alternatives_ordered) fun piece member =>
    ordered.finished piece (List.mem_reverse.mp member)

theorem Ordered.repeatLast (ordered : progress.Ordered) {least : Nat} {greatest : Option Nat}
    {isLazy : Bool} (counts : ∀ most, greatest = some most → least ≤ most)
    (repeats : progress.repeatLast least greatest isLazy = some after) : after.Ordered := by
  unfold Progress.repeatLast at repeats
  split at repeats
  · rename_i last earlier here
    split at repeats
    · cases repeats
      have parts := ordered.2
      rw [here] at parts
      refine ⟨ordered.1, fun piece member => ?_⟩
      rcases List.mem_cons.mp member with rfl | member
      · exact ⟨counts, parts last (by simp)⟩
      · exact parts piece (by simp [member])
    · cases repeats
  · cases repeats

end Progress

theorem expression_ordered {rounds : Nat} {progress : Progress} {piece : Piece} {after : Context}
    {rest : List Char} (ordered : progress.Ordered)
    (reads : expression rounds context progress text = some (piece, after, rest)) :
    piece.expr.Ordered := by
  induction rounds generalizing context progress text piece after rest with
  | zero => cases reads
  | succ rounds induction =>
      unfold expression at reads
      split at reads
      · cases reads
      · cases reads
        exact ordered.finish
      · exact induction ordered.nextAlternative reads
      · rename_i reading
        have counts := token_ordered reading
        split at reads
        · rename_i repeated
          exact induction (ordered.repeatLast counts repeated) reads
        · cases reads
      · rename_i reading
        exact induction (ordered.push (token_ordered reading)) reads
      · refine induction (ordered.push ?_) reads
        trivial
      · split at reads
        · rename_i body
          have inside := induction .start body
          refine induction (ordered.push ?_) reads
          exact inside
        · cases reads

end Reader

theorem Expr.read_ordered {text : List Char} {e : Expr} (reads : Expr.read? text = some e) :
    e.Ordered := by
  unfold Expr.read? at reads
  split at reads
  · rename_i body
    split at reads
    · cases reads
      exact Reader.expression_ordered .start body
    · cases reads
  · cases reads

end TupleSpace.Regex
