import TupleSpace.Pattern
import TupleSpace.Proofs.RegexReading

/-!
# Patterns match whole tuples

The wrapping of a pattern is text, and what it makes of a pattern is a matter of how the text is
read. A pattern that reads as an expression on its own is read as that expression between the two
anchors, and so it matches a tuple just if the expression matches the tuple as a whole. A pattern
that does not read on its own may be accepted all the same, when the parentheses of the wrapping
supply those it lacks.
-/

namespace TupleSpace

open TupleSpace.Regex

/-- The expression between the anchors, as it is read with the wrapping around it. -/
def anchored (e : Expr) : Expr := .seq (.look .textStart) (.seq (.group none e) (.look .textEnd))

theorem holdsAt_textStart {text : List Char} {i : Nat} (inside : i ≤ text.length) :
    Look.textStart.holdsAt text i = true ↔ i = 0 := by
  cases i with
  | zero => simp [Look.holdsAt, Look.holds]
  | succ i => simp [Look.holdsAt, Look.holds, List.getElem?_eq_getElem inside]

theorem holdsAt_textEnd {text : List Char} {i : Nat} (inside : i ≤ text.length) :
    Look.textEnd.holdsAt text i = true ↔ i = text.length := by
  simp only [Look.holdsAt, Look.holds, Option.isNone_iff_eq_none, List.getElem?_eq_none_iff]
  omega

theorem found_anchored_iff {e : Expr} {text : List Char} :
    Found (anchored e) text ↔ Whole e text := by
  constructor
  · rintro ⟨i, k, spans⟩
    cases spans with
    | seq first rest =>
      cases first with
      | look begins starts =>
        cases rest with
        | seq whole last =>
          cases whole with
          | group inner =>
            cases last with
            | look inside ends =>
              cases (holdsAt_textStart begins).mp starts
              cases (holdsAt_textEnd inside).mp ends
              exact inner
  · intro whole
    have starts := (holdsAt_textStart (Nat.zero_le text.length)).mpr rfl
    have ends := (holdsAt_textEnd (Nat.le_refl text.length)).mpr rfl
    exact ⟨0, text.length, .seq (.look (Nat.zero_le _) starts)
      (.seq (.group whole) (.look (Nat.le_refl _) ends))⟩

/-- What stands between the anchors is read as a text of its own, up to where that ends. -/
theorem expression_anchored {rounds : Nat} {text : List Char} :
    Reader.expression (rounds + 2) {} {} ('^' :: '(' :: '?' :: ':' :: text) =
      match Reader.expression rounds {} {} text with
      | some (piece, after, ')' :: rest) =>
          Reader.expression rounds { after with modes := {} }
            ⟨[], [⟨.group none piece.expr, piece.depth + 1, true⟩, ⟨.look .textStart, 0, true⟩]⟩ rest
      | _ => none := by
  rfl

theorem read_anchored {source : String} {e expr : Expr}
    (alone : Expr.read? source.toList = some e)
    (wrapped : Expr.read? (anchoredSource source) = some expr) : expr = anchored e := by
  have shape : anchoredSource source =
      '^' :: '(' :: '?' :: ':' :: (source.toList ++ [')', '$']) := by
    simp [anchoredSource]
  have rounds : (anchoredSource source).length + 1 = (source.toList.length + 5) + 2 := by
    simp [anchoredSource]
  unfold Expr.read? at alone wrapped
  split at alone
  · rename_i piece after reading
    split at alone
    · cases alone
      obtain ⟨behind, inner, trails⟩ :=
        Reader.expression_kept (Nat.add_le_add_left (by decide : 1 ≤ 5) _) (Or.inr rfl) reading
      rw [rounds, shape, expression_anchored, inner] at wrapped
      rcases trails.of_nil with rfl | rfl
      · -- A comment has swallowed the closing parenthesis.
        cases wrapped
      · split at wrapped
        · rename_i whole beyond closed
          have expressions : anchored piece.expr = whole.expr :=
            congrArg Reader.Piece.expr (Prod.mk.inj (Option.some.inj closed)).1
          split at wrapped
          · cases wrapped
            exact expressions.symm
          · cases wrapped
        · cases wrapped
    · cases alone
  · cases alone

namespace Pattern

theorem reads {pattern : Pattern} :
    Expr.read? (anchoredSource pattern.source) = some pattern.expr := by
  have compiled := pattern.compiled
  unfold compilePattern? at compiled
  split at compiled
  · exact (Option.filter_eq_some_iff.mp compiled).1
  · cases compiled

theorem hits_iff {pattern : Pattern} {tuple : String} :
    pattern.hits tuple = true ↔ Found pattern.expr tuple.toList :=
  search_iff (Expr.read_ordered reads)

theorem parse_source {source : String} {pattern : Pattern}
    (accepted : parse source = .ok pattern) : pattern.source = source := by
  unfold parse at accepted
  split at accepted
  · cases accepted
    rfl
  · cases accepted

/-- A pattern is a search for what its wrapped text reads as. It matches whole tuples, those that
its own text matches as an expression, exactly when that text reads as an expression. -/
theorem matches_whole {source : String} {pattern : Pattern}
    (accepted : parse source = .ok pattern) :
    (∀ tuple : String, pattern.hits tuple = true ↔
      ∃ e, Expr.read? (anchoredSource source) = some e ∧ Found e tuple.toList) ∧
    ((Expr.read? source.toList).isSome = true ↔
      ∃ e, Expr.read? source.toList = some e ∧
        ∀ tuple : String, pattern.hits tuple = true ↔ Whole e tuple.toList) := by
  have wrapped := pattern.reads
  rw [parse_source accepted] at wrapped
  refine ⟨fun tuple => ?_, fun well_formed => ?_, ?_⟩
  · rw [hits_iff, wrapped]
    simp
  · obtain ⟨e, alone⟩ := Option.isSome_iff_exists.mp well_formed
    refine ⟨e, alone, fun tuple => ?_⟩
    rw [hits_iff, read_anchored alone wrapped, found_anchored_iff]
  · rintro ⟨e, alone, _⟩
    rw [alone]
    rfl

/-- The pattern `<a>|<b>` matches the tuple `<a>`, and not `<a>x<b>` although each alternative
matches a part of it. -/
theorem matches_whole_of_alternatives :
    ∃ pattern, parse "<a>|<b>" = .ok pattern ∧
      ∃ e, Expr.read? "<a>|<b>".toList = some e ∧
        (∀ tuple : String, pattern.hits tuple = true ↔ Whole e tuple.toList) ∧
        Whole e "<a>".toList ∧ ¬ Whole e "<a>x<b>".toList := by
  have answers : (parse "<a>|<b>").toOption.map
      (fun pattern => (pattern.hits "<a>", pattern.hits "<a>x<b>")) = some (true, false) := by
    decide +kernel
  cases accepted : parse "<a>|<b>" with
  | error cause =>
      rw [accepted] at answers
      cases answers
  | ok pattern =>
      rw [accepted] at answers
      obtain ⟨e, alone, whole⟩ := (matches_whole accepted).2.mp (by decide +kernel)
      have hits := Prod.mk.inj (Option.some.inj answers)
      refine ⟨pattern, rfl, e, alone, whole, (whole _).mp hits.1, fun other => ?_⟩
      rw [(whole _).mpr other] at hits
      cases hits.2

/-- The pattern `<a)|(?:b>` is no expression on its own. Wrapped, it is one with two
alternatives, and each of them is anchored at one end only. -/
theorem unbalanced_matches_part :
    ∃ pattern, parse "<a)|(?:b>" = .ok pattern ∧ Expr.read? "<a)|(?:b>".toList = none ∧
      pattern.hits "<ax>" = true := by
  have answer : (parse "<a)|(?:b>").toOption.map (·.hits "<ax>") = some true := by decide +kernel
  cases accepted : parse "<a)|(?:b>" with
  | error cause =>
      rw [accepted] at answer
      cases answer
  | ok pattern =>
      rw [accepted] at answer
      exact ⟨pattern, rfl, by decide +kernel, Option.some.inj answer⟩

end Pattern

end TupleSpace
