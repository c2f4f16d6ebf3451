import TupleSpace.Proofs.PatternWhole

/-!
# Patterns that spell a tuple

A text without any of the characters that expressions give a meaning of their own is read
character by character. As an expression it matches itself from beginning to end and nothing else,
so that a tuple can be looked for by its own text, unless it is too long to be compiled.
-/

namespace TupleSpace.Regex

def metacharacters : List Char :=
  ['\\', '.', '+', '*', '?', '(', ')', '|', '[', ']', '\x7b', '\x7d', '^', '$']

def Plain (text : List Char) : Prop := ∀ c ∈ text, c ∉ metacharacters

instance (text : List Char) : Decidable (Plain text) :=
  decidable_of_iff (text.all fun c => c ∉ metacharacters) (by simp [Plain])

def Expr.literal (text : List Char) : Expr := concat (text.map char)

/-! ## Reading -/

namespace Reader

def Piece.char (c : Char) : Piece := ⟨.char c, 0, true⟩

theorem primitive_plain {c : Char} (plain : c ∉ metacharacters) (rest : List Char) :
    primitive {} (c :: rest) = some (.char c, rest) := by
  simp only [metacharacters, List.mem_cons, not_or] at plain
  unfold primitive
  split
  case h_6 same =>
    cases same
    rfl
  all_goals simp_all

theorem token_plain {c : Char} (plain : c ∉ metacharacters) (rest : List Char) :
    token {} (c :: rest) = some (.part (.char c), rest) := by
  have primitive := primitive_plain plain rest
  simp only [metacharacters, List.mem_cons, not_or] at plain
  unfold token
  simp only [Modes.skip, Bool.false_eq_true, if_false]
  split
  case h_10 =>
    rw [primitive]
    rfl
  all_goals simp_all

/-- Plain text is read up to its end or to a parenthesis that closes it. -/
theorem expression_plain {rounds : Nat} {progress : Progress} {text behind : List Char}
    (plain : Plain text) (closed : behind = [] ∨ ∃ rest, behind = ')' :: rest)
    (fueled : text.length < rounds) :
    expression rounds {} progress (text ++ behind) =
      some (Progress.finish ⟨progress.finished, (text.map Piece.char).reverse ++ progress.current⟩,
        {}, behind) := by
  induction text generalizing rounds progress with
  | nil =>
      cases rounds with
      | zero => cases fueled
      | succ rounds =>
          rcases closed with rfl | ⟨rest, rfl⟩ <;> rfl
  | cons c rest induction =>
      cases rounds with
      | zero => cases fueled
      | succ rounds =>
          have others : Plain rest := fun d member => plain d (List.mem_cons_of_mem c member)
          rw [List.cons_append]
          unfold expression
          rw [token_plain (plain c List.mem_cons_self)]
          simp only
          rw [induction others (Nat.lt_of_succ_lt_succ fueled)]
          simp [Progress.push]

theorem join_concat (pieces : List Piece) :
    (Piece.join Expr.concat pieces).expr = Expr.concat (pieces.map (·.expr)) := by
  unfold Piece.join
  split <;> rfl

theorem depth_chars (text : List Char) :
    ((text.map Piece.char).map (·.depth)).foldl max 0 = 0 := by
  induction text with
  | nil => rfl
  | cons c rest induction => exact induction

theorem depth_join_chars (text : List Char) :
    (Piece.join Expr.concat (text.map Piece.char)).depth ≤ 1 := by
  unfold Piece.join
  split
  · rename_i single
    obtain ⟨c, _, rfl⟩ := List.mem_map.mp (single ▸ List.mem_singleton_self _)
    exact Nat.zero_le 1
  · exact Nat.zero_le 1
  · rw [depth_chars]

end Reader

theorem read_wrapped {source : String} (plain : Plain source.toList) :
    Expr.read? (anchoredSource source) = some (anchored (.literal source.toList)) := by
  have shape : anchoredSource source =
      '^' :: '(' :: '?' :: ':' :: (source.toList ++ [')', '$']) := by
    simp [anchoredSource]
  have rounds : (anchoredSource source).length + 1 = (source.toList.length + 5) + 2 := by
    simp [anchoredSource]
  unfold Expr.read?
  rw [rounds, shape, expression_anchored,
    Reader.expression_plain plain (Or.inr ⟨['$'], rfl⟩) (by omega), List.append_nil]
  have shallow := Reader.depth_join_chars source.toList
  have spelled := Reader.join_concat (source.toList.map Reader.Piece.char)
  rw [List.map_map] at spelled
  simp only [Reader.Progress.finish, Reader.Progress.sequence, List.reverse_reverse]
  generalize Reader.Piece.join Expr.concat (source.toList.map Reader.Piece.char) = piece
    at shallow spelled ⊢
  have body : piece.expr = .literal source.toList := spelled
  change (if max (max (max 0 0) (piece.depth + 1)) 0 + 1 ≤ Reader.nestingLimit
    then some (anchored piece.expr) else none) = _
  rw [if_pos (by simp [Reader.nestingLimit]; omega), body]

/-! ## Matching -/

section

variable {text : List Char} {e : Expr} {parts : List Expr} {i k : Nat}

theorem contains_singleton {c d : Char} : (CharSet.singleton c).contains d = true ↔ d = c := by
  rw [← Char.toNat_inj]
  simp only [CharSet.contains, CharSet.singleton, CharSet.range, CodeRange.contains, List.any_cons,
    List.any_nil, Bool.or_false, Bool.and_eq_true, decide_eq_true_eq]
  omega

theorem spans_concat_cons : Spans text (.concat (e :: parts)) i k ↔
    ∃ j, Spans text e i j ∧ Spans text (.concat parts) j k := by
  cases parts with
  | nil =>
      constructor
      · exact fun spans => ⟨k, spans, .empty spans.forward.2⟩
      · rintro ⟨j, spans, nothing⟩
        cases nothing
        exact spans
  | cons next rest =>
      constructor
      · rintro (_ | _)
        exact ⟨_, ‹_›, ‹_›⟩
      · rintro ⟨j, first, second⟩
        exact .seq first second

theorem spans_char {c : Char} : Spans text (.char c) i k ↔ text[i]? = some c ∧ k = i + 1 := by
  constructor
  · intro spans
    cases spans with
    | set here member => exact ⟨contains_singleton.mp member ▸ here, rfl⟩
  · rintro ⟨here, rfl⟩
    exact .set here (contains_singleton.mpr rfl)

theorem spans_literal {spelled : List Char} : Spans text (.literal spelled) i k ↔
    i ≤ text.length ∧ spelled <+: text.drop i ∧ k = i + spelled.length := by
  induction spelled generalizing i with
  | nil =>
      constructor
      · intro spans
        cases spans with
        | empty inside => exact ⟨inside, List.nil_prefix, rfl⟩
      · rintro ⟨inside, _, rfl⟩
        exact .empty inside
  | cons c rest induction =>
      have split : Spans text (.literal (c :: rest)) i k ↔
          text[i]? = some c ∧ Spans text (.literal rest) (i + 1) k := by
        simp only [Expr.literal, List.map_cons, spans_concat_cons, spans_char]
        constructor
        · rintro ⟨_, ⟨here, rfl⟩, more⟩
          exact ⟨here, more⟩
        · rintro ⟨here, more⟩
          exact ⟨i + 1, ⟨here, rfl⟩, more⟩
      rw [split, induction, List.length_cons]
      by_cases inside : i < text.length
      · rw [List.drop_eq_getElem_cons inside, List.cons_prefix_cons,
          List.getElem?_eq_getElem inside, Option.some.injEq, eq_comm (a := c)]
        constructor
        · rintro ⟨here, _, more, rfl⟩
          exact ⟨by omega, ⟨here, more⟩, by omega⟩
        · rintro ⟨_, ⟨here, more⟩, rfl⟩
          exact ⟨here, by omega, more, by omega⟩
      · have past : text.drop i = [] := List.drop_eq_nil_of_le (by omega)
        have missing : text[i]? = none := List.getElem?_eq_none (by omega)
        simp [past, missing]

theorem whole_literal {spelled : List Char} : Whole (.literal spelled) text ↔ text = spelled := by
  rw [Whole, spans_literal, List.drop_zero, Nat.zero_add]
  constructor
  · rintro ⟨_, beginning, length⟩
    exact (beginning.eq_of_length length.symm).symm
  · rintro rfl
    exact ⟨Nat.zero_le _, List.prefix_refl _, rfl⟩

end

/-! ## Size -/

def byteLength (text : List Char) : Nat := (text.flatMap (Encoding.utf8 ·.toNat)).length

theorem length_utf8 (c : Char) : (Encoding.utf8 c.toNat).length = c.utf8Size := by
  have order : ∀ bound : UInt32, c.val ≤ bound ↔ c.toNat ≤ bound.toNat :=
    fun _ => UInt32.le_iff_toNat_le
  unfold Encoding.utf8 Char.utf8Size
  simp only [order, UInt32.toNat_ofNatLT]
  grind

theorem byte_length (text : List Char) : byteLength text = (String.ofList text).utf8ByteSize := by
  induction text with
  | nil => rfl
  | cons c rest induction =>
      have parts : String.ofList (c :: rest) = String.singleton c ++ String.ofList rest := by
        rw [String.singleton_eq_ofList, ← String.ofList_append]
        rfl
      rw [parts, String.utf8ByteSize_append, String.utf8ByteSize_singleton, ← length_utf8,
        ← induction]
      simp [byteLength]

theorem of_set_singleton (c : Char) : Normal.ofSet (.singleton c) true = .literal [c] := by
  simp [Normal.ofSet, CharSet.singleton, CharSet.range]

theorem alternatives_literal (rounds : Nat) (c : Char) (rest : List Char) :
    Normal.alternatives rounds (.literal (c :: rest)) = [.literal (c :: rest)] := by
  induction rest generalizing c with
  | nil => exact congrArg ([·]) (of_set_singleton c)
  | cons d rest induction =>
      change [(Normal.ofSet (.singleton c) true).append (Normal.alternatives.joined rounds
        (Normal.alternatives rounds (.literal (d :: rest))))] = _
      rw [induction, of_set_singleton]
      rfl

theorem normalize_anchored {text : List Char} (something : text ≠ []) :
    (anchored (.literal text)).normalize =
      .seq (.look .textStart) (.seq (.literal text) (.look .textEnd)) := by
  obtain ⟨c, rest, rfl⟩ := List.exists_cons_of_ne_nil something
  unfold Expr.normalize anchored
  generalize Expr.size _ = rounds
  simp only [Normal.alternatives, Normal.alternatives.joined, alternatives_literal]
  rfl

namespace Footprint

/-- A layout of states whose ways out take no room. -/
def Layout.Adds (layout : Layout) (count : Nat) : Prop :=
  ∀ tally, layout.lay tally = tally.grow? count 0

theorem adds_states (count : Nat) : (Layout.states count 0).Adds count := fun _ => rfl

theorem Layout.Adds.andThen {first second : Layout} {count more : Nat} (front : first.Adds count)
    (back : second.Adds more) : (first.andThen second).Adds (count + more) := by
  intro tally
  simp only [Layout.andThen, front tally]
  unfold Tally.grow?
  simp only [Nat.add_zero, Nat.mul_add, ← Nat.add_assoc]
  by_cases room : tally.bytes + stateBytes * count ≤ limit
  · rw [if_pos room]
    exact back _
  · have full : ¬ tally.bytes + stateBytes * count + stateBytes * more ≤ limit := by omega
    rw [if_neg room, if_neg full]

theorem Layout.Adds.accepted_iff {layout : Layout} {count : Nat} (adds : layout.Adds count) :
    (layout.lay {}).isSome = true ↔ stateBytes * count ≤ limit := by
  rw [adds]
  simp [Tally.grow?]

end Footprint

open Footprint in
theorem fits_anchored {text : List Char} (something : text ≠ []) :
    fits (anchored (.literal text)) = true ↔ byteLength text ≤ 327674 := by
  have pass : Layout.pass.Adds 1 := adds_states 1
  have body : (Layout.states (byteLength text) 0).Adds (byteLength text) := adds_states _
  have forward : (automaton .forward
      (.seq (.look .textStart) (.seq (.literal text) (.look .textEnd)))).Adds
      (1 + (1 + (1 + (byteLength text + 1)) + 1) + 1) :=
    (pass.andThen ((pass.andThen (pass.andThen (body.andThen pass))).andThen pass)).andThen pass
  have backward : (automaton .backward
      (.seq (.look .textStart) (.seq (.literal text) (.look .textEnd)))).Adds
      (1 + (1 + byteLength text + 1) + 1) :=
    (pass.andThen ((pass.andThen body).andThen pass)).andThen pass
  unfold fits
  simp only [normalize_anchored something, Bool.and_eq_true, forward.accepted_iff,
    backward.accepted_iff, stateBytes, limit]
  omega

end TupleSpace.Regex

namespace TupleSpace.Pattern

open TupleSpace.Regex

/-- Plain text between brackets is refused for its size only. The limit leaves room for 327680
states, one for each byte of the text and six around them. -/
theorem plain_accepted_iff {source : String} (plain : Plain source.toList) :
    (∃ pattern, parse source = .ok pattern) ↔
      isBracketed source = true ∧ source.utf8ByteSize ≤ 327674 := by
  have accepted : (∃ pattern, parse source = .ok pattern) ↔
      (compilePattern? source).isSome = true := by
    unfold parse
    split
    · rename_i compiled
      simp [compiled]
    · rename_i refused
      simp [refused]
  rw [accepted, compilePattern?, read_wrapped plain]
  by_cases bracketed : isBracketed source = true
  · have something : source.toList ≠ [] := by
      intro nothing
      simp [isBracketed, nothing] at bracketed
    have bytes : source.utf8ByteSize = byteLength source.toList := by
      rw [byte_length, String.ofList_toList]
    rw [if_pos bracketed, bytes, ← fits_anchored something]
    by_cases fits : Footprint.fits (anchored (.literal source.toList)) = true <;>
      simp [Option.filter_some, fits, bracketed]
  · simp [bracketed]

/-- A pattern that is plain text hits the tuple that it spells, and no other. -/
theorem plain_hits_itself {source : String} {pattern : Pattern} (plain : Plain source.toList)
    (accepted : parse source = .ok pattern) (tuple : String) :
    pattern.hits tuple = true ↔ tuple = source := by
  have wrapped := pattern.reads
  rw [parse_source accepted, read_wrapped plain] at wrapped
  rw [hits_iff, ← Option.some.inj wrapped, found_anchored_iff, whole_literal]
  exact String.toList_inj

/-- A tuple with characters past ASCII and with some that only flags or classes give a meaning. The
same tuple with a line end behind it or with a capital letter is another one. -/
theorem plain_hits_itself_of_odd_text :
    ∃ pattern, parse "<é b,#1-2&&~>" = .ok pattern ∧ pattern.hits "<é b,#1-2&&~>" = true ∧
      pattern.hits "<é b,#1-2&&~>\n" = false ∧ pattern.hits "<É b,#1-2&&~>" = false := by
  have plain : Plain "<é b,#1-2&&~>".toList := by decide +kernel
  obtain ⟨pattern, accepted⟩ := (plain_accepted_iff plain).mpr (by decide +kernel)
  have itself := plain_hits_itself plain accepted
  refine ⟨pattern, accepted, (itself _).mpr rfl, Bool.eq_false_iff.mpr fun hit => ?_,
    Bool.eq_false_iff.mpr fun hit => ?_⟩
  · exact absurd ((itself _).mp hit) (by decide)
  · exact absurd ((itself _).mp hit) (by decide)

end TupleSpace.Pattern
