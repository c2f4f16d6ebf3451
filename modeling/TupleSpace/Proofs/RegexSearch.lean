import Mathlib.Data.Nat.Bitwise
import TupleSpace.Regex.Matcher

/-!
# Searches find what expressions match

A search works on sets of positions. For every part of an expression, the positions where it may
end are those that a match from one of the starts spans to, so a search succeeds just if the
expression matches some stretch of the text.
-/

namespace TupleSpace.Regex

/-- No repetition asks for more rounds than it allows. -/
def Expr.Ordered : Expr → Prop
  | .seq a b | .alt a b => a.Ordered ∧ b.Ordered
  | .rep body least greatest _ => (∀ most, greatest = some most → least ≤ most) ∧ body.Ordered
  | .group _ body => body.Ordered
  | _ => True

/-! ## Rounds -/

inductive Rounds (step : Nat → Nat → Prop) : Nat → Nat → Nat → Prop
  | nothing {i : Nat} : Rounds step 0 i i
  | again {count i j k : Nat} (first : step i j) (rest : Rounds step count j k) :
      Rounds step (count + 1) i k

namespace Rounds

variable {step : Nat → Nat → Prop} {count more i j k bound : Nat}

theorem append (first : Rounds step count i j) (rest : Rounds step more j k) :
    Rounds step (count + more) i k := by
  induction first with
  | nothing => simpa using rest
  | again first _ induction =>
      rw [Nat.add_right_comm]
      exact .again first (induction rest)

theorem split (rounds : Rounds step (count + more) i k) :
    ∃ j, Rounds step count i j ∧ Rounds step more j k := by
  induction count generalizing i with
  | zero => exact ⟨i, .nothing, by simpa using rounds⟩
  | succ count induction =>
      rw [Nat.add_right_comm] at rounds
      cases rounds with
      | again first rest =>
          obtain ⟨j, before, behind⟩ := induction rest
          exact ⟨j, .again first before, behind⟩

/-- Rounds that stand still can be left out, so there need not be more than there is room. -/
theorem shorten (forward : ∀ i j, step i j → i ≤ j) (rounds : Rounds step count i j) :
    i ≤ j ∧ ∃ fewer, fewer ≤ j - i ∧ Rounds step fewer i j := by
  induction rounds with
  | nothing => exact ⟨Nat.le_refl _, 0, Nat.zero_le _, .nothing⟩
  | @again count i j k first _ induction =>
      obtain ⟨later, fewer, room, rest⟩ := induction
      have ahead := forward i j first
      refine ⟨Nat.le_trans ahead later, ?_⟩
      rcases Nat.eq_or_lt_of_le ahead with rfl | moved
      · exact ⟨fewer, room, rest⟩
      · exact ⟨fewer + 1, by omega, .again first rest⟩

theorem stays (inside : Nat → Prop) (closed : ∀ i j, inside i → step i j → inside j)
    (rounds : Rounds step count i j) (start : inside i) : inside j := by
  induction rounds with
  | nothing => exact start
  | again first _ induction => exact induction (closed _ _ start first)

theorem within (inside : ∀ i j, step i j → j ≤ bound) (rounds : Rounds step count i j)
    (start : i ≤ bound) : j ≤ bound :=
  rounds.stays (· ≤ bound) (fun i j _ once => inside i j once) start

end Rounds

/-! ## What an expression spans -/

section

variable {text : List Char} {e body : Expr} {i j : Nat}

theorem Spans.forward (spans : Spans text e i j) : i ≤ j ∧ j ≤ text.length := by
  induction spans with
  | empty inside => exact ⟨Nat.le_refl _, inside⟩
  | set here =>
      have bound := (List.getElem?_eq_some_iff.mp here).1
      omega
  | look inside => exact ⟨Nat.le_refl _, inside⟩
  | seq _ _ first second => omega
  | altLeft _ left => exact left
  | altRight _ right => exact right
  | repDone inside => exact ⟨Nat.le_refl _, inside⟩
  | repOnce _ _ _ once more => omega
  | group _ inner => exact inner

theorem spans_rep_iff {least : Nat} {greatest : Option Nat} {isLazy : Bool} :
    Spans text (.rep body least greatest isLazy) i j ↔
      i ≤ text.length ∧ ∃ count, least ≤ count ∧ (∀ most, greatest = some most → count ≤ most) ∧
        Rounds (Spans text body) count i j := by
  constructor
  · intro spans
    refine ⟨Nat.le_trans spans.forward.1 spans.forward.2, ?_⟩
    generalize same : Expr.rep body least greatest isLazy = e at spans
    induction spans generalizing least greatest with
    | repDone =>
        cases same
        exact ⟨0, Nat.le_refl _, fun _ _ => Nat.zero_le _, .nothing⟩
    | repOnce once room _ _ induction =>
        cases same
        obtain ⟨count, enough, few, rounds⟩ := induction rfl
        refine ⟨count + 1, by omega, fun most greatest => ?_, .again once rounds⟩
        have fewer := few (most - 1) (by rw [greatest]; rfl)
        have positive : most ≠ 0 := by
          rintro rfl
          exact room greatest
        omega
    | _ => cases same
  · rintro ⟨inside, count, enough, few, rounds⟩
    induction count generalizing i least greatest with
    | zero =>
        cases rounds
        cases Nat.le_zero.mp enough
        exact .repDone inside
    | succ count induction =>
        cases rounds with
        | again first rest =>
            refine .repOnce first ?_ (induction first.forward.2 (by omega) ?_ rest)
            · rintro rfl
              exact absurd (few 0 rfl) (by omega)
            · intro most fewer
              obtain ⟨before, rfl, rfl⟩ := Option.map_eq_some_iff.mp fewer
              have room := few before rfl
              omega

end

/-! ## Sets of positions -/

def Within (bound positions : Nat) : Prop := ∀ i, positions.testBit i = true → i ≤ bound

def Follows (bound : Nat) (f : Nat → Nat) (step : Nat → Nat → Prop) : Prop :=
  ∀ starts, Within bound starts → ∀ j,
    (f starts).testBit j = true ↔ ∃ i, starts.testBit i = true ∧ step i j

theorem position_all {text : List Char} {i : Nat} :
    (allPositions text).testBit i = true ↔ i ≤ text.length := by
  rw [allPositions, Nat.pow_eq, Nat.testBit_two_pow_sub_one, decide_eq_true_eq]
  omega

theorem position_cons (here : Bool) (rest i : Nat) :
    ((if here then 1 else 0) + 2 * rest).testBit i =
      if i = 0 then here else rest.testBit (i - 1) := by
  cases i with
  | zero => cases here <;> simp [Nat.testBit_zero]
  | succ i =>
      have half : ((if here then 1 else 0) + 2 * rest) / 2 = rest := by
        split <;> omega
      rw [Nat.testBit_succ, half]
      simp

theorem position_char {test : Char → Bool} {text : List Char} {i : Nat} :
    (charPositions test text).testBit i = true ↔ ∃ c, text[i]? = some c ∧ test c = true := by
  induction text generalizing i with
  | nil => simp [charPositions]
  | cons c rest induction =>
      rw [charPositions, position_cons]
      cases i with
      | zero => simp
      | succ i => simpa using induction

theorem position_look {assertion : Look} {before : Option Char} {text : List Char} {i : Nat} :
    (lookPositions assertion before text).testBit i = true ↔
      i ≤ text.length ∧
        assertion.holds (if i = 0 then before else text[i - 1]?) text[i]? = true := by
  induction text generalizing before i with
  | nil =>
      rw [lookPositions]
      have shape := position_cons (assertion.holds before none) 0 i
      simp only [Nat.mul_zero, Nat.add_zero, Nat.zero_testBit] at shape
      rw [shape]
      cases i with
      | zero => simp
      | succ i => simp
  | cons c rest induction =>
      rw [lookPositions, position_cons]
      cases i with
      | zero => simp
      | succ i =>
          simp only [Nat.add_one_ne_zero, if_false, Nat.add_sub_cancel, List.length_cons,
            Nat.add_le_add_iff_right, List.getElem?_cons_succ]
          rw [induction]
          cases i with
          | zero => simp
          | succ i => simp

namespace Follows

variable {bound : Nat} {f : Nat → Nat} {step : Nat → Nat → Prop} {starts : Nat}

theorem within (follows : Follows bound f step) (inside : ∀ i j, step i j → j ≤ bound)
    (known : Within bound starts) : Within bound (f starts) := by
  intro j reached
  obtain ⟨i, _, stepped⟩ := (follows starts known j).mp reached
  exact inside i j stepped

theorem settled (follows : Follows bound f step) (known : Within bound starts)
    (same : f starts = starts) (count j : Nat) :
    starts.testBit j = true ↔ ∃ i, starts.testBit i = true ∧ Rounds step count i j := by
  induction count generalizing j with
  | zero =>
      refine ⟨fun reached => ⟨j, reached, .nothing⟩, ?_⟩
      rintro ⟨i, start, rounds⟩
      cases rounds
      exact start
  | succ count induction =>
      have once := follows starts known
      rw [same] at once
      constructor
      · intro reached
        obtain ⟨k, there, rounds⟩ := (induction j).mp reached
        obtain ⟨i, start, stepped⟩ := (once k).mp there
        exact ⟨i, start, .again stepped rounds⟩
      · rintro ⟨i, start, rounds⟩
        cases rounds with
        | again first rest => exact (induction j).mpr ⟨_, (once _).mpr ⟨i, start, first⟩, rest⟩

theorem iterate (follows : Follows bound f step) (inside : ∀ i j, step i j → j ≤ bound)
    (count : Nat) : Follows bound (iterate f count) (Rounds step count) := by
  induction count with
  | zero =>
      intro starts known j
      refine ⟨fun reached => ⟨j, reached, .nothing⟩, ?_⟩
      rintro ⟨i, start, rounds⟩
      cases rounds
      exact start
  | succ count induction =>
      intro starts known j
      unfold Regex.iterate
      dsimp only
      split
      · rename_i same
        exact follows.settled known same (count + 1) j
      · rw [induction (f starts) (follows.within inside known) j]
        constructor
        · rintro ⟨k, there, rounds⟩
          obtain ⟨i, start, stepped⟩ := (follows starts known k).mp there
          exact ⟨i, start, .again stepped rounds⟩
        · rintro ⟨i, start, rounds⟩
          cases rounds with
          | again first rest => exact ⟨_, (follows starts known _).mpr ⟨i, start, first⟩, rest⟩

end Follows

/-- All that is reached has been stepped from already, but for the frontier. -/
structure Spreading (bound : Nat) (step : Nat → Nat → Prop) (frontier reached : Nat) : Prop where
  known : Within bound reached
  front : ∀ i, frontier.testBit i = true → reached.testBit i = true
  closed : ∀ i j, reached.testBit i = true → frontier.testBit i = false → step i j →
    reached.testBit j = true

namespace Spreading

variable {bound : Nat} {f : Nat → Nat} {step : Nat → Nat → Prop} {frontier reached fresh : Nat}

theorem start (known : Within bound reached) : Spreading bound step reached reached where
  known := known
  front _ there := there
  closed i _ there old _ := by simp [there] at old

theorem ahead (spreading : Spreading bound step frontier reached) : Within bound frontier :=
  fun i there => spreading.known i (spreading.front i there)

theorem source (spreading : Spreading bound step frontier reached) (follows : Follows bound f step)
    (new : ∀ i, fresh.testBit i = true ↔
      (f frontier).testBit i = true ∧ reached.testBit i = false)
    {j : Nat} (there : fresh.testBit j = true) : ∃ i, reached.testBit i = true ∧ step i j := by
  obtain ⟨i, front, once⟩ := (follows frontier spreading.ahead j).mp ((new j).mp there).1
  exact ⟨i, spreading.front i front, once⟩

theorem stepped (spreading : Spreading bound step frontier reached)
    (follows : Follows bound f step)
    (new : ∀ i, fresh.testBit i = true ↔
      (f frontier).testBit i = true ∧ reached.testBit i = false)
    {i j : Nat} (there : reached.testBit i = true) (once : step i j) :
    reached.testBit j = true ∨ fresh.testBit j = true := by
  cases front : frontier.testBit i with
  | false => exact Or.inl (spreading.closed i j there front once)
  | true =>
      cases old : reached.testBit j with
      | true => exact Or.inl rfl
      | false =>
          have next := (follows frontier spreading.ahead j).mpr ⟨i, front, once⟩
          exact Or.inr ((new j).mpr ⟨next, old⟩)

theorem goes (spreading : Spreading bound step frontier reached) (follows : Follows bound f step)
    (inside : ∀ i j, step i j → j ≤ bound)
    (new : ∀ i, fresh.testBit i = true ↔
      (f frontier).testBit i = true ∧ reached.testBit i = false) :
    Spreading bound step fresh (reached ||| fresh) where
  known i there := by
    rw [Nat.testBit_or, Bool.or_eq_true] at there
    rcases there with there | there
    · exact spreading.known i there
    · obtain ⟨h, _, once⟩ := spreading.source follows new there
      exact inside h i once
  front i there := by simp [there]
  closed i j there old once := by
    rw [Nat.testBit_or, old, Bool.or_false] at there
    rw [Nat.testBit_or, Bool.or_eq_true]
    exact spreading.stepped follows new there once

end Spreading

namespace Follows

variable {bound : Nat} {f : Nat → Nat} {step : Nat → Nat → Prop}

theorem spread (follows : Follows bound f step) (inside : ∀ i j, step i j → j ≤ bound)
    (rounds : Nat) {frontier reached : Nat} (spreading : Spreading bound step frontier reached)
    (j : Nat) :
    (spread f rounds frontier reached).testBit j = true ↔
      ∃ i, reached.testBit i = true ∧ ∃ count, count ≤ rounds ∧ Rounds step count i j := by
  induction rounds generalizing frontier reached with
  | zero =>
      refine ⟨fun there => ⟨j, there, 0, Nat.le_refl _, .nothing⟩, ?_⟩
      rintro ⟨i, there, count, none, rounds⟩
      cases Nat.le_zero.mp none
      cases rounds
      exact there
  | succ rounds induction =>
      unfold Regex.spread
      dsimp only
      generalize fresh_def : f frontier ^^^ (f frontier &&& reached) = fresh
      have new : ∀ i, fresh.testBit i = true ↔
          (f frontier).testBit i = true ∧ reached.testBit i = false := by
        intro i
        rw [← fresh_def, Nat.testBit_xor, Nat.testBit_and]
        cases (f frontier).testBit i <;> cases reached.testBit i <;> simp
      split
      · rename_i nothing
        refine ⟨fun there => ⟨j, there, 0, Nat.zero_le _, .nothing⟩, ?_⟩
        rintro ⟨i, there, count, _, more⟩
        refine more.stays (reached.testBit · = true) (fun i j there once => ?_) there
        refine (spreading.stepped follows new there once).resolve_right ?_
        simp [nothing]
      · rw [induction (spreading.goes follows inside new)]
        simp only [Nat.testBit_or, Bool.or_eq_true]
        constructor
        · rintro ⟨i, there | there, count, few, more⟩
          · exact ⟨i, there, count, Nat.le_succ_of_le few, more⟩
          · obtain ⟨h, before, once⟩ := spreading.source follows new there
            exact ⟨h, before, count + 1, Nat.succ_le_succ few, .again once more⟩
        · rintro ⟨i, there, count, few, more⟩
          cases more with
          | nothing => exact ⟨_, Or.inl there, 0, Nat.zero_le _, .nothing⟩
          | again once more =>
              exact ⟨_, spreading.stepped follows new there once, _,
                Nat.le_of_succ_le_succ few, more⟩

theorem repeated {body : Plan} (follows : Follows bound body.ends step)
    (inside : ∀ i j, step i j → j ≤ bound) (least extra : Nat) :
    Follows bound (Plan.rep body least extra).ends
      (fun i j => ∃ more, more ≤ extra ∧ Rounds step (least + more) i j) := by
  intro starts known j
  have must := follows.iterate inside least starts known
  have met : Within bound (Regex.iterate body.ends least starts) := by
    intro k there
    obtain ⟨i, start, rounds⟩ := (must k).mp there
    exact rounds.within inside (known i start)
  rw [Plan.ends, follows.spread inside extra (.start met)]
  constructor
  · rintro ⟨k, there, more, few, behind⟩
    obtain ⟨i, start, before⟩ := (must k).mp there
    exact ⟨i, start, more, few, before.append behind⟩
  · rintro ⟨i, start, more, few, rounds⟩
    obtain ⟨k, before, behind⟩ := rounds.split
    exact ⟨k, (must k).mpr ⟨i, start, before⟩, more, few, behind⟩

end Follows

/-! ## What a plan reaches -/

section

variable {text : List Char}

/-- Every round of an unbounded repetition past the least that is not idle moves on, so that as
many rounds as there are positions are enough. -/
theorem ends_rep {body : Expr} {least : Nat} {greatest : Option Nat} {isLazy : Bool}
    (ordered : ∀ most, greatest = some most → least ≤ most)
    (follows : Follows text.length (body.over text).ends (Spans text body)) :
    Follows text.length ((Expr.rep body least greatest isLazy).over text).ends
      (Spans text (.rep body least greatest isLazy)) := by
  intro starts known j
  have inside : ∀ i j, Spans text body i j → j ≤ text.length := fun _ _ spans => spans.forward.2
  simp only [spans_rep_iff]
  cases greatest with
  | some most =>
      have room := ordered most rfl
      rw [Expr.over, follows.repeated inside least (most - least) _ known]
      constructor
      · rintro ⟨i, start, more, few, rounds⟩
        refine ⟨i, start, known i start, least + more, Nat.le_add_right _ _, ?_, rounds⟩
        rintro _ ⟨⟩
        omega
      · rintro ⟨i, start, _, count, enough, few, rounds⟩
        have few := few most rfl
        exact ⟨i, start, count - least, by omega, by rwa [Nat.add_sub_cancel' enough]⟩
  | none =>
      rw [Expr.over, follows.repeated inside least (text.length + 1) _ known]
      constructor
      · rintro ⟨i, start, more, _, rounds⟩
        exact ⟨i, start, known i start, least + more, Nat.le_add_right _ _, nofun, rounds⟩
      · rintro ⟨i, start, _, count, enough, _, rounds⟩
        rw [← Nat.add_sub_cancel' enough] at rounds
        obtain ⟨k, must, more⟩ := rounds.split
        obtain ⟨_, fewer, few, rest⟩ := more.shorten (fun _ _ spans => spans.forward.1)
        have bound := more.within inside (must.within inside (known i start))
        exact ⟨i, start, fewer, by omega, must.append rest⟩

theorem ends_over {e : Expr} (ordered : e.Ordered) :
    Follows text.length (e.over text).ends (Spans text e) := by
  induction e with
  | empty =>
      intro starts known j
      simp only [Expr.over, Plan.ends, Nat.testBit_and, Bool.and_eq_true, position_all]
      constructor
      · rintro ⟨start, inside⟩
        exact ⟨j, start, .empty inside⟩
      · rintro ⟨i, start, spans⟩
        cases spans with
        | empty inside => exact ⟨start, inside⟩
  | set members unicode =>
      intro starts known j
      simp only [Expr.over, Plan.ends, Nat.testBit_shiftLeft, Nat.testBit_and, Bool.and_eq_true,
        position_char, decide_eq_true_eq]
      constructor
      · rintro ⟨moved, start, c, here, member⟩
        refine ⟨j - 1, start, ?_⟩
        have spans : Spans text (.set members unicode) (j - 1) (j - 1 + 1) := .set here member
        rwa [Nat.sub_add_cancel moved] at spans
      · rintro ⟨i, start, spans⟩
        cases spans with
        | set here member => exact ⟨by omega, start, _, here, member⟩
  | look assertion =>
      intro starts known j
      simp only [Expr.over, Plan.ends, Nat.testBit_and, Bool.and_eq_true, position_look]
      constructor
      · rintro ⟨start, inside, holds⟩
        exact ⟨j, start, .look inside holds⟩
      · rintro ⟨i, start, spans⟩
        cases spans with
        | look inside holds => exact ⟨start, inside, holds⟩
  | seq a b first second =>
      intro starts known j
      have reach := (first ordered.1).within (fun _ _ spans => spans.forward.2) known
      rw [Expr.over, Plan.ends, second ordered.2 _ reach]
      constructor
      · rintro ⟨k, there, behind⟩
        obtain ⟨i, start, before⟩ := (first ordered.1 _ known k).mp there
        exact ⟨i, start, .seq before behind⟩
      · rintro ⟨i, start, spans⟩
        cases spans with
        | seq before behind => exact ⟨_, (first ordered.1 _ known _).mpr ⟨i, start, before⟩, behind⟩
  | alt a b first second =>
      intro starts known j
      rw [Expr.over, Plan.ends, Nat.testBit_or, Bool.or_eq_true, first ordered.1 _ known,
        second ordered.2 _ known]
      constructor
      · rintro (⟨i, start, spans⟩ | ⟨i, start, spans⟩)
        · exact ⟨i, start, .altLeft spans⟩
        · exact ⟨i, start, .altRight spans⟩
      · rintro ⟨i, start, spans⟩
        cases spans with
        | altLeft left => exact Or.inl ⟨i, start, left⟩
        | altRight right => exact Or.inr ⟨i, start, right⟩
  | rep body least greatest isLazy induction =>
      exact ends_rep ordered.1 (induction ordered.2)
  | group number body induction =>
      intro starts known j
      rw [Expr.over, induction ordered _ known]
      constructor
      · rintro ⟨i, start, spans⟩
        exact ⟨i, start, .group spans⟩
      · rintro ⟨i, start, spans⟩
        cases spans with
        | group inner => exact ⟨i, start, inner⟩

theorem search_iff {e : Expr} (ordered : e.Ordered) : e.search text = true ↔ Found e text := by
  have everywhere : Within text.length (allPositions text) := fun _ => position_all.mp
  have reaches := ends_over ordered (allPositions text) everywhere
  rw [Expr.search, bne_iff_ne, ne_eq]
  constructor
  · intro some_end
    obtain ⟨j, there⟩ := Nat.exists_testBit_of_ne_zero some_end
    obtain ⟨i, _, spans⟩ := (reaches j).mp there
    exact ⟨i, j, spans⟩
  · rintro ⟨i, j, spans⟩ nothing
    have start := position_all.mpr (Nat.le_trans spans.forward.1 spans.forward.2)
    have there := (reaches j).mpr ⟨i, start, spans⟩
    rw [nothing, Nat.zero_testBit] at there
    cases there

end

end TupleSpace.Regex
