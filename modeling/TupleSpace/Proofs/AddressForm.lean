import Mathlib.Data.List.TakeWhile
import TupleSpace.Proofs.TypedText
import TupleSpace.Registry

/-!
# What addresses look like

An address is a host and a port around its only colon. The port is a number as people type it, so
that an endpoint has many addresses. A text that is no address has one of three flaws, and the
refusal tells which.
-/

namespace TupleSpace.Address

open TupleSpace.Text

structure Halves (text host port : List Char) : Prop where
  whole : text = host ++ ':' :: port
  before : ':' ∉ host
  behind : ':' ∉ port

structure Spells (text : String) (endpoint : Address) (port : List Char) : Prop where
  halves : Halves text.toList endpoint.host port
  named : endpoint.host ≠ []
  numeral : Numeral port endpoint.port
  positive : 0 < endpoint.port
  small : endpoint.port < UInt16.size

def StandsFor (text : String) (endpoint : Address) : Prop := ∃ port, Spells text endpoint port

inductive Flaw (text : String) : EntryFault → Prop
  | form (unhalved : ∀ host port, ¬ Halves text.toList host port) : Flaw text (.addressFormat text)
  | host {port : List Char} (halves : Halves text.toList [] port) : Flaw text (.missingHost text)
  | port {host : List Char} {port : String} (halves : Halves text.toList host port.toList)
      (named : host ≠ [])
      (unfit : ∀ number, Numeral port.toList number → number = 0 ∨ UInt16.size ≤ number) :
      Flaw text (.portNumber port)

section

variable {text host port : List Char}

theorem halves_iff : halves? text = some (host, port) ↔ Halves text host port := by
  unfold halves?
  constructor
  · intro found
    split at found
    · rename_i c behind dropped
      split at found
      · cases found
      · rename_i single
        cases found
        have colon : c = ':' := by
          have stopped := List.head?_dropWhile_not (· != ':') text
          simpa [dropped] using stopped
        subst colon
        refine ⟨?_, ?_, by simpa using single⟩
        · rw [← dropped, List.takeWhile_append_dropWhile]
        · intro member
          exact absurd (List.mem_takeWhile_imp member) (by decide)
    · cases found
  · rintro ⟨rfl, before, behind⟩
    have passed : ∀ c ∈ host, (c != ':') = true := by
      intro c member
      rw [bne_iff_ne]
      rintro rfl
      exact before member
    rw [List.dropWhile_append_of_pos passed, List.takeWhile_append_of_pos passed]
    simpa using behind

end

section

variable {text : String} {endpoint : Address} {cause : NamingError}

theorem parse_ok_iff : parse text = .ok endpoint ↔ StandsFor text endpoint := by
  unfold parse
  constructor
  · intro read
    split at read
    · cases read
    · rename_i host port found
      split at read
      · cases read
      · rename_i named
        split at read
        · rename_i number numbered
          cases read
          obtain ⟨unsigned, positive⟩ := Option.filter_eq_some_iff.mp numbered
          obtain ⟨numeral, small⟩ := unsigned_iff.mp unsigned
          exact ⟨port, halves_iff.mp found, by simpa using named, numeral, by simpa using positive,
            small⟩
        · cases read
  · rintro ⟨port, spells⟩
    have numbered : (unsigned? UInt16.size port).filter (0 < ·) = some endpoint.port :=
      Option.filter_eq_some_iff.mpr ⟨unsigned_iff.mpr ⟨spells.numeral, spells.small⟩,
        by simpa using spells.positive⟩
    rw [halves_iff.mpr spells.halves]
    simp [spells.named, numbered]

theorem parse_error_iff :
    parse text = .error cause ↔ ∃ fault, cause = .invalidEntry fault ∧ Flaw text fault := by
  unfold parse
  constructor
  · intro refused
    split at refused
    · rename_i unhalved
      cases refused
      refine ⟨_, rfl, .form fun host port halves => ?_⟩
      rw [halves_iff.mpr halves] at unhalved
      cases unhalved
    · rename_i host port found
      have halves := halves_iff.mp found
      split at refused
      · rename_i unnamed
        cases refused
        rw [List.isEmpty_iff.mp unnamed] at halves
        exact ⟨_, rfl, .host halves⟩
      · rename_i named
        split at refused
        · cases refused
        · rename_i missing
          cases refused
          refine ⟨_, rfl, .port (by simpa using halves) (by simpa using named) ?_⟩
          intro number numeral
          rw [String.toList_ofList] at numeral
          by_contra fit
          rw [not_or, Nat.not_le] at fit
          have unsigned := unsigned_iff.mpr ⟨numeral, fit.2⟩
          have positive : decide (0 < number) = true := by simpa using Nat.pos_of_ne_zero fit.1
          rw [Option.filter_eq_none_iff] at missing
          exact missing number unsigned positive
  · rintro ⟨fault, rfl, flaw⟩
    cases flaw with
    | form unhalved =>
        cases found : halves? text.toList with
        | none => rfl
        | some pair => exact absurd (halves_iff.mp found) (unhalved _ _)
    | host halves =>
        rw [halves_iff.mpr halves]
        rfl
    | @port host port halves named unfit =>
        have missing : (unsigned? UInt16.size port.toList).filter (0 < ·) = none := by
          rw [Option.filter_eq_none_iff]
          intro number unsigned positive
          obtain ⟨numeral, small⟩ := unsigned_iff.mp unsigned
          rcases unfit number numeral with rfl | large
          · cases positive
          · exact absurd small (Nat.not_lt.mpr large)
        rw [halves_iff.mpr halves]
        simp [named, missing]

theorem stands_or_flawed (text : String) :
    (∃ endpoint, StandsFor text endpoint) ∨ ∃ fault, Flaw text fault := by
  cases read : parse text with
  | ok endpoint => exact .inl ⟨endpoint, parse_ok_iff.mp read⟩
  | error cause =>
      obtain ⟨fault, _, flaw⟩ := parse_error_iff.mp read
      exact .inr ⟨fault, flaw⟩

end

/-! ## Addresses of one endpoint -/

/-- The same host, and two spellings of one number for the port. -/
def Respelled (first second : String) : Prop :=
  ∃ host port other, Halves first.toList host port ∧ Halves second.toList host other ∧
    Text.Respelled port other

section

variable {first second : String} {one other : Address}

theorem Halves.unique {text host port host_ port_ : List Char} (halves : Halves text host port)
    (halves_ : Halves text host_ port_) : host = host_ ∧ port = port_ := by
  have same := (halves_iff.mpr halves).symm.trans (halves_iff.mpr halves_)
  exact Prod.mk.inj (Option.some.inj same)

theorem StandsFor.respelled (stands : StandsFor first one) (respelled : Respelled first second) :
    StandsFor second one := by
  obtain ⟨port, spells⟩ := stands
  obtain ⟨host, port_, other, here, there, numbers⟩ := respelled
  obtain ⟨rfl, rfl⟩ := spells.halves.unique here
  exact ⟨other, there, spells.named, numbers.numeral spells.positive spells.numeral,
    spells.positive, spells.small⟩

/-- Two addresses stand for one endpoint just if one is a respelling of the other. -/
theorem same_endpoint_iff (stands : StandsFor first one) (stands_ : StandsFor second other) :
    one = other ↔ Respelled first second := by
  constructor
  · rintro rfl
    obtain ⟨port, spells⟩ := stands
    obtain ⟨port_, spells_⟩ := stands_
    exact ⟨_, _, _, spells.halves, spells_.halves, spells.numeral.respelled spells_.numeral⟩
  · intro respelled
    have there := parse_ok_iff.mpr (stands.respelled respelled)
    rw [parse_ok_iff.mpr stands_] at there
    exact (Except.ok.inj there).symm

end

end TupleSpace.Address
