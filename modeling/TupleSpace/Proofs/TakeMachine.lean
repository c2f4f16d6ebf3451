import Mathlib.Data.List.Perm.Basic
import TupleSpace.Proofs.Sorting
import TupleSpace.Proofs.Table
import TupleSpace.Take.Machine

/-!
# Steps of the take machine

What a round of reservations notes, and what the machine does with replies that are all in. A
machine that is only ever given the replies it asked for moves between a few states; the lemmas
here compute its step from each of them.
-/

namespace TupleSpace

open TupleSpace.Table

structure Taker where
  client : ClientId
  pattern : String
  policy : TakePolicy
deriving DecidableEq

namespace Taker

def machine (taker : Taker) (names : List String) : TakeMachine :=
  .start taker.client taker.pattern names taker.policy

end Taker

namespace Holdings

theorem lookup_insert (replica other : String) (tuples : List String) (holdings : Holdings) :
    (holdings.insert replica tuples).lookup other =
      if other = replica then some tuples else holdings.lookup other := by
  induction holdings with
  | nil =>
      by_cases same : other = replica
      · simp [insert, same]
      · have apart : (other == replica) = false := by simpa using same
        simp [insert, List.lookup_cons, apart, same]
  | cons row rest induction =>
      obtain ⟨name, held⟩ := row
      unfold insert
      by_cases same : other = replica
      · subst other
        split
        · simp
        · split
          · simp
          · rename_i _ different
            have apart : (replica == name) = false := by simpa using different
            rw [List.lookup_cons, apart]
            simpa using induction
      · have apart : (other == replica) = false := by simpa using same
        rw [if_neg same] at induction ⊢
        split
        · rw [List.lookup_cons, apart]
        · split
          · rename_i _ here
            subst name
            rw [List.lookup_cons, apart, List.lookup_cons, apart]
          · rw [List.lookup_cons, List.lookup_cons, induction]

theorem insert_absent {replica : String} (tuples : List String) {holdings : Holdings}
    (absent : replica ∉ holdings.map (·.1)) :
    (holdings.insert replica tuples).Perm ((replica, tuples) :: holdings) := by
  induction holdings with
  | nil => exact List.Perm.refl _
  | cons row rest induction =>
      obtain ⟨name, held⟩ := row
      simp only [List.map_cons, List.mem_cons, not_or] at absent
      unfold insert
      rw [if_neg absent.1]
      split
      · exact List.Perm.refl _
      · exact ((induction absent.2).cons (name, held)).trans (List.Perm.swap ..)

theorem has_iff {holdings : Holdings} {replica : String} :
    holdings.has replica = true ↔ replica ∈ holdings.map (·.1) := lookup_isSome

def noted (holdings : Holdings) : List (String × List String) → Holdings
  | [] => holdings
  | (replica, tuples) :: rest =>
      noted (if tuples = [] then holdings else holdings.insert replica tuples) rest

theorem lookup_noted_other {offers : List (String × List String)} {name : String}
    (holdings : Holdings) (absent : name ∉ offers.map (·.1)) :
    (holdings.noted offers).lookup name = holdings.lookup name := by
  induction offers generalizing holdings with
  | nil => rfl
  | cons offer rest induction =>
      simp only [List.map_cons, List.mem_cons, not_or] at absent
      rw [noted, induction _ absent.2]
      split
      · rfl
      · rw [lookup_insert, if_neg absent.1]

theorem lookup_noted {offers : List (String × List String)} {name : String}
    {tuples : List String} (holdings : Holdings) (distinct : (offers.map (·.1)).Nodup)
    (offered : (name, tuples) ∈ offers) :
    (holdings.noted offers).lookup name =
      if tuples = [] then holdings.lookup name else some tuples := by
  induction offers generalizing holdings with
  | nil => simp at offered
  | cons offer rest induction =>
      rw [List.map_cons, List.nodup_cons] at distinct
      rcases List.mem_cons.mp offered with here | later
      · subst offer
        rw [noted, lookup_noted_other _ distinct.1]
        split
        · rfl
        · rw [lookup_insert, if_pos rfl]
      · have apart : name ≠ offer.1 := by
          rintro rfl
          exact distinct.1 (List.mem_map.mpr ⟨_, later, rfl⟩)
        rw [noted, induction _ distinct.2 later]
        split
        · split
          · rfl
          · rw [lookup_insert, if_neg apart]
        · rfl

theorem noted_perm {offers : List (String × List String)} {holdings : Holdings}
    (fresh : (offers.map (·.1) ++ holdings.map (·.1)).Nodup) :
    (holdings.noted offers).Perm (offers.filter (fun offer => offer.2 ≠ []) ++ holdings) := by
  induction offers generalizing holdings with
  | nil => exact List.Perm.refl _
  | cons offer rest induction =>
      obtain ⟨name, tuples⟩ := offer
      rw [List.map_cons, List.cons_append, List.nodup_cons] at fresh
      unfold noted
      by_cases nothing : tuples = []
      · simpa [nothing] using induction fresh.2
      · have absent : name ∉ holdings.map (·.1) :=
          fun member => fresh.1 (List.mem_append_right _ member)
        have inserted := insert_absent tuples absent
        have later : (rest.map (·.1) ++ (holdings.insert name tuples).map (·.1)).Nodup := by
          refine (((inserted.map (·.1)).append_left _).nodup_iff).mpr ?_
          exact (List.perm_middle.nodup_iff).mpr (List.nodup_cons.mpr fresh)
        rw [if_neg nothing, List.filter_cons_of_pos (by simpa using nothing)]
        calc (noted (holdings.insert name tuples) rest)
            |>.Perm (rest.filter (fun offer => offer.2 ≠ []) ++ holdings.insert name tuples) :=
              induction later
          _ |>.Perm (rest.filter (fun offer => offer.2 ≠ []) ++ (name, tuples) :: holdings) :=
              inserted.append_left _
          _ |>.Perm ((name, tuples) :: rest.filter (fun offer => offer.2 ≠ []) ++ holdings) :=
              List.perm_middle

theorem names_noted {offers : List (String × List String)} {holdings : Holdings}
    (fresh : (offers.map (·.1) ++ holdings.map (·.1)).Nodup) :
    ((holdings.noted offers).map (·.1)).Nodup := by
  refine (((noted_perm fresh).map (·.1)).nodup_iff).mpr (List.Sublist.nodup ?_ fresh)
  rw [List.map_append]
  exact (List.filter_sublist.map _).append (List.Sublist.refl _)

end Holdings

theorem note_reservations_eq (machine : TakeMachine) (offers : List (String × List String)) :
    machine.noteReservations (offers.map fun offer => (offer.1, .reserved offer.2)) =
      ({ machine with locked := machine.locked.noted offers }, .ok ()) := by
  induction offers generalizing machine with
  | nil => rfl
  | cons offer rest induction =>
      obtain ⟨replica, tuples⟩ := offer
      rw [List.map_cons, TakeMachine.noteReservations]
      cases tuples with
      | nil => exact induction machine
      | cons tuple others => exact induction _

theorem check_acknowledged_of_all {replies : List (String × Response)}
    (acknowledged : ∀ reply ∈ replies, reply.2.isAcknowledgement = true) :
    TakeMachine.checkAcknowledged replies = .ok () := by
  induction replies with
  | nil => rfl
  | cons reply rest induction =>
      have head := acknowledged reply (by simp)
      have tail :=
        induction fun other member => acknowledged other (List.mem_cons_of_mem _ member)
      simpa [TakeMachine.checkAcknowledged, Response.acknowledged, head] using tail

theorem offered_by_each {offers : List (List String)} {tuple : String}
    (offered : tuple ∈ offeredByAll offers) : ∀ offer ∈ offers, tuple ∈ offer := by
  cases offers with
  | nil => simp
  | cons first others =>
      rw [offeredByAll, List.mem_filter] at offered
      intro offer member
      rcases List.mem_cons.mp member with rfl | later
      · exact offered.1
      · simpa using List.all_eq_true.mp offered.2 offer later

theorem Quorum.length_of_full {locked total : Nat} (full : classify locked total = .full) :
    0 < total ∧ locked = total := by
  unfold classify at full
  split at full
  · assumption
  · split at full <;> cases full

namespace TakeMachine

/-! ## What a round leads to -/

theorem settle_minority {machine : TakeMachine}
    (quorum : Quorum.classify machine.locked.length machine.replicas.length = .minority) :
    machine.settleRound =
      { machine.spendRetry with
        pending? := some (.backoff machine.spendRetry.retries)
        stage := .release } := by
  unfold settleRound
  rw [quorum]

theorem settle_partial {machine : TakeMachine}
    (quorum : Quorum.classify machine.locked.length machine.replicas.length = .partialMajority) :
    machine.settleRound = { machine with pending? := some .settle, stage := .pause } := by
  unfold settleRound
  rw [quorum]

theorem settle_full {machine : TakeMachine}
    (quorum : Quorum.classify machine.locked.length machine.replicas.length = .full) :
    machine.settleRound =
      match offeredByAll machine.offers with
      | tuple :: _ => { machine with chosen? := some tuple, stage := .commit }
      | [] =>
          let spent := if machine.policy.emptyCounts then machine.spendRetry else machine
          { spent with pending? := some .settle, stage := .release } := by
  cases common : offeredByAll machine.offers with
  | nil => simp [settleRound, quorum, common]
  | cons tuple others => simp [settleRound, quorum, common]

/-! ## Steps with all replies in -/

variable {machine : TakeMachine} {replies : List (String × Response)}

/-- Replies from just the replicas that were asked are never strange. -/
theorem absorb_answered (awaiting : machine.stage.isAwaiting = true)
    (answered : (replies.map (·.1)).Perm machine.awaiting) :
    machine.absorb replies =
      match machine.stage with
      | .reserving =>
          match TakeMachine.noteReservations { machine with awaiting := [] } replies with
          | (noted, .ok ()) => (noted.settleRound, .ok ())
          | (noted, .error e) => (noted, .error e)
      | .releasing =>
          match checkAcknowledged replies with
          | .ok () => ({ machine with awaiting := [], stage := machine.afterRelease }, .ok ())
          | .error e => ({ machine with awaiting := [] }, .error e)
      | _ =>
          match checkAcknowledged replies with
          | .ok () => ({ machine with awaiting := [], stage := .finished }, .ok ())
          | .error e => ({ machine with awaiting := [] }, .error e) := by
  unfold absorb
  rw [if_neg (by simp [awaiting])]
  dsimp only
  rw [if_neg (by simp [Sorting.sorted_names_eq answered])]
  rfl

theorem step_reserving (stage : machine.stage = .reserving) {offers : List (String × List String)}
    (answered : (offers.map (·.1)).Perm machine.awaiting) :
    machine.step (offers.map fun offer => (offer.1, .reserved offer.2)) =
      ({ machine with awaiting := [], locked := machine.locked.noted offers }).settleRound.act := by
  have answers :
      ((offers.map fun offer => (offer.1, Response.reserved offer.2)).map (·.1)).Perm
        machine.awaiting := by
    simpa [List.map_map, Function.comp_def] using answered
  unfold step
  rw [absorb_answered (by rw [stage]; rfl) answers, stage, note_reservations_eq]

theorem step_releasing (stage : machine.stage = .releasing)
    (answered : (replies.map (·.1)).Perm machine.awaiting)
    (acknowledged : ∀ reply ∈ replies, reply.2.isAcknowledgement = true) :
    machine.step replies =
      ({ machine with awaiting := [], stage := machine.afterRelease }).act := by
  unfold step
  rw [absorb_answered (by rw [stage]; rfl) answered, stage, check_acknowledged_of_all acknowledged]

theorem step_committing (stage : machine.stage = .committing)
    (answered : (replies.map (·.1)).Perm machine.awaiting)
    (acknowledged : ∀ reply ∈ replies, reply.2.isAcknowledgement = true) :
    machine.step replies = ({ machine with awaiting := [], stage := .finished }).act := by
  unfold step
  rw [absorb_answered (by rw [stage]; rfl) answered, stage, check_acknowledged_of_all acknowledged]

theorem step_idle (idle : machine.stage.isAwaiting = false) : machine.step [] = machine.act := by
  simp [step, absorb, idle]

end TakeMachine

end TupleSpace
