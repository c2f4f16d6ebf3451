import TupleSpace.Proofs.TakeResumed

/-!
# The retries of a take

A take machine goes through its stages until it has something to say, which takes it three passes
at most. It spends a retry on a round of reservations that got hold of half of the replicas or
less and, where the policy says so, on one in which all replicas offer something but nothing in
common. With its retries spent it frees what it holds and asks for nothing more, whatever it is
given and however often it is stepped on after a failure.
-/

namespace TupleSpace

inductive Round
  | minority
  | partialMajority
  /-- All replicas offer something, but there is no tuple that all of them offer. -/
  | disjoint
  | common
deriving DecidableEq

namespace Round

def of (names : List String) (locked : Holdings) : Round :=
  match Quorum.classify locked.length names.length with
  | .minority => .minority
  | .partialMajority => .partialMajority
  | .full =>
      if offeredByAll (names.filterMap fun name => locked.lookup name) = [] then .disjoint
      else .common

def counts (policy : TakePolicy) : Round → Bool
  | minority => true
  | disjoint => policy.emptyCounts
  | partialMajority | common => false

theorem count_of_policy (policy : TakePolicy) (rounds : List Round) :
    rounds.countP (counts policy) =
      rounds.count minority + if policy.emptyCounts then rounds.count disjoint else 0 := by
  induction rounds with
  | nil => simp
  | cons round rest induction =>
      rw [List.countP_cons, induction, List.count_cons, List.count_cons]
      cases counted : policy.emptyCounts <;> cases round <;> simp [counts, counted] <;> omega

end Round

/-- The retries after which a take is given up. Even with none allowed it notices only after the
first one. -/
def TakePolicy.limit (policy : TakePolicy) : Nat := max 1 policy.maxRetries

namespace TakeMachine

variable {machine : TakeMachine} {taker : Taker} {spent : Nat}
  {replies : List (String × Response)}

/-! ## Passes through the stages -/

/-- One pass: the machine says something, or it only goes on to another stage. -/
def pass (machine : TakeMachine) : TakeMachine × Option (Except ClientError TakeAction) :=
  let saying := fun (said : TakeMachine × Except ClientError TakeAction) => (said.1, some said.2)
  match machine.stage with
  | .reserve => saying machine.askReservations
  | .release =>
      let targets := machine.lockedReplicas
      let freed := { machine with locked := [] }
      if targets.isEmpty then ({ freed with stage := freed.afterRelease }, none)
      else saying (freed.ask .releasing targets (.release machine.client))
  | .pause =>
      ({ machine with stage := .reserve, pending? := none },
        machine.pending?.map fun pause => .ok (.pause pause))
  | .commit => saying machine.askCommit
  | .finished => saying machine.finish
  | .exhausted => saying machine.giveUp
  | .reserving | .releasing | .committing =>
      saying (machine, .error (machine.fault (.missingReplies machine.stage)))

def loop : Nat → TakeMachine → Option (TakeMachine × Except ClientError TakeAction)
  | 0, _ => none
  | passes + 1, machine =>
      match machine.pass with
      | (next, some outcome) => some (next, outcome)
      | (next, none) => next.loop passes

theorem loop_exhausted (stage : machine.stage = .exhausted) (spare : Nat) :
    machine.loop (spare + 1) = some machine.giveUp := by
  simp [loop, pass, stage]

theorem loop_reserve (stage : machine.stage = .reserve) (spare : Nat) :
    machine.loop (spare + 1) = some machine.askReservations := by
  simp [loop, pass, stage]

theorem loop_pause (stage : machine.stage = .pause) (spare : Nat) :
    machine.loop (spare + 2) = some machine.askPause := by
  rw [loop]
  cases pending : machine.pending? with
  | some pause => simp [pass, stage, pending, askPause]
  | none =>
      simp only [pass, stage, pending, Option.map_none, askPause]
      rw [loop_reserve rfl]

theorem loop_release (stage : machine.stage = .release) (spare : Nat) :
    machine.loop (spare + 3) = some machine.askRelease := by
  rw [loop]
  cases nothing : machine.lockedReplicas.isEmpty with
  | false => simp [pass, stage, nothing, askRelease]
  | true =>
      simp only [pass, stage, nothing, askRelease, if_true]
      cases exhausted : machine.isExhausted with
      | true =>
          simp only [afterRelease, if_true]
          rw [loop_exhausted rfl]
      | false =>
          simp only [afterRelease, Bool.false_eq_true, if_false]
          rw [loop_pause rfl]

/-- In any state, the machine has something to say after three passes. -/
theorem loop_act (machine : TakeMachine) {passes : Nat} (enough : 3 ≤ passes) :
    machine.loop passes = some machine.act := by
  obtain ⟨spare, rfl⟩ := Nat.exists_eq_add_of_le' enough
  cases stage : machine.stage with
  | release => rw [loop_release stage, act, stage]
  | pause => rw [loop_pause stage (spare + 1), act, stage]
  | _ => simp [loop, pass, act, stage]

/-! ## What a step may fail with -/

/-- The failures of a take of which so much has been spent: replies that do not fit, and patience
that is at its end. -/
inductive Blames (limit : Nat) : ClientError → Prop
  | wrong {replica : String} {expected : Expected} {got : Response} :
      Blames limit (.transport (.protocol replica (.wrongReply expected got)))
  | unexpected {replicas : String} {count : Nat} {stage : TakeStage} :
      Blames limit (.transport (.protocol replicas (.unexpectedReplies count stage)))
  | strange {replicas : String} {answered asked : List String} :
      Blames limit (.transport (.protocol replicas (.strangeReplies answered asked)))
  | spent : Blames limit (.backoffExceeded limit)

theorem note_reservations_blames {cause : ClientError} (limit : Nat)
    (failed : (machine.noteReservations replies).2 = .error cause) : Blames limit cause := by
  induction replies generalizing machine with
  | nil => cases failed
  | cons reply rest induction =>
      obtain ⟨name, response⟩ := reply
      unfold noteReservations Response.reservations at failed
      cases reserved : response.reserved? with
      | none =>
          simp only [reserved] at failed
          cases failed
          exact .wrong
      | some tuples =>
          cases tuples with
          | nil => exact induction (by simpa [reserved] using failed)
          | cons tuple others => exact induction (by simpa [reserved] using failed)

theorem check_acknowledged_blames {cause : ClientError} (limit : Nat)
    (failed : checkAcknowledged replies = .error cause) : Blames limit cause := by
  induction replies with
  | nil => cases failed
  | cons reply rest induction =>
      unfold checkAcknowledged Response.acknowledged at failed
      cases acknowledged : reply.2.isAcknowledgement with
      | true => exact induction (by simpa [acknowledged] using failed)
      | false =>
          simp only [acknowledged] at failed
          cases failed
          exact .wrong

inductive Absorbs (machine : TakeMachine) : TakeMachine × Except ClientError Unit → Prop
  | nothing (idle : machine.stage.isAwaiting = false) : Absorbs machine (machine, .ok ())
  | round {locked : Holdings} (stage : machine.stage = .reserving) :
      Absorbs machine (({ machine with awaiting := [], locked }).settleRound, .ok ())
  | released (stage : machine.stage = .releasing) :
      Absorbs machine ({ machine with awaiting := [], stage := machine.afterRelease }, .ok ())
  | committed (stage : machine.stage = .committing) :
      Absorbs machine ({ machine with awaiting := [], stage := .finished }, .ok ())
  | refused {awaiting : List String} {locked : Holdings} {cause : ClientError}
      (blames : ∀ limit, Blames limit cause) :
      Absorbs machine ({ machine with awaiting, locked }, .error cause)

theorem absorbs (machine : TakeMachine) (replies : List (String × Response)) :
    machine.Absorbs (machine.absorb replies) := by
  unfold absorb
  split
  · rename_i idle
    split
    · exact .nothing (by simpa using idle)
    · exact .refused fun _ => .unexpected
  rename_i awaiting
  dsimp only
  split
  · exact .refused fun _ => .strange
  obtain ⟨locked, locks⟩ := note_reservations_locks { machine with awaiting := [] } replies
  split
  · rename_i stage
    split <;> rename_i next noted <;> rw [noted] at locks <;> subst locks
    · exact .round stage
    · exact .refused fun limit => note_reservations_blames limit (by rw [noted])
  · rename_i stage
    split
    · exact .released stage
    · rename_i checked
      exact .refused fun limit => check_acknowledged_blames limit checked
  · rename_i reserving releasing
    have stage : machine.stage = .committing := by
      cases stage : machine.stage <;> simp_all [TakeStage.isAwaiting]
    split
    · exact .committed stage
    · rename_i checked
      exact .refused fun limit => check_acknowledged_blames limit checked

/-! ## Rounds -/

def round? (machine : TakeMachine) (replies : List (String × Response)) : Option Round :=
  match machine.absorb replies with
  | (next, .ok ()) =>
      if machine.stage = .reserving then some (.of next.replicas next.locked) else none
  | (_, .error _) => none

def rounds : TakeMachine → List (List (String × Response)) → List Round
  | _, [] => []
  | machine, replies :: rest =>
      (machine.round? replies).toList ++ rounds (machine.step replies).1 rest

variable {policy : TakePolicy}

structure Budgeted (machine : TakeMachine) (policy : TakePolicy) (spent : Nat) : Prop where
  kept : machine.policy = policy
  retries : machine.retries = spent
  bounded : spent ≤ policy.limit
  exhausted : machine.isExhausted = true ↔ spent = policy.limit

theorem Budgeted.elsewhere (budgeted : machine.Budgeted policy spent) (stage : TakeStage)
    (locked : Holdings) (awaiting : List String) (pending? : Option Pause)
    (chosen? : Option String) :
    ({ machine with stage, locked, awaiting, pending?, chosen? }).Budgeted policy spent :=
  ⟨budgeted.kept, budgeted.retries, budgeted.bounded, budgeted.exhausted⟩

theorem Budgeted.spend (budgeted : machine.Budgeted policy spent)
    (patient : machine.isExhausted = false) : machine.spendRetry.Budgeted policy (spent + 1) := by
  obtain ⟨rfl, rfl, bounded, exhausted⟩ := budgeted
  have below : machine.retries ≠ machine.policy.limit := by simpa [patient] using exhausted
  refine ⟨rfl, rfl, by omega, ?_⟩
  simp only [spendRetry, patient, Bool.false_or, decide_eq_true_eq]
  unfold TakePolicy.limit at *
  omega

/-- What holds of a machine in each stage, so that it has a way to go on from there. -/
def Ready (machine : TakeMachine) : Prop :=
  match machine.stage with
  | .reserve | .reserving | .pause => machine.isExhausted = false
  | .release | .releasing => True
  | .commit | .committing | .finished => machine.chosen?.isSome = true
  | .exhausted => machine.isExhausted = true

theorem round_settled (machine : TakeMachine) :
    Round.of machine.settleRound.replicas machine.settleRound.locked =
      Round.of machine.replicas machine.locked := by
  unfold settleRound
  split
  · rfl
  · rfl
  · split
    · rfl
    · dsimp only
      split <;> rfl

theorem settle_budgeted (budgeted : machine.Budgeted policy spent)
    (patient : machine.isExhausted = false) :
    machine.settleRound.Budgeted policy
        (spent + [Round.of machine.replicas machine.locked].countP (Round.counts policy)) ∧
      machine.settleRound.Ready ∧ machine.settleRound.stage.isAwaiting = false := by
  have spending := budgeted.spend patient
  cases quorum : Quorum.classify machine.locked.length machine.replicas.length with
  | minority =>
      rw [settle_minority quorum, Round.of, quorum]
      exact ⟨spending.elsewhere _ _ _ _ _, trivial, rfl⟩
  | partialMajority =>
      rw [settle_partial quorum, Round.of, quorum]
      exact ⟨budgeted.elsewhere _ _ _ _ _, patient, rfl⟩
  | full =>
      rw [settle_full quorum, Round.of, quorum]
      unfold offers
      cases offeredByAll (machine.replicas.filterMap fun name => machine.locked.lookup name) with
      | cons tuple others => exact ⟨budgeted.elsewhere _ _ _ _ _, rfl, rfl⟩
      | nil =>
          dsimp only
          rw [budgeted.kept, if_pos rfl, List.countP_singleton, Round.counts]
          split
          · exact ⟨spending.elsewhere _ _ _ _ _, trivial, rfl⟩
          · exact ⟨budgeted.elsewhere _ _ _ _ _, trivial, rfl⟩

/-! ## What a machine says -/

/-- What a machine says when it keeps to its budget: it asks for reservations only while retries
are left, and fails for nothing but replies that do not fit and for its retries being spent. -/
structure Restrained (policy : TakePolicy) (spent : Nat)
    (said : TakeMachine × Except ClientError TakeAction) : Prop where
  budgeted : said.1.Budgeted policy spent
  ready : said.1.Ready
  patient : ∀ targets pattern client, said.2 = .ok (.send targets (.reserve pattern client)) →
    said.1.isExhausted = false
  blames : ∀ cause, said.2 = .error cause → Blames policy.limit cause

theorem Restrained.silent {said : TakeMachine × Except ClientError TakeAction}
    (restrained : Restrained policy spent said) (used : said.1.retries = policy.limit)
    (targets : List String) (pattern : String) (client : ClientId) :
    said.2 ≠ .ok (.send targets (.reserve pattern client)) := by
  intro asked
  have exhausted := restrained.budgeted.exhausted.mpr (restrained.budgeted.retries ▸ used)
  simp [restrained.patient _ _ _ asked] at exhausted

theorem ask_reservations_restrained (budgeted : machine.Budgeted policy spent)
    (patient : machine.isExhausted = false) : Restrained policy spent machine.askReservations where
  budgeted := budgeted.elsewhere _ _ _ _ _
  ready := patient
  patient := fun _ _ _ _ => patient
  blames := by simp [askReservations, ask]

theorem ask_pause_restrained (budgeted : machine.Budgeted policy spent)
    (patient : machine.isExhausted = false) : Restrained policy spent machine.askPause := by
  unfold askPause
  dsimp only
  split
  · exact ⟨budgeted.elsewhere _ _ _ _ _, patient, by simp, by simp⟩
  · exact ask_reservations_restrained (budgeted.elsewhere _ _ _ _ _) patient

theorem give_up_restrained (budgeted : machine.Budgeted policy spent)
    (stage : machine.stage = .exhausted) (exhausted : machine.isExhausted = true) :
    Restrained policy spent machine.giveUp where
  budgeted := budgeted
  ready := by simpa [giveUp, Ready, stage] using exhausted
  patient := by simp [giveUp]
  blames := by
    rintro cause same
    cases same
    rw [budgeted.retries, budgeted.exhausted.mp exhausted]
    exact .spent

theorem ask_release_restrained (budgeted : machine.Budgeted policy spent) :
    Restrained policy spent machine.askRelease := by
  unfold askRelease
  dsimp only
  split
  · split
    · rename_i exhausted
      exact give_up_restrained (budgeted.elsewhere _ _ _ _ _) rfl exhausted
    · rename_i patient
      exact ask_pause_restrained (budgeted.elsewhere _ _ _ _ _) (by simpa using patient)
  · exact ⟨budgeted.elsewhere _ _ _ _ _, trivial, by simp [ask], by simp [ask]⟩

theorem ask_commit_restrained (budgeted : machine.Budgeted policy spent)
    (chosen : machine.chosen?.isSome = true) : Restrained policy spent machine.askCommit := by
  obtain ⟨tuple, chosen⟩ := Option.isSome_iff_exists.mp chosen
  simp only [askCommit, chosen, ask]
  exact ⟨budgeted.elsewhere _ _ _ _ _, rfl, by simp, by simp⟩

theorem finish_restrained (budgeted : machine.Budgeted policy spent)
    (stage : machine.stage = .finished) (chosen : machine.chosen?.isSome = true) :
    Restrained policy spent machine.finish := by
  have ready : machine.Ready := by simpa [Ready, stage] using chosen
  obtain ⟨tuple, chosen⟩ := Option.isSome_iff_exists.mp chosen
  simp only [finish, chosen]
  exact ⟨budgeted, ready, by simp, by simp⟩

theorem act_restrained (budgeted : machine.Budgeted policy spent) (ready : machine.Ready)
    (idle : machine.stage.isAwaiting = false) : Restrained policy spent machine.act := by
  unfold Ready at ready
  unfold act
  cases stage : machine.stage <;> simp only [stage] at ready
  case reserve => exact ask_reservations_restrained budgeted ready
  case release => exact ask_release_restrained budgeted
  case pause => exact ask_pause_restrained budgeted ready
  case commit => exact ask_commit_restrained budgeted ready
  case finished => exact finish_restrained budgeted stage ready
  case exhausted => exact give_up_restrained budgeted stage ready
  all_goals simp [stage, TakeStage.isAwaiting] at idle

/-! ## Steps and runs -/

theorem after_release_ready (machine : TakeMachine) (awaiting : List String) :
    ({ machine with awaiting, stage := machine.afterRelease }).Ready ∧
      machine.afterRelease.isAwaiting = false := by
  unfold Ready afterRelease
  cases exhausted : machine.isExhausted with
  | true => exact ⟨rfl, rfl⟩
  | false => exact ⟨rfl, rfl⟩

/-- A step takes a retry if it brings a round to its end that counts. -/
theorem step_restrained (budgeted : machine.Budgeted policy spent) (ready : machine.Ready)
    (replies : List (String × Response)) :
    Restrained policy (spent + (machine.round? replies).toList.countP (Round.counts policy))
      (machine.step replies) := by
  have absorbs := machine.absorbs replies
  unfold step round?
  generalize machine.absorb replies = absorbed at absorbs
  cases absorbs with
  | nothing idle =>
      have stage : machine.stage ≠ .reserving := fun stage => by
        simp [stage, TakeStage.isAwaiting] at idle
      simpa [stage] using act_restrained budgeted ready idle
  | @round locked stage =>
      -- a machine that waits for reservations has retries left, so the round may take one
      have patient : machine.isExhausted = false := by simpa [Ready, stage] using ready
      obtain ⟨budgeted, ready, idle⟩ := settle_budgeted
        (budgeted.elsewhere machine.stage locked [] machine.pending? machine.chosen?) patient
      dsimp only
      rw [if_pos stage, round_settled]
      simpa using act_restrained budgeted ready idle
  | released stage =>
      obtain ⟨ready, idle⟩ := machine.after_release_ready []
      simpa [stage] using act_restrained (budgeted.elsewhere _ _ _ _ _) ready idle
  | committed stage =>
      have chosen : machine.chosen?.isSome = true := by simpa [Ready, stage] using ready
      have restrained := act_restrained
        (budgeted.elsewhere .finished machine.locked [] machine.pending? machine.chosen?) chosen rfl
      simpa [stage] using restrained
  | refused blames =>
      refine ⟨budgeted.elsewhere _ _ _ _ _, ready, by simp, ?_⟩
      rintro cause same
      cases same
      exact blames _

theorem retries_mono (budgeted : machine.Budgeted policy spent) (ready : machine.Ready)
    (replies : List (String × Response)) :
    machine.retries ≤ (machine.step replies).1.retries := by
  rw [budgeted.retries, (step_restrained budgeted ready replies).budgeted.retries]
  exact Nat.le_add_right _ _

theorem run_restrained (budgeted : machine.Budgeted policy spent) (ready : machine.Ready)
    (given : List (List (String × Response))) :
    (proceed [] machine given).2.Budgeted policy
        (spent + (machine.rounds given).countP (Round.counts policy)) ∧
      (proceed [] machine given).2.Ready ∧
      ∀ turn ∈ (proceed [] machine given).1, ∀ cause, turn.outcome = .error cause →
        Blames policy.limit cause := by
  induction given generalizing machine spent with
  | nil => exact ⟨by simpa [rounds, proceed] using budgeted, ready, by simp [proceed]⟩
  | cons replies rest induction =>
      have restrained := step_restrained budgeted ready replies
      obtain ⟨later, ends, blames⟩ := induction restrained.budgeted restrained.ready
      rw [proceed, proceed_log]
      refine ⟨?_, ends, fun turn member cause failed => ?_⟩
      · rw [rounds, List.countP_append, ← Nat.add_assoc]
        exact later
      · rcases List.mem_append.mp member with after | first
        · exact blames turn after cause failed
        · cases List.mem_singleton.mp first
          exact restrained.blames cause failed

theorem silent_when_spent (budgeted : machine.Budgeted policy spent) (ready : machine.Ready)
    (replies : List (String × Response)) (later : List (List (String × Response)))
    (used : (machine.step replies).1.retries = policy.limit) :
    ∀ turn ∈ (proceed [] machine (replies :: later)).1, ∀ targets pattern client,
      turn.outcome ≠ .ok (.send targets (.reserve pattern client)) := by
  induction later generalizing machine spent replies with
  | nil =>
      have restrained := step_restrained budgeted ready replies
      simpa [proceed] using restrained.silent used
  | cons next rest induction =>
      have restrained := step_restrained budgeted ready replies
      have after := (step_restrained restrained.budgeted restrained.ready next).budgeted
      -- retries neither fall nor pass the limit, so they stay there
      have still : ((machine.step replies).1.step next).1.retries = policy.limit := by
        have more := retries_mono restrained.budgeted restrained.ready next
        have bounded := after.retries ▸ after.bounded
        omega
      rw [proceed, proceed_log]
      intro turn member
      rcases List.mem_append.mp member with behind | first
      · exact induction restrained.budgeted restrained.ready next still turn behind
      · cases List.mem_singleton.mp first
        exact restrained.silent used

end TakeMachine

/-- A take machine keeps to its retries, whatever it is given and however often it is stepped on
after a failure. A step that takes its replies in ends after three passes through the stages; the
retries are the rounds of a minority and, where these count, those without a common tuple. They
reach the limit at most, which a machine number of 32 bits holds, and from then on no reservations
are asked for. Every giving up reports the limit, and no failure says that the machine had come to a
stage without what it needs there. -/
theorem retries_are_budgeted (taker : Taker) (names : List String)
    (given : List (List (String × Response))) :
    let limit := taker.policy.limit
    let turns := (proceed [] (taker.machine names) given).1
    let machine := (proceed [] (taker.machine names) given).2
    let rounds := (taker.machine names).rounds given
    (∀ replies, (machine.absorb replies).2 = .ok () → ∀ passes, 3 ≤ passes →
      (machine.absorb replies).1.loop passes = some (machine.step replies)) ∧
    machine.retries = rounds.count .minority +
      (if taker.policy.emptyCounts then rounds.count .disjoint else 0) ∧
    machine.retries ≤ limit ∧
    (taker.policy.maxRetries < Nat.pow 2 32 → machine.retries < Nat.pow 2 32) ∧
    (∀ replies later, (machine.step replies).1.retries = limit →
      ∀ turn ∈ (proceed [] machine (replies :: later)).1, ∀ targets pattern client,
        turn.outcome ≠ .ok (.send targets (.reserve pattern client))) ∧
    ∀ turn ∈ turns, ∀ cause, turn.outcome = .error cause →
      (∀ count, cause = .backoffExceeded count → count = limit) ∧
      ∀ replica fault, cause = .transport (.protocol replica fault) →
        fault ≠ .nothingToCommit ∧ fault ≠ .nothingTaken ∧
          ∀ stage, fault ≠ .missingReplies stage := by
  intro limit turns machine rounds
  have fresh : (taker.machine names).Budgeted taker.policy 0 :=
    ⟨rfl, rfl, Nat.zero_le _, by simp [Taker.machine, TakeMachine.start, TakePolicy.limit]; omega⟩
  obtain ⟨budgeted, ready, blames⟩ := TakeMachine.run_restrained fresh rfl given
  have bounded : machine.retries ≤ limit := budgeted.retries ▸ budgeted.bounded
  refine ⟨fun replies taken passes enough => ?_, ?_, bounded, fun small => ?_,
    TakeMachine.silent_when_spent budgeted ready, fun turn member cause failed => ?_⟩
  · rw [TakeMachine.loop_act _ enough, TakeMachine.step]
    generalize machine.absorb replies = absorbed at taken
    obtain ⟨next, outcome⟩ := absorbed
    cases taken
    rfl
  · have retries := budgeted.retries
    rw [Round.count_of_policy, Nat.zero_add] at retries
    exact retries
  · exact Nat.lt_of_le_of_lt bounded (Nat.max_lt.mpr ⟨by decide, small⟩)
  · have blames := blames turn member cause failed
    constructor
    · rintro count rfl
      cases blames
      rfl
    · rintro replica fault rfl
      cases blames <;> simp

/-- What two replicas say to a take that has a wrong reply, a reply of nobody it asked, a round of a
minority and the pause after it behind it, and waits for both of them again. -/
def setbacks : List (List (String × Response)) :=
  [[], [("A", .reserved ["<a>"]), ("B", .put)], [("C", .put)], [], [("A", .released)], []]

/-- The first of two retries is spent by then. A round without a common tuple takes the other, and
whatever comes after it, no reservations are asked for. -/
theorem retries_are_budgeted_after_setbacks :
    ∃ machine,
      (proceed [] (Taker.machine ⟨⟨1⟩, "<.>", ⟨2, true⟩⟩ ["A", "B"]) setbacks).2 = machine ∧
      machine.retries = 1 ∧
      (machine.step [("A", .reserved ["<a>"]), ("B", .reserved ["<b>"])]).1.retries = 2 ∧
      ∀ later, ∀ turn ∈ (proceed [] machine
          ([("A", .reserved ["<a>"]), ("B", .reserved ["<b>"])] :: later)).1,
        ∀ targets pattern client, turn.outcome ≠ .ok (.send targets (.reserve pattern client)) := by
  obtain ⟨_, retries, _, _, silent, _⟩ :=
    retries_are_budgeted ⟨⟨1⟩, "<.>", ⟨2, true⟩⟩ ["A", "B"] setbacks
  refine ⟨_, rfl, retries.trans ?_, ?_, fun later => silent _ later ?_⟩
  · decide +kernel
  · decide +kernel
  · decide +kernel

end TupleSpace
