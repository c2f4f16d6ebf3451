import TupleSpace.Proofs.TakeResumed

/-!
# The order of replies

Replies reach a take machine in the order in which they arrive. What it notes of them it keeps by
replica, and all else that it asks is whether each of them is of the right kind, so a step comes
out alike in whatever order it is given the replies of distinct replicas.
-/

namespace TupleSpace

namespace Holdings

theorem insert_comm {one other : String} (apart : one ≠ other) (tuples more : List String)
    (holdings : Holdings) :
    (holdings.insert one tuples).insert other more =
      (holdings.insert other more).insert one tuples := by
  induction holdings with
  | nil => grind [insert]
  | cons row rest induction =>
      obtain ⟨name, held⟩ := row
      grind [insert]

theorem noted_of_perm {offers more : List (String × List String)} (same : offers.Perm more)
    (distinct : (offers.map (·.1)).Nodup) (holdings : Holdings) :
    holdings.noted offers = holdings.noted more := by
  induction same generalizing holdings with
  | nil => rfl
  | cons offer _ induction => exact induction (List.nodup_cons.mp distinct).2 _
  | swap first second rest =>
      have apart : second.1 ≠ first.1 := by
        rintro same
        simp [same] at distinct
      unfold noted
      unfold noted
      by_cases left : first.2 = [] <;> by_cases right : second.2 = [] <;>
        simp [left, right, insert_comm apart]
  | trans former _ first second =>
      exact (first distinct holdings).trans
        (second ((former.map (·.1)).nodup_iff.mp distinct) holdings)

end Holdings

namespace TakeMachine

variable {machine : TakeMachine} {names : List String}
  {replies others : List (String × Response)}

/-! ## Whom a machine waits for -/

/-- A machine that only ever waits for some of its replicas, and for each of them once. -/
structure Polls (machine : TakeMachine) (names : List String) : Prop where
  replicas : machine.replicas = names
  awaiting : machine.awaiting.Sublist names

theorem ask_reservations_polls (polls : machine.Polls names) :
    machine.askReservations.1.Polls names :=
  ⟨polls.replicas, polls.replicas ▸ List.filter_sublist⟩

theorem ask_pause_polls (polls : machine.Polls names) : machine.askPause.1.Polls names := by
  unfold askPause
  dsimp only
  split
  · exact ⟨polls.replicas, polls.awaiting⟩
  · exact ask_reservations_polls ⟨polls.replicas, polls.awaiting⟩

theorem ask_release_polls (polls : machine.Polls names) : machine.askRelease.1.Polls names := by
  unfold askRelease
  dsimp only
  split
  · split
    · exact ⟨polls.replicas, polls.awaiting⟩
    · exact ask_pause_polls ⟨polls.replicas, polls.awaiting⟩
  · exact ⟨polls.replicas, polls.replicas ▸ List.filter_sublist⟩

theorem act_polls (polls : machine.Polls names) : machine.act.1.Polls names := by
  unfold act
  split
  · exact ask_reservations_polls polls
  · exact ask_release_polls polls
  · exact ask_pause_polls polls
  · unfold askCommit
    split
    · exact ⟨polls.replicas, polls.replicas ▸ List.Sublist.refl _⟩
    · exact polls
  · unfold finish
    split <;> exact polls
  all_goals exact polls

theorem settle_polls (polls : machine.Polls names) : machine.settleRound.Polls names := by
  unfold settleRound
  split
  · exact ⟨polls.replicas, polls.awaiting⟩
  · exact ⟨polls.replicas, polls.awaiting⟩
  · split
    · exact ⟨polls.replicas, polls.awaiting⟩
    · dsimp only
      split <;> exact ⟨polls.replicas, polls.awaiting⟩

theorem step_polls (polls : machine.Polls names) (replies : List (String × Response)) :
    (machine.step replies).1.Polls names := by
  have rested : ∀ locked, ({ machine with awaiting := [], locked } : TakeMachine).Polls names :=
    fun _ => ⟨polls.replicas, List.nil_sublist _⟩
  rcases given_or_refuses machine replies with given | refuses
  · cases given with
    | nothing idle =>
        rw [step_idle idle]
        exact act_polls polls
    | offers stage answered =>
        rw [step_reserving stage answered]
        exact act_polls (settle_polls (rested _))
    | acknowledgements stage answered acknowledged =>
        rcases stage with releasing | committing
        · rw [step_releasing releasing answered acknowledged]
          exact act_polls ⟨polls.replicas, List.nil_sublist _⟩
        · rw [step_committing committing answered acknowledged]
          exact act_polls ⟨polls.replicas, List.nil_sublist _⟩
  · generalize machine.step replies = said at refuses
    cases refuses with
    | strange => exact polls
    | wrong => exact rested _

theorem polls_of_proceedings {taker : Taker} {log : List TakeTurn}
    (proceedings : Proceedings taker names log machine) : machine.Polls names := by
  induction proceedings with
  | start => exact ⟨rfl, List.nil_sublist _⟩
  | @step log machine next replies outcome _ stepped polls =>
      have polls := step_polls polls replies
      rwa [stepped] at polls

/-! ## Replies in another order -/

theorem offers_of_perm {offers : List (String × List String)}
    (same : (offers.map fun offer => (offer.1, Response.reserved offer.2)).Perm others) :
    ∃ more, offers.Perm more ∧ others = more.map fun offer => (offer.1, .reserved offer.2) := by
  have rearranged := congrFun (congrFun
    (List.eq_map_comp_perm fun offer : String × List String => (offer.1, Response.reserved offer.2))
    others) offers
  obtain ⟨more, mapped, perm⟩ := rearranged.mpr same.symm
  exact ⟨more, perm.symm, mapped⟩

theorem given_of_perm (given : Given machine replies) (awaiting : machine.awaiting.Nodup)
    (same : replies.Perm others) :
    Given machine others ∧ machine.step others = machine.step replies := by
  cases given with
  | nothing idle =>
      cases same.nil_eq
      exact ⟨.nothing idle, rfl⟩
  | @offers offers stage answered =>
      obtain ⟨more, rearranged, rfl⟩ := offers_of_perm same
      have told : (more.map (·.1)).Perm machine.awaiting :=
        (rearranged.map _).symm.trans answered
      refine ⟨.offers stage told, ?_⟩
      rw [step_reserving stage answered, step_reserving stage told,
        Holdings.noted_of_perm rearranged (answered.nodup_iff.mpr awaiting)]
  | acknowledgements stage answered acknowledged =>
      have told : (others.map (·.1)).Perm machine.awaiting := (same.map _).symm.trans answered
      have every : ∀ reply ∈ others, reply.2.isAcknowledgement = true :=
        fun reply member => acknowledged reply (same.mem_iff.mpr member)
      refine ⟨.acknowledgements stage told every, ?_⟩
      rcases stage with releasing | committing
      · rw [step_releasing releasing answered acknowledged, step_releasing releasing told every]
      · rw [step_committing committing answered acknowledged, step_committing committing told every]

/-- A refusal is a failure, whichever reply is met first. -/
theorem Refuses.failed {said : TakeMachine × Except ClientError TakeAction}
    (refuses : Refuses machine replies said) : ∃ cause, said.2 = .error cause := by
  cases refuses with
  | strange => exact ⟨_, rfl⟩
  | wrong => exact ⟨_, rfl⟩

/-- Two steps that come out alike: both say the same and leave the same machine, or both fail. Which
reply a failure names, and what was noted before it, may differ then. -/
inductive Alike : TakeMachine × Except ClientError TakeAction →
    TakeMachine × Except ClientError TakeAction → Prop
  | failed {former latter : TakeMachine} {cause other : ClientError} :
      Alike (former, .error cause) (latter, .error other)
  | agreed {next : TakeMachine} {action : TakeAction} :
      Alike (next, .ok action) (next, .ok action)

theorem Alike.refl (said : TakeMachine × Except ClientError TakeAction) : Alike said said := by
  obtain ⟨next, cause | action⟩ := said
  · exact .failed
  · exact .agreed

theorem alike_of_perm (awaiting : machine.awaiting.Nodup) (same : replies.Perm others) :
    Alike (machine.step replies) (machine.step others) := by
  -- if either order is taken in, the other is taken in alike; else both are refused
  rcases given_or_refuses machine replies with given | refuses
  · rw [(given_of_perm given awaiting same).2]
    exact .refl _
  rcases given_or_refuses machine others with given | refused
  · rw [(given_of_perm given awaiting same.symm).2]
    exact .refl _
  · obtain ⟨cause, failed⟩ := refuses.failed
    obtain ⟨other, missed⟩ := refused.failed
    rw [← Prod.eta (machine.step replies), ← Prod.eta (machine.step others), failed, missed]
    exact .failed

end TakeMachine

abbrev Reordered (given others : List (List (String × Response))) : Prop :=
  List.Forall₂ List.Perm given others

def Unfailing (log : List TakeTurn) : Prop :=
  ∀ turn ∈ log, turn.outcome.isOk = true

/-- A run without failures goes the same way when the replies of its rounds are reordered. -/
theorem proceed_reordered {names : List String} (distinct : names.Nodup)
    {given others : List (List (String × Response))} (same : Reordered given others)
    {machine : TakeMachine} (polls : machine.Polls names)
    (unfailing : Unfailing (proceed [] machine given).1) :
    (proceed [] machine others).2 = (proceed [] machine given).2 ∧
      (proceed [] machine others).1.map (·.outcome) =
        (proceed [] machine given).1.map (·.outcome) := by
  induction same generalizing machine with
  | nil => exact ⟨rfl, rfl⟩
  | @cons replies more rest others same _ induction =>
      rw [proceed, proceed_log] at unfailing ⊢
      have said : machine.step more = machine.step replies := by
        have stepped := TakeMachine.alike_of_perm (polls.awaiting.nodup distinct) same
        have said := unfailing _ (List.mem_append_right _ List.mem_cons_self)
        generalize machine.step replies = first, machine.step more = second at stepped said
        cases stepped with
        | failed => cases said
        | agreed => rfl
      obtain ⟨ends, outcomes⟩ := induction (TakeMachine.step_polls polls replies)
        fun turn member => unfailing turn (List.mem_append_left _ member)
      rw [said, proceed, proceed_log [_]]
      exact ⟨ends, by simp [outcomes]⟩

/-- The order in which replies arrive does not matter to a take over distinct replicas. Wherever its
machine has come to, failures or not, either a step fails for all orders of what it is given or it
says the same and leaves the same machine for all. As long as no step fails, then, the tuple that is
removed, whom the machine asks next and how often it has retried depend only on what each replica
has replied in each round. -/
theorem reply_order_immaterial {taker : Taker} {names : List String} (distinct : names.Nodup)
    {log : List TakeTurn} {machine : TakeMachine}
    (proceedings : Proceedings taker names log machine) :
    (∀ {replies others : List (String × Response)}, replies.Perm others →
      TakeMachine.Alike (machine.step replies) (machine.step others)) ∧
    ∀ {given others : List (List (String × Response))}, Reordered given others →
      Unfailing (proceed [] machine given).1 →
        (proceed [] machine others).2 = (proceed [] machine given).2 ∧
        (proceed [] machine others).1.map (·.outcome) =
          (proceed [] machine given).1.map (·.outcome) := by
  have polls := TakeMachine.polls_of_proceedings proceedings
  exact ⟨TakeMachine.alike_of_perm (polls.awaiting.nodup distinct),
    fun same unfailing => proceed_reordered distinct same polls unfailing⟩

def arrivals : List (List (String × Response)) :=
  [[("A", .reserved ["<a>", "<b>"]), ("B", .reserved ["<b>"]), ("C", .reserved ["<b>", "<a>"])],
    [("C", .committed), ("A", .committed), ("B", .committed)]]

/-- After a round that failed for a wrong reply and one that got hold of nothing, the replies arrive
in reverse: still `<b>` is removed. -/
theorem reply_order_immaterial_to_arrivals :
    ∃ log machine, Proceedings ⟨⟨1⟩, "<.>", {}⟩ ["A", "B", "C"] log machine ∧
      TakeMachine.Alike (machine.step [("A", .put), ("B", .reserved ["<b>"]), ("C", .reserved [])])
        (machine.step [("C", .reserved []), ("B", .reserved ["<b>"]), ("A", .put)]) ∧
      (proceed [] machine (arrivals.map List.reverse)).2 = (proceed [] machine arrivals).2 ∧
      (proceed [] machine arrivals).2.chosen? = some "<b>" := by
  have proceedings := proceedings_of_proceed
    (.start : Proceedings ⟨⟨1⟩, "<.>", {}⟩ ["A", "B", "C"] [] _)
    [[], [("B", .put), ("A", .reserved []), ("C", .reserved [])], [], []]
  obtain ⟨step, run⟩ := reply_order_immaterial (by decide) proceedings
  refine ⟨_, _, proceedings, step (by decide +kernel), (run ?_ ?_).1, by decide +kernel⟩
  · exact List.forall₂_map_right_iff.mpr
      (List.forall₂_same.mpr fun _ _ => (List.reverse_perm _).symm)
  · unfold Unfailing
    decide +kernel

end TupleSpace
