import TupleSpace.Proofs.TakeMachine

/-!
# Decisions of the take machine

A take machine that is given the replies it asked for decides for one of a few things: it asks
replicas for reservations, frees what it holds, has a tuple removed at all of them, pauses, or
gives up. Each decision comes with the notes on locks that it is based on.
-/

namespace TupleSpace

namespace TakeMachine

structure Serves (machine : TakeMachine) (taker : Taker) (names : List String) : Prop where
  client : machine.client = taker.client
  pattern : machine.pattern = taker.pattern
  replicas : machine.replicas = names
  policy : machine.policy = taker.policy

/-- What a machine that knows of certain locks may answer a step with. -/
inductive Decision (taker : Taker) (names : List String) (locked : Holdings) :
    TakeMachine × Except ClientError TakeAction → Prop
  | reserves {next : TakeMachine} (serves : next.Serves taker names)
      (stage : next.stage = .reserving) (kept : next.locked = locked ∨ next.locked = [])
      (asked : next.awaiting = names.filter fun name => !next.locked.has name) :
      Decision taker names locked
        (next, .ok (.send next.awaiting (.reserve taker.pattern taker.client)))
  | frees {next : TakeMachine} (serves : next.Serves taker names)
      (stage : next.stage = .releasing) (nothing : next.locked = [])
      (known : next.awaiting.Sublist names) :
      Decision taker names locked (next, .ok (.send next.awaiting (.release taker.client)))
  | pauses {next : TakeMachine} {pause : Pause} (serves : next.Serves taker names)
      (stage : next.stage = .reserve) (kept : next.locked = locked ∨ next.locked = []) :
      Decision taker names locked (next, .ok (.pause pause))
  | removes {next : TakeMachine} {tuple : String} (serves : next.Serves taker names)
      (stage : next.stage = .committing) (chosen : next.chosen? = some tuple)
      (asked : next.awaiting = names) (full : locked.length = names.length)
      (offered : tuple ∈ offeredByAll (names.filterMap fun name => locked.lookup name)) :
      Decision taker names locked (next, .ok (.send next.awaiting (.commit tuple taker.client)))
  | fails {next : TakeMachine} {cause : ClientError} (whose : next.client = taker.client) :
      Decision taker names locked (next, .error cause)

variable {machine : TakeMachine} {taker : Taker} {names : List String} {locked : Holdings}
  {replies : List (String × Response)}

theorem ask_reservations_decides (serves : machine.Serves taker names)
    (kept : machine.locked = locked ∨ machine.locked = []) :
    Decision taker names locked machine.askReservations := by
  cases machine
  obtain ⟨client, pattern, replicas, policy⟩ := serves
  dsimp only at client pattern replicas policy kept
  subst client pattern replicas policy
  exact .reserves ⟨rfl, rfl, rfl, rfl⟩ rfl kept rfl

theorem ask_pause_decides (serves : machine.Serves taker names)
    (kept : machine.locked = locked ∨ machine.locked = []) :
    Decision taker names locked machine.askPause := by
  have same : ∀ stage pending?,
      TakeMachine.Serves { machine with stage, pending? } taker names :=
    fun _ _ => ⟨serves.client, serves.pattern, serves.replicas, serves.policy⟩
  unfold askPause
  dsimp only
  split
  · exact .pauses (same _ _) rfl kept
  · exact ask_reservations_decides (same _ _) kept

theorem ask_release_decides (serves : machine.Serves taker names) :
    Decision taker names locked machine.askRelease := by
  cases machine
  obtain ⟨client, pattern, replicas, policy⟩ := serves
  dsimp only at client pattern replicas policy
  subst client pattern replicas policy
  unfold askRelease
  dsimp only
  split
  · split
    · exact .fails rfl
    · exact ask_pause_decides ⟨rfl, rfl, rfl, rfl⟩ (Or.inr rfl)
  · exact .frees ⟨rfl, rfl, rfl, rfl⟩ rfl rfl List.filter_sublist

/-- After a full round the machine acts on exactly the locks it has noted. -/
theorem settled_decides (serves : machine.Serves taker names) :
    Decision taker names machine.locked machine.settleRound.act := by
  have same : ∀ stage retries isExhausted awaiting pending? chosen?,
      TakeMachine.Serves
        { machine with stage, retries, isExhausted, awaiting, pending?, chosen? } taker names :=
    fun _ _ _ _ _ _ => ⟨serves.client, serves.pattern, serves.replicas, serves.policy⟩
  cases quorum : Quorum.classify machine.locked.length machine.replicas.length with
  | minority =>
      rw [settle_minority quorum]
      exact ask_release_decides (same _ _ _ _ _ _)
  | partialMajority =>
      rw [settle_partial quorum]
      exact ask_pause_decides
        (same .pause machine.retries machine.isExhausted machine.awaiting (some .settle)
          machine.chosen?) (Or.inl rfl)
  | full =>
      rw [settle_full quorum]
      cases common : offeredByAll machine.offers with
      | nil =>
          dsimp only
          split
          · exact ask_release_decides (same _ _ _ _ _ _)
          · exact ask_release_decides (same _ _ _ _ _ _)
      | cons tuple others =>
          have offered : tuple ∈ offeredByAll machine.offers := by
            rw [common]
            exact List.mem_cons_self
          have full := (Quorum.length_of_full quorum).2
          clear common quorum same
          cases machine
          obtain ⟨client, pattern, replicas, policy⟩ := serves
          dsimp only at client pattern replicas policy full
          subst client pattern replicas policy
          exact .removes ⟨rfl, rfl, rfl, rfl⟩ rfl rfl rfl full offered

/-! ## What a step decides -/

theorem step_from_reserve (serves : machine.Serves taker names)
    (stage : machine.stage = .reserve) :
    Decision taker names machine.locked (machine.step []) := by
  rw [step_idle (by rw [stage]; rfl), act, stage]
  exact ask_reservations_decides serves (Or.inl rfl)

theorem step_from_reserving (serves : machine.Serves taker names)
    (stage : machine.stage = .reserving) {offers : List (String × List String)}
    (answered : (offers.map (·.1)).Perm machine.awaiting) :
    Decision taker names (machine.locked.noted offers)
      (machine.step (offers.map fun offer => (offer.1, .reserved offer.2))) := by
  have same : TakeMachine.Serves
      { machine with awaiting := [], locked := machine.locked.noted offers } taker names :=
    ⟨serves.client, serves.pattern, serves.replicas, serves.policy⟩
  rw [step_reserving stage answered]
  exact settled_decides same

theorem step_from_releasing (serves : machine.Serves taker names)
    (stage : machine.stage = .releasing) (nothing : machine.locked = [])
    (answered : (replies.map (·.1)).Perm machine.awaiting)
    (acknowledged : ∀ reply ∈ replies, reply.2.isAcknowledgement = true) :
    Decision taker names [] (machine.step replies) := by
  rw [step_releasing stage answered acknowledged]
  unfold act afterRelease
  cases machine.isExhausted with
  | true => exact .fails serves.client
  | false =>
      exact ask_pause_decides ⟨serves.client, serves.pattern, serves.replicas, serves.policy⟩
        (Or.inr nothing)

theorem step_from_committing {tuple : String} (stage : machine.stage = .committing)
    (chosen : machine.chosen? = some tuple)
    (answered : (replies.map (·.1)).Perm machine.awaiting)
    (acknowledged : ∀ reply ∈ replies, reply.2.isAcknowledgement = true) :
    (machine.step replies).2 = .ok (.taken tuple) := by
  rw [step_committing stage answered acknowledged]
  simp [act, finish, chosen]

end TakeMachine

end TupleSpace
