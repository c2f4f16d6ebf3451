import TupleSpace.Proofs.TakeTranscript

/-!
# A take that goes on after failures

A take machine may be stepped on after a step that has failed. It still calls a take done only
after it was given one reply of every replica to its removal, but these need not be
acknowledgements: a reply of another kind fails the step that takes it in, and yet nothing is
awaited from then on, so the next step without replies finishes.
-/

namespace TupleSpace

/-- The steps of a take from its beginning, failed or not, latest first. -/
inductive Proceedings (taker : Taker) (names : List String) : List TakeTurn → TakeMachine → Prop
  | start : Proceedings taker names [] (taker.machine names)
  | step {log : List TakeTurn} {machine next : TakeMachine} {replies : List (String × Response)}
      {outcome : Except ClientError TakeAction} (earlier : Proceedings taker names log machine)
      (stepped : machine.step replies = (next, outcome)) :
      Proceedings taker names (⟨replies, outcome⟩ :: log) next

/-- The turns of a machine that is given some replies, step by step, with what has become of it. -/
def proceed (log : List TakeTurn) (machine : TakeMachine) :
    List (List (String × Response)) → List TakeTurn × TakeMachine
  | [] => (log, machine)
  | replies :: rest =>
      proceed (⟨replies, (machine.step replies).2⟩ :: log) (machine.step replies).1 rest

theorem proceedings_of_proceed {taker : Taker} {names : List String} {log : List TakeTurn}
    {machine : TakeMachine} (earlier : Proceedings taker names log machine)
    (given : List (List (String × Response))) :
    Proceedings taker names (proceed log machine given).1 (proceed log machine given).2 := by
  induction given generalizing log machine with
  | nil => exact earlier
  | cons replies rest induction => exact induction (.step earlier rfl)

theorem proceed_log (log : List TakeTurn) (machine : TakeMachine)
    (given : List (List (String × Response))) :
    proceed log machine given = ((proceed [] machine given).1 ++ log,
      (proceed [] machine given).2) := by
  induction given generalizing log machine with
  | nil => rfl
  | cons replies rest induction =>
      unfold proceed
      rw [induction, induction [_], List.append_assoc]
      rfl

def Unanswered (log : List TakeTurn) (names : List String) (request : Request) : Prop :=
  ∃ refused asking earlier, log = refused ++ asking :: earlier ∧
    asking.outcome = .ok (.send names request) ∧
    ∀ turn ∈ refused, ∃ cause, turn.outcome = .error cause

/-- A removal that went to all replicas was answered by each of them in one step. The replicas have
all acknowledged it just if that step has called the take done. -/
def RemovalAnswered (log : List TakeTurn) (names : List String) (tuple : String)
    (client : ClientId) : Prop :=
  ∃ later answering earlier, log = later ++ answering :: earlier ∧
    Unanswered earlier names (.commit tuple client) ∧
    (answering.replies.map (·.1)).Perm names ∧
    ((∀ name ∈ names, ∃ response, (name, response) ∈ answering.replies ∧
        response.isAcknowledgement = true) ↔
      answering.outcome = .ok (.taken tuple))

section

variable {log : List TakeTurn} {turn : TakeTurn} {names : List String} {request : Request}
  {tuple : String} {client : ClientId} {replies : List (String × Response)}

theorem Unanswered.refused (unanswered : Unanswered log names request)
    (failed : ∃ cause, turn.outcome = .error cause) : Unanswered (turn :: log) names request := by
  obtain ⟨refused, asking, earlier, rfl, asked, failures⟩ := unanswered
  exact ⟨turn :: refused, asking, earlier, rfl, asked, List.forall_mem_cons.mpr ⟨failed, failures⟩⟩

theorem RemovalAnswered.next (answered : RemovalAnswered log names tuple client) :
    RemovalAnswered (turn :: log) names tuple client := by
  obtain ⟨later, answering, earlier, rfl, rest⟩ := answered
  exact ⟨turn :: later, answering, earlier, rfl, rest⟩

theorem acknowledged_iff (distinct : names.Nodup) (answered : (replies.map (·.1)).Perm names) :
    (∀ name ∈ names, ∃ response, (name, response) ∈ replies ∧
        response.isAcknowledgement = true) ↔
      ∀ reply ∈ replies, reply.2.isAcknowledgement = true := by
  constructor
  · intro every reply member
    obtain ⟨response, inside, acknowledgement⟩ :=
      every reply.1 (answered.mem_iff.mp (List.mem_map_of_mem member))
    have same := List.inj_on_of_nodup_map (answered.nodup_iff.mpr distinct) inside member rfl
    exact same ▸ acknowledgement
  · exact TakeMachine.every_acknowledged answered

end

namespace TakeMachine

variable {machine next : TakeMachine} {taker : Taker} {names : List String} {log : List TakeTurn}
  {replies : List (String × Response)}

/-! ## Replies that are refused -/

theorem note_reservations_locks (machine : TakeMachine) (replies : List (String × Response)) :
    ∃ locked, (machine.noteReservations replies).1 = { machine with locked } := by
  induction replies generalizing machine with
  | nil => exact ⟨machine.locked, rfl⟩
  | cons reply rest induction =>
      obtain ⟨name, response⟩ := reply
      unfold noteReservations
      split
      · exact ⟨machine.locked, rfl⟩
      · exact induction machine
      · exact induction { machine with locked := machine.locked.insert name _ }

/-- Replies that a machine does not take are not those of the replicas that were asked, and then
nothing changes; or one of them is of the wrong kind, and then nothing is awaited any more. -/
inductive Refuses (machine : TakeMachine) (replies : List (String × Response)) :
    TakeMachine × Except ClientError TakeAction → Prop
  | strange {cause : ClientError} : Refuses machine replies (machine, .error cause)
  | wrong {locked : Holdings} {cause : ClientError}
      (answered : (replies.map (·.1)).Perm machine.awaiting)
      (unacknowledged : machine.stage = .committing →
        ¬∀ reply ∈ replies, reply.2.isAcknowledgement = true) :
      Refuses machine replies ({ machine with awaiting := [], locked }, .error cause)

theorem reservations_or_refuses (stage : machine.stage = .reserving)
    (answered : (replies.map (·.1)).Perm machine.awaiting) :
    Given machine replies ∨ Refuses machine replies (machine.step replies) := by
  cases noted : TakeMachine.noteReservations { machine with awaiting := [] } replies with
  | mk next result =>
      cases result with
      | ok done =>
          obtain ⟨offers, rfl⟩ := all_reserved noted
          exact Or.inl (.offers stage (by simpa [Function.comp_def] using answered))
      | error cause =>
          have awaiting : machine.stage.isAwaiting = true := by simp [stage, TakeStage.isAwaiting]
          have said : machine.step replies = (next, .error cause) := by
            unfold step
            rw [absorb_answered awaiting answered, noted]
            simp only [stage]
          obtain ⟨locked, same⟩ := note_reservations_locks { machine with awaiting := [] } replies
          rw [noted] at same
          subst same
          rw [said]
          exact Or.inr (.wrong answered (by simp [stage]))

theorem acknowledgements_or_refuses
    (stage : machine.stage = .releasing ∨ machine.stage = .committing)
    (answered : (replies.map (·.1)).Perm machine.awaiting) :
    Given machine replies ∨ Refuses machine replies (machine.step replies) := by
  cases checked : checkAcknowledged replies with
  | ok done => exact Or.inl (.acknowledgements stage answered (all_acknowledged checked))
  | error cause =>
      have awaiting : machine.stage.isAwaiting = true := by
        rcases stage with stage | stage <;> simp [stage, TakeStage.isAwaiting]
      have said : machine.step replies = ({ machine with awaiting := [] }, .error cause) := by
        unfold step
        rw [absorb_answered awaiting answered]
        rcases stage with stage | stage <;> simp only [stage, checked]
      have wrong : ¬∀ reply ∈ replies, reply.2.isAcknowledgement = true := by
        intro acknowledged
        rw [check_acknowledged_of_all acknowledged] at checked
        cases checked
      rw [said]
      exact Or.inr (.wrong answered fun _ => wrong)

theorem given_or_refuses (machine : TakeMachine) (replies : List (String × Response)) :
    Given machine replies ∨ Refuses machine replies (machine.step replies) := by
  by_cases awaiting : machine.stage.isAwaiting = true
  · by_cases answered : (replies.map (·.1)).Perm machine.awaiting
    · cases stage : machine.stage with
      | reserving => exact reservations_or_refuses stage answered
      | releasing => exact acknowledgements_or_refuses (Or.inl stage) answered
      | committing => exact acknowledgements_or_refuses (Or.inr stage) answered
      | _ => simp [stage, TakeStage.isAwaiting] at awaiting
    · right
      have strange : Sorting.sort Sorting.nameOrder (replies.map (·.1)) ≠
          Sorting.sort Sorting.nameOrder machine.awaiting := by
        intro same
        refine answered ((Sorting.sort_perm Sorting.nameOrder _).symm.trans ?_)
        exact same ▸ Sorting.sort_perm Sorting.nameOrder _
      simp only [step, absorb, awaiting, Bool.not_true, Bool.false_eq_true, if_false, ne_eq,
        strange, not_false_eq_true, if_true]
      exact .strange
  · have idle : machine.stage.isAwaiting = false := by simpa using awaiting
    cases replies with
    | nil => exact Or.inl (.nothing idle)
    | cons reply rest =>
        right
        simp only [step, absorb, idle, Bool.not_false, if_true, List.isEmpty_cons,
          Bool.false_eq_true, if_false]
        exact .strange

/-! ## Before a removal -/

/-- A machine that rests before it has a tuple removed, or has given up. -/
structure Before (machine : TakeMachine) (taker : Taker) (names : List String) : Prop where
  client : machine.client = taker.client
  replicas : machine.replicas = names
  stage : machine.stage = .reserve ∨ machine.stage = .reserving ∨ machine.stage = .releasing ∨
    machine.stage = .exhausted

structure Removes (machine : TakeMachine) (taker : Taker) (names : List String) (tuple : String) :
    Prop where
  stage : machine.stage = .committing
  chosen : machine.chosen? = some tuple
  awaiting : machine.awaiting = names

inductive Proceeds (taker : Taker) (names : List String) :
    TakeMachine × Except ClientError TakeAction → Prop
  | on {next : TakeMachine} {outcome : Except ClientError TakeAction}
      (before : next.Before taker names) (untaken : ∀ tuple, outcome ≠ .ok (.taken tuple)) :
      Proceeds taker names (next, outcome)
  | asked {next : TakeMachine} {tuple : String} (removes : next.Removes taker names tuple) :
      Proceeds taker names (next, .ok (.send names (.commit tuple taker.client)))

theorem ask_reservations_proceeds (client : machine.client = taker.client)
    (replicas : machine.replicas = names) : Proceeds taker names machine.askReservations :=
  .on ⟨client, replicas, Or.inr (Or.inl rfl)⟩ (by simp)

theorem ask_pause_proceeds (client : machine.client = taker.client)
    (replicas : machine.replicas = names) : Proceeds taker names machine.askPause := by
  unfold askPause
  dsimp only
  split
  · exact .on ⟨client, replicas, Or.inl rfl⟩ (by simp)
  · exact ask_reservations_proceeds client replicas

theorem give_up_proceeds (client : machine.client = taker.client)
    (replicas : machine.replicas = names) (stage : machine.stage = .exhausted) :
    Proceeds taker names machine.giveUp :=
  .on ⟨client, replicas, Or.inr (Or.inr (Or.inr stage))⟩ (by simp)

theorem ask_release_proceeds (client : machine.client = taker.client)
    (replicas : machine.replicas = names) : Proceeds taker names machine.askRelease := by
  unfold askRelease
  dsimp only
  split
  · split
    · exact give_up_proceeds client replicas rfl
    · exact ask_pause_proceeds client replicas
  · exact .on ⟨client, replicas, Or.inr (Or.inr (Or.inl rfl))⟩ (by simp)

theorem settled_proceeds (client : machine.client = taker.client)
    (replicas : machine.replicas = names) : Proceeds taker names machine.settleRound.act := by
  cases quorum : Quorum.classify machine.locked.length machine.replicas.length with
  | minority =>
      rw [settle_minority quorum]
      exact ask_release_proceeds client replicas
  | partialMajority =>
      rw [settle_partial quorum, act]
      exact ask_pause_proceeds client replicas
  | full =>
      rw [settle_full quorum]
      cases common : offeredByAll machine.offers with
      | nil =>
          dsimp only
          split
          · exact ask_release_proceeds client replicas
          · exact ask_release_proceeds client replicas
      | cons tuple others =>
          subst replicas
          dsimp only [act, askCommit, ask]
          rw [client]
          exact .asked ⟨rfl, rfl, rfl⟩

theorem Before.proceeds (before : machine.Before taker names)
    (replies : List (String × Response)) : Proceeds taker names (machine.step replies) := by
  rcases given_or_refuses machine replies with given | refuses
  case inr =>
    generalize machine.step replies = said at refuses
    cases refuses with
    | strange => exact .on before (by simp)
    | wrong => exact .on ⟨before.client, before.replicas, before.stage⟩ (by simp)
  obtain ⟨client, replicas, stage | stage | stage | stage⟩ := before
  · cases given with
    | nothing idle =>
        rw [step_idle idle, act, stage]
        exact ask_reservations_proceeds client replicas
    | offers other => simp [stage] at other
    | acknowledgements other => simp [stage] at other
  · cases given with
    | nothing idle => simp [stage, TakeStage.isAwaiting] at idle
    | offers _ answered =>
        rw [step_reserving stage answered]
        exact settled_proceeds client replicas
    | acknowledgements other => simp [stage] at other
  · cases given with
    | nothing idle => simp [stage, TakeStage.isAwaiting] at idle
    | offers other => simp [stage] at other
    | acknowledgements _ answered acknowledged =>
        rw [step_releasing stage answered acknowledged]
        unfold act afterRelease
        cases machine.isExhausted with
        | true => exact give_up_proceeds client replicas rfl
        | false => exact ask_pause_proceeds client replicas
  · cases given with
    | nothing idle =>
        rw [step_idle idle, act, stage]
        exact give_up_proceeds client replicas stage
    | offers other => simp [stage] at other
    | acknowledgements other => simp [stage] at other

/-! ## From the removal on -/

/-- How far a machine has come in what it was given, whatever that was. -/
inductive Heeds (machine : TakeMachine) (taker : Taker) (names : List String)
    (log : List TakeTurn) : Prop
  | before (before : machine.Before taker names)
  | removes {tuple : String} (removes : machine.Removes taker names tuple)
      (unanswered : Unanswered log names (.commit tuple taker.client))
  | answered {tuple : String}
      (stage : machine.stage = .committing ∧ machine.awaiting = [] ∨ machine.stage = .finished)
      (chosen : machine.chosen? = some tuple)
      (answered : RemovalAnswered log names tuple taker.client)

/-- The machine heeds its next turn as well, and calls a take done once its removal is answered. -/
def Heeded (taker : Taker) (names : List String) (log : List TakeTurn)
    (replies : List (String × Response)) (said : TakeMachine × Except ClientError TakeAction) :
    Prop :=
  said.1.Heeds taker names (⟨replies, said.2⟩ :: log) ∧
    ∀ tuple, said.2 = .ok (.taken tuple) →
      RemovalAnswered (⟨replies, said.2⟩ :: log) names tuple taker.client

theorem Removes.heeded {tuple : String} (removes : machine.Removes taker names tuple)
    (unanswered : Unanswered log names (.commit tuple taker.client)) (distinct : names.Nodup)
    (replies : List (String × Response)) :
    Heeded taker names log replies (machine.step replies) := by
  obtain ⟨stage, chosen, awaiting⟩ := removes
  rcases given_or_refuses machine replies with given | refuses
  · cases given with
    | nothing idle => simp [stage, TakeStage.isAwaiting] at idle
    | offers other => simp [stage] at other
    | acknowledgements _ answered acknowledged =>
        have told : (replies.map (·.1)).Perm names := awaiting ▸ answered
        have removed : RemovalAnswered (⟨replies, .ok (.taken tuple)⟩ :: log) names tuple
            taker.client := by
          refine ⟨[], _, log, rfl, unanswered, told, ?_⟩
          exact iff_of_true ((acknowledged_iff distinct told).mpr acknowledged) rfl
        rw [step_committing stage answered acknowledged]
        simp only [act, finish, chosen]
        refine ⟨.answered (Or.inr rfl) rfl removed, fun other said => ?_⟩
        cases said
        exact removed
  · generalize machine.step replies = said at refuses
    refine ⟨?_, fun other same => by cases refuses <;> cases same⟩
    cases refuses with
    | strange => exact .removes ⟨stage, chosen, awaiting⟩ (unanswered.refused ⟨_, rfl⟩)
    | wrong answered unacknowledged =>
        have told : (replies.map (·.1)).Perm names := awaiting ▸ answered
        refine .answered (Or.inl ⟨stage, rfl⟩) chosen ⟨[], _, log, rfl, unanswered, told, ?_⟩
        refine iff_of_false (fun every => unacknowledged stage ?_) (by simp)
        exact (acknowledged_iff distinct told).mp every

theorem heeded_of_answered {tuple : String}
    (stage : machine.stage = .committing ∧ machine.awaiting = [] ∨ machine.stage = .finished)
    (chosen : machine.chosen? = some tuple)
    (answered : RemovalAnswered log names tuple taker.client)
    (replies : List (String × Response)) :
    Heeded taker names log replies (machine.step replies) := by
  have done : ∀ next : TakeMachine, next.stage = .finished → next.chosen? = some tuple →
      Heeded taker names log replies next.finish := by
    intro next stage chosen
    simp only [finish, chosen]
    refine ⟨.answered (Or.inr stage) chosen answered.next, fun other said => ?_⟩
    cases said
    exact answered.next
  rcases given_or_refuses machine replies with given | refuses
  · rcases stage with ⟨stage, awaiting⟩ | stage
    · cases given with
      | nothing idle => simp [stage, TakeStage.isAwaiting] at idle
      | offers other => simp [stage] at other
      | acknowledgements _ told acknowledged =>
          rw [step_committing stage told acknowledged]
          exact done _ rfl chosen
    · cases given with
      | nothing idle =>
          rw [step_idle idle, act, stage]
          exact done machine stage chosen
      | offers other => simp [stage] at other
      | acknowledgements other => simp [stage] at other
  · generalize machine.step replies = said at refuses
    refine ⟨?_, fun other same => by cases refuses <;> cases same⟩
    cases refuses with
    | strange => exact .answered stage chosen answered.next
    | wrong => exact .answered (stage.imp_left fun both => ⟨both.1, rfl⟩) chosen answered.next

theorem Heeds.heeded (heeds : machine.Heeds taker names log) (distinct : names.Nodup)
    (replies : List (String × Response)) :
    Heeded taker names log replies (machine.step replies) := by
  cases heeds with
  | before before =>
      have proceeds := before.proceeds replies
      generalize machine.step replies = said at proceeds
      cases proceeds with
      | on before untaken =>
          exact ⟨.before before, fun tuple said => absurd said (untaken tuple)⟩
      | asked removes =>
          refine ⟨.removes removes ⟨[], _, log, rfl, rfl, by simp⟩, fun tuple said => ?_⟩
          cases said
  | removes removes unanswered => exact removes.heeded unanswered distinct replies
  | answered stage chosen answered => exact heeded_of_answered stage chosen answered replies

end TakeMachine

theorem heeds_of_proceedings {taker : Taker} {names : List String} {log : List TakeTurn}
    {machine : TakeMachine} (distinct : names.Nodup)
    (proceedings : Proceedings taker names log machine) : machine.Heeds taker names log := by
  induction proceedings with
  | start => exact .before ⟨rfl, rfl, Or.inl rfl⟩
  | @step log machine next replies outcome _ stepped heeds =>
      have heeded := (heeds.heeded distinct replies).1
      rw [stepped] at heeded
      exact heeded

/-- Whatever a machine is given, failures or not, it calls a take done only after its removal went
to all replicas and each has answered it in one step. These answers are all acknowledgements just
if that step has itself called the take done, and not if it has failed. -/
theorem taken_after_answers {taker : Taker} {names : List String} {log : List TakeTurn}
    {machine next : TakeMachine} {replies : List (String × Response)} {tuple : String}
    (distinct : names.Nodup) (proceedings : Proceedings taker names log machine)
    (stepped : machine.step replies = (next, .ok (.taken tuple))) :
    RemovalAnswered (⟨replies, .ok (.taken tuple)⟩ :: log) names tuple taker.client := by
  have heeded := ((heeds_of_proceedings distinct proceedings).heeded distinct replies).2
  rw [stepped] at heeded
  exact heeded tuple rfl

/-- What two replicas say to a take: a reply of the wrong kind fails the first round, and too few
replies the removal. -/
def mishaps : List (List (String × Response)) :=
  [[], [("A", .reserved ["<a>"]), ("B", .put)], [], [("A", .released)], [],
    [("A", .reserved ["<a>"]), ("B", .reserved ["<a>"])], [("A", .committed)]]

theorem taken_after_answers_of_mishaps :
    ∃ log machine next, Proceedings ⟨⟨1⟩, "<.>", {}⟩ ["A", "B"] log machine ∧
      machine.step [("B", .committed), ("A", .committed)] = (next, .ok (.taken "<a>")) ∧
      RemovalAnswered (⟨[("B", .committed), ("A", .committed)], .ok (.taken "<a>")⟩ :: log)
        ["A", "B"] "<a>" ⟨1⟩ := by
  have proceedings := proceedings_of_proceed
    (.start : Proceedings ⟨⟨1⟩, "<.>", {}⟩ ["A", "B"] [] _) mishaps
  have said : ((proceed [] (Taker.machine ⟨⟨1⟩, "<.>", {}⟩ ["A", "B"]) mishaps).2.step
      [("B", .committed), ("A", .committed)]).2 = .ok (.taken "<a>") := by decide +kernel
  have stepped := Prod.ext rfl said
  exact ⟨_, _, _, proceedings, stepped, taken_after_answers (by decide) proceedings stepped⟩

/-- The only replica answers a removal with something else. That step fails, and the next one calls
the take done. -/
theorem taken_without_acknowledgement :
    ∃ log machine, Proceedings ⟨⟨1⟩, "<a>", {}⟩ ["A"] log machine ∧
      (∃ turn ∈ log, turn.outcome = .ok (.send ["A"] (.commit "<a>" ⟨1⟩))) ∧
      (∀ turn ∈ log, ∀ reply ∈ turn.replies, reply.2.isAcknowledgement = false) ∧
      (machine.step []).2 = .ok (.taken "<a>") :=
  ⟨_, _, proceedings_of_proceed .start
    [[], [("A", .reserved ["<a>"])], [("A", .read "<a>")]], by decide +kernel⟩

end TupleSpace
