import TupleSpace.Proofs.TakeDecision

/-!
# Transcripts of a take

A take machine is stepped with any replies at all until it fails for the first time. What it says
on the way follows from what it was told since its last release: whom it asks for reservations,
whom it asks to free them, which tuple it has removed, and when it calls the take done or gives
it up.
-/

namespace TupleSpace

open TupleSpace.Table

structure TakeTurn where
  replies : List (String × Response)
  outcome : Except ClientError TakeAction

def offersIn (replies : List (String × Response)) : List (String × List String) :=
  replies.filterMap fun reply =>
    (reply.2.reserved?.filter (· ≠ [])).map fun tuples => (reply.1, tuples)

def TakeTurn.frees (turn : TakeTurn) : Bool :=
  match turn.outcome with
  | .ok (.send _ (.release _)) => true
  | _ => false

/-! Transcripts list their turns latest first. -/

/-- What was offered since the last release, or since the beginning. -/
def attempt (log : List TakeTurn) : List (String × List String) :=
  (log.takeWhile fun turn => !turn.frees).flatMap fun turn => offersIn turn.replies

/-- The machine had sent a request to a replica, and was given its acknowledgement. -/
def Acknowledged (log : List TakeTurn) (name : String) (request : Request) : Prop :=
  ∃ later answering asking earlier, log = later ++ answering :: asking :: earlier ∧
    (∃ targets, asking.outcome = .ok (.send targets request) ∧ name ∈ targets) ∧
    ∃ response, (name, response) ∈ answering.replies ∧ response.isAcknowledgement = true

def FirstCommon (tuple : String) (lists : List (List String)) : Prop :=
  ∃ before after others, lists = (before ++ tuple :: after) :: others ∧
    (∀ list ∈ others, tuple ∈ list) ∧ ∀ earlier ∈ before, ∃ list ∈ others, earlier ∉ list

/-- Every replica that ever offered something, up to those in question, has acknowledged a release
since. -/
def GivenBack (client : ClientId) (log : List TakeTurn) (but : List String) : Prop :=
  ∀ later turn earlier, log = later ++ turn :: earlier → ∀ offer ∈ offersIn turn.replies,
    offer.1 ∈ but ∨ Acknowledged (later ++ [turn]) offer.1 (.release client)

namespace TakeTurn

def Disciplined (taker : Taker) (names : List String) (log : List TakeTurn) (turn : TakeTurn) :
    Prop :=
  let offers := offersIn turn.replies ++ attempt log
  match turn.outcome with
  | .ok (.send targets (.reserve pattern client)) =>
      pattern = taker.pattern ∧ client = taker.client ∧
        targets = names.filter (· ∉ offers.map (·.1))
  | .ok (.send targets (.release client)) =>
      client = taker.client ∧ targets = names.filter (· ∈ offers.map (·.1))
  | .ok (.send targets (.commit tuple client)) =>
      client = taker.client ∧ targets = names ∧ (offers.map (·.1)).Perm names ∧
        ∃ offered : String → List String,
          (∀ offer ∈ offers, offer.2 = offered offer.1 ∧ tuple ∈ offer.2) ∧
          FirstCommon tuple (names.map offered)
  | .ok (.send _ _) => False
  | .ok (.pause _) => True
  | .ok (.taken tuple) =>
      ∀ name ∈ names, Acknowledged (turn :: log) name (.commit tuple taker.client)
  | .error (.backoffExceeded _) => GivenBack taker.client (turn :: log) []
  | .error _ => True

end TakeTurn

/-- The steps of a take from its beginning that have not failed. -/
inductive Transcript (taker : Taker) (names : List String) : List TakeTurn → TakeMachine → Prop
  | start : Transcript taker names [] (taker.machine names)
  | step {log : List TakeTurn} {machine next : TakeMachine} {replies : List (String × Response)}
      {action : TakeAction} (earlier : Transcript taker names log machine)
      (stepped : machine.step replies = (next, .ok action)) :
      Transcript taker names (⟨replies, .ok action⟩ :: log) next

/-! ## Replies that are taken in -/

section

variable {machine next : TakeMachine} {replies : List (String × Response)}

theorem all_acknowledged (checked : TakeMachine.checkAcknowledged replies = .ok ()) :
    ∀ reply ∈ replies, reply.2.isAcknowledgement = true := by
  induction replies with
  | nil => simp
  | cons reply rest induction =>
      obtain ⟨name, response⟩ := reply
      unfold TakeMachine.checkAcknowledged Response.acknowledged at checked
      cases head : response.isAcknowledgement with
      | false => simp [head] at checked
      | true =>
          intro other member
          rcases List.mem_cons.mp member with rfl | later
          · exact head
          · exact induction (by simpa [head] using checked) other later

theorem all_reserved (noted : machine.noteReservations replies = (next, .ok ())) :
    ∃ offers : List (String × List String),
      replies = offers.map fun offer => (offer.1, .reserved offer.2) := by
  induction replies generalizing machine with
  | nil => exact ⟨[], rfl⟩
  | cons reply rest induction =>
      obtain ⟨name, response⟩ := reply
      cases response with
      | reserved tuples =>
          have tail : ∃ after : TakeMachine, after.noteReservations rest = (next, .ok ()) := by
            cases tuples with
            | nil => exact ⟨machine, noted⟩
            | cons tuple others => exact ⟨_, noted⟩
          obtain ⟨after, rested⟩ := tail
          obtain ⟨offers, rfl⟩ := induction rested
          exact ⟨(name, tuples) :: offers, rfl⟩
      | _ =>
          rw [TakeMachine.noteReservations] at noted
          simp [Response.reservations, Response.reserved?] at noted

theorem offers_of_reserved (offers : List (String × List String)) :
    offersIn (offers.map fun offer => (offer.1, .reserved offer.2)) =
      offers.filter fun offer => offer.2 ≠ [] := by
  induction offers with
  | nil => rfl
  | cons offer rest induction =>
      obtain ⟨name, tuples⟩ := offer
      unfold offersIn at induction ⊢
      cases tuples <;> simp [Response.reserved?, Option.filter] at induction ⊢ <;> exact induction

theorem offers_of_acknowledged
    (acknowledged : ∀ reply ∈ replies, reply.2.isAcknowledgement = true) :
    offersIn replies = [] := by
  refine List.filterMap_eq_nil_iff.mpr fun reply member => ?_
  obtain ⟨name, response⟩ := reply
  have acknowledgement := acknowledged _ member
  cases response <;> first | rfl | cases acknowledgement

inductive Given (machine : TakeMachine) : List (String × Response) → Prop
  | nothing (idle : machine.stage.isAwaiting = false) : Given machine []
  | offers {offers : List (String × List String)} (stage : machine.stage = .reserving)
      (answered : (offers.map (·.1)).Perm machine.awaiting) :
      Given machine (offers.map fun offer => (offer.1, .reserved offer.2))
  | acknowledgements {replies : List (String × Response)}
      (stage : machine.stage = .releasing ∨ machine.stage = .committing)
      (answered : (replies.map (·.1)).Perm machine.awaiting)
      (acknowledged : ∀ reply ∈ replies, reply.2.isAcknowledgement = true) : Given machine replies

theorem checked_or_faulty (replies : List (String × Response)) :
    TakeMachine.checkAcknowledged replies = .ok () ∨
      ∃ source, TakeMachine.checkAcknowledged replies = .error (.transport source) := by
  induction replies with
  | nil => exact Or.inl rfl
  | cons reply rest induction =>
      unfold TakeMachine.checkAcknowledged Response.acknowledged
      cases reply.2.isAcknowledgement with
      | true => simpa using induction
      | false => exact Or.inr ⟨_, rfl⟩

theorem noted_or_faulty (machine : TakeMachine) (replies : List (String × Response)) :
    (∃ next, machine.noteReservations replies = (next, .ok ())) ∨
      ∃ next source, machine.noteReservations replies = (next, .error (.transport source)) := by
  induction replies generalizing machine with
  | nil => exact Or.inl ⟨machine, rfl⟩
  | cons reply rest induction =>
      obtain ⟨name, response⟩ := reply
      cases response with
      | reserved tuples =>
          cases tuples with
          | nil => exact induction machine
          | cons tuple others => exact induction _
      | _ => exact Or.inr ⟨_, _, rfl⟩

theorem given_or_faulty (machine : TakeMachine) (replies : List (String × Response)) :
    Given machine replies ∨ ∃ source, (machine.step replies).2 = .error (.transport source) := by
  unfold TakeMachine.step
  by_cases awaiting : machine.stage.isAwaiting = true
  · by_cases answered : (replies.map (·.1)).Perm machine.awaiting
    · rw [TakeMachine.absorb_answered awaiting answered]
      cases stage : machine.stage with
      | reserving =>
          rcases noted_or_faulty { machine with awaiting := [] } replies with
            ⟨next, noted⟩ | ⟨next, source, faulty⟩
          · obtain ⟨offers, rfl⟩ := all_reserved noted
            exact Or.inl (.offers stage (by simpa [Function.comp_def] using answered))
          · rw [stage] at faulty
            exact Or.inr ⟨source, by simp [faulty]⟩
      | releasing =>
          rcases checked_or_faulty replies with checked | ⟨source, faulty⟩
          · exact Or.inl (.acknowledgements (Or.inl stage) answered (all_acknowledged checked))
          · exact Or.inr ⟨source, by simp [faulty]⟩
      | committing =>
          rcases checked_or_faulty replies with checked | ⟨source, faulty⟩
          · exact Or.inl (.acknowledgements (Or.inr stage) answered (all_acknowledged checked))
          · exact Or.inr ⟨source, by simp [faulty]⟩
      | _ => simp [stage, TakeStage.isAwaiting] at awaiting
    · have strange : Sorting.sort Sorting.nameOrder (replies.map (·.1)) ≠
          Sorting.sort Sorting.nameOrder machine.awaiting := by
        intro same
        refine answered ((Sorting.sort_perm Sorting.nameOrder _).symm.trans ?_)
        exact same ▸ Sorting.sort_perm Sorting.nameOrder _
      exact Or.inr ⟨_, by simp [TakeMachine.absorb, awaiting, strange]; rfl⟩
  · have idle : machine.stage.isAwaiting = false := by simpa using awaiting
    cases replies with
    | nil => exact Or.inl (.nothing idle)
    | cons reply rest => exact Or.inr ⟨_, by simp [TakeMachine.absorb, idle]; rfl⟩

end

/-! ## Locks -/

theorem first_common {lists : List (List String)} {tuple : String} {others : List String}
    (common : offeredByAll lists = tuple :: others) : FirstCommon tuple lists := by
  cases lists with
  | nil => cases common
  | cons first rest =>
      obtain ⟨before, after, rfl, missed, everywhere, _⟩ := List.filter_eq_cons_iff.mp common
      refine ⟨before, after, rest, rfl, by simpa using everywhere, fun earlier member => ?_⟩
      simpa using missed earlier member

namespace Holdings

structure Notes (locked : Holdings) (names : List String) (offers : List (String × List String)) :
    Prop where
  same : locked.Perm offers
  distinct : (offers.map (·.1)).Nodup
  known : offers.map (·.1) ⊆ names

namespace Notes

variable {locked : Holdings} {names : List String} {offers : List (String × List String)}

theorem nil (names : List String) : Notes [] names [] := ⟨List.Perm.refl _, List.nodup_nil, by simp⟩

theorem has_iff (notes : locked.Notes names offers) {name : String} :
    locked.has name = true ↔ name ∈ offers.map (·.1) := by
  rw [Holdings.has_iff]
  exact (notes.same.map _).mem_iff

theorem unlocked_eq (notes : locked.Notes names offers) :
    names.filter (fun name => !locked.has name) = names.filter (· ∉ offers.map (·.1)) := by
  refine List.filter_congr fun name _ => ?_
  rw [Bool.eq_iff_iff, decide_eq_true_iff, ← notes.has_iff]
  simp

theorem locked_eq (notes : locked.Notes names offers) :
    names.filter locked.has = names.filter (· ∈ offers.map (·.1)) := by
  refine List.filter_congr fun name _ => ?_
  rw [Bool.eq_iff_iff, decide_eq_true_iff, notes.has_iff]

theorem noted (notes : locked.Notes names offers) (distinct : names.Nodup)
    {more : List (String × List String)}
    (answered : (more.map (·.1)).Perm (names.filter fun name => !locked.has name)) :
    Notes (locked.noted more) names (more.filter (fun offer => offer.2 ≠ []) ++ offers) := by
  have among : ∀ name ∈ more.map (·.1), name ∈ names ∧ name ∉ offers.map (·.1) := by
    intro name member
    rw [notes.unlocked_eq] at answered
    simpa using List.mem_filter.mp (answered.mem_iff.mp member)
  have fresh : (more.map (·.1) ++ offers.map (·.1)).Nodup := by
    refine List.nodup_append.mpr ⟨answered.nodup_iff.mpr (distinct.filter _), notes.distinct, ?_⟩
    rintro name member other inside rfl
    exact (among name member).2 inside
  have kept : ((more.filter (fun offer => offer.2 ≠ []) ++ offers).map (·.1)).Sublist
      (more.map (·.1) ++ offers.map (·.1)) := by
    rw [List.map_append]
    exact (List.filter_sublist.map _).append (List.Sublist.refl _)
  refine ⟨?_, kept.nodup fresh, fun name member => ?_⟩
  · refine (noted_perm ?_).trans (notes.same.append_left _)
    exact (((notes.same.map (·.1)).append_left _).nodup_iff).mpr fresh
  · rcases List.mem_append.mp (kept.subset member) with now | earlier
    · exact (among name now).1
    · exact notes.known earlier

/-- With as many locks as replicas, each replica has offered something once. -/
theorem full (notes : locked.Notes names offers) (length : locked.length = names.length) :
    (offers.map (·.1)).Perm names :=
  (List.subperm_of_subset notes.distinct notes.known).perm_of_length_le (by
    rw [List.length_map, ← notes.same.length_eq]
    exact Nat.le_of_eq length.symm)

theorem chosen (notes : locked.Notes names offers) (all : (offers.map (·.1)).Perm names)
    {tuple : String} {others : List String}
    (common : offeredByAll (names.filterMap fun name => locked.lookup name) = tuple :: others) :
    ∃ offered : String → List String,
      (∀ offer ∈ offers, offer.2 = offered offer.1 ∧ tuple ∈ offer.2) ∧
      FirstCommon tuple (names.map offered) := by
  have found : ∀ offer ∈ offers, locked.lookup offer.1 = some offer.2 := by
    intro offer member
    exact lookup_of_mem (((notes.same.map (·.1)).nodup_iff).mpr notes.distinct)
      (notes.same.mem_iff.mpr member)
  have lists : (names.filterMap fun name => locked.lookup name) =
      names.map fun name => (locked.lookup name).getD [] := by
    rw [← List.filterMap_eq_map]
    refine List.filterMap_congr fun name member => ?_
    obtain ⟨offer, offered, rfl⟩ := List.mem_map.mp (all.mem_iff.mpr member)
    simp [found offer offered]
  have offered : tuple ∈ offeredByAll (names.filterMap fun name => locked.lookup name) := by
    rw [common]
    exact List.mem_cons_self
  refine ⟨fun name => (locked.lookup name).getD [], fun offer member => ⟨?_, ?_⟩, ?_⟩
  · simp [found offer member]
  · refine offered_by_each offered _ (List.mem_filterMap.mpr ⟨offer.1, ?_, found offer member⟩)
    exact notes.known (List.mem_map.mpr ⟨offer, member, rfl⟩)
  · exact first_common (lists ▸ common)

end Notes

end Holdings

/-! ## One more turn -/

section

variable {taker : Taker} {names but : List String} {log : List TakeTurn} {turn : TakeTurn}
  {client : ClientId} {name : String} {request : Request}

theorem attempt_goes_on (kept : turn.frees = false) :
    attempt (turn :: log) = offersIn turn.replies ++ attempt log := by
  simp [attempt, kept]

theorem attempt_freed (freed : turn.frees = true) : attempt (turn :: log) = [] := by
  simp [attempt, freed]

theorem Acknowledged.next (acknowledged : Acknowledged log name request) :
    Acknowledged (turn :: log) name request := by
  obtain ⟨later, answering, asking, earlier, rfl, asked, answered⟩ := acknowledged
  exact ⟨turn :: later, answering, asking, earlier, rfl, asked, answered⟩

namespace GivenBack

theorem with_turn {offers : List (String × List String)}
    (back : GivenBack client log (offers.map (·.1))) :
    GivenBack client (turn :: log) ((offersIn turn.replies ++ offers).map (·.1)) := by
  intro later offering earlier split offer offered
  rw [List.map_append, List.mem_append, or_assoc]
  cases later with
  | nil =>
      cases split
      exact Or.inl (List.mem_map.mpr ⟨offer, offered, rfl⟩)
  | cons last later =>
      cases split
      refine Or.inr ((back later offering earlier rfl offer offered).imp_right ?_)
      exact fun acknowledged => acknowledged.next

theorem mono {more : List String} (back : GivenBack client log but) (kept : but ⊆ more) :
    GivenBack client log more :=
  fun later turn earlier split offer offered =>
    (back later turn earlier split offer offered).imp_left fun inside => kept inside

/-- Once a release is acknowledged by all replicas that were asked for it, nothing is open. -/
theorem acknowledged {asking : TakeTurn} (back : GivenBack client (asking :: log) but)
    (asked : asking.outcome = .ok (.send but (.release client)))
    (nothing : offersIn turn.replies = [])
    (answered : ∀ name ∈ but, ∃ response, (name, response) ∈ turn.replies ∧
      response.isAcknowledgement = true) :
    GivenBack client (turn :: asking :: log) [] := by
  intro later offering earlier split offer offered
  right
  cases later with
  | nil =>
      cases split
      simp [nothing] at offered
  | cons last later =>
      obtain ⟨rfl, before⟩ := List.cons.inj split
      rcases back later offering earlier before offer offered with inside | acknowledged
      · cases later with
        | nil =>
            cases before
            exact ⟨[], turn, asking, [], rfl, ⟨but, asked, inside⟩, answered _ inside⟩
        | cons first later =>
            cases before
            exact ⟨[], turn, asking, later ++ [offering], rfl, ⟨but, asked, inside⟩,
              answered _ inside⟩
      · exact acknowledged.next

end GivenBack

end

namespace TakeMachine

inductive Recalls (machine : TakeMachine) (taker : Taker) (names : List String)
    (log : List TakeTurn) : Prop
  | resting (serves : machine.Serves taker names) (stage : machine.stage = .reserve)
      (notes : machine.locked.Notes names (attempt log))
      (back : GivenBack taker.client log ((attempt log).map (·.1)))
  | reserving (serves : machine.Serves taker names) (stage : machine.stage = .reserving)
      (notes : machine.locked.Notes names (attempt log))
      (back : GivenBack taker.client log ((attempt log).map (·.1)))
      (asked : machine.awaiting = names.filter fun name => !machine.locked.has name)
  | releasing {last : TakeTurn} {earlier : List TakeTurn} (serves : machine.Serves taker names)
      (stage : machine.stage = .releasing) (nothing : machine.locked = [])
      (latest : log = last :: earlier)
      (asked : last.outcome = .ok (.send machine.awaiting (.release taker.client)))
      (back : GivenBack taker.client log machine.awaiting)
  | committing {last : TakeTurn} {earlier : List TakeTurn} {tuple : String}
      (serves : machine.Serves taker names) (stage : machine.stage = .committing)
      (chosen : machine.chosen? = some tuple) (everywhere : machine.awaiting = names)
      (latest : log = last :: earlier)
      (asked : last.outcome = .ok (.send names (.commit tuple taker.client)))
  | finished {tuple : String} (stage : machine.stage = .finished)
      (chosen : machine.chosen? = some tuple)
      (removed : ∀ name ∈ names, Acknowledged log name (.commit tuple taker.client))

/-- What a machine says to replies is in order, and it recalls it from then on. -/
def Answers (taker : Taker) (names : List String) (log : List TakeTurn)
    (replies : List (String × Response)) (said : TakeMachine × Except ClientError TakeAction) :
    Prop :=
  TakeTurn.Disciplined taker names log ⟨replies, said.2⟩ ∧
    ∀ action, said.2 = .ok action → said.1.Recalls taker names (⟨replies, .ok action⟩ :: log)

variable {machine : TakeMachine} {taker : Taker} {names : List String} {log : List TakeTurn}
  {replies : List (String × Response)}

theorem ask_reservations_answers (serves : machine.Serves taker names)
    (notes : machine.locked.Notes names (offersIn replies ++ attempt log))
    (back : ∀ outcome, GivenBack taker.client (⟨replies, outcome⟩ :: log)
      ((offersIn replies ++ attempt log).map (·.1))) :
    Answers taker names log replies machine.askReservations := by
  have targets := notes.unlocked_eq
  cases machine
  obtain ⟨client, pattern, replicas, policy⟩ := serves
  dsimp only at client pattern replicas policy notes targets
  subst client pattern replicas policy
  refine ⟨⟨rfl, rfl, targets⟩, fun action said => ?_⟩
  cases said
  refine .reserving ⟨rfl, rfl, rfl, rfl⟩ rfl ?_ ?_ rfl
  · rw [attempt_goes_on rfl]
    exact notes
  · rw [attempt_goes_on rfl]
    exact back _

theorem ask_pause_answers (serves : machine.Serves taker names)
    (notes : machine.locked.Notes names (offersIn replies ++ attempt log))
    (back : ∀ outcome, GivenBack taker.client (⟨replies, outcome⟩ :: log)
      ((offersIn replies ++ attempt log).map (·.1))) :
    Answers taker names log replies machine.askPause := by
  have same : ∀ stage pending?,
      TakeMachine.Serves { machine with stage, pending? } taker names :=
    fun _ _ => ⟨serves.client, serves.pattern, serves.replicas, serves.policy⟩
  unfold askPause
  dsimp only
  split
  · refine ⟨trivial, fun action said => ?_⟩
    cases said
    refine .resting (same _ _) rfl ?_ ?_
    · rw [attempt_goes_on rfl]
      exact notes
    · rw [attempt_goes_on rfl]
      exact back _
  · exact ask_reservations_answers (same _ _) notes back

theorem ask_release_answers (serves : machine.Serves taker names)
    (notes : machine.locked.Notes names (offersIn replies ++ attempt log))
    (back : ∀ outcome, GivenBack taker.client (⟨replies, outcome⟩ :: log)
      ((offersIn replies ++ attempt log).map (·.1))) :
    Answers taker names log replies machine.askRelease := by
  have targets := notes.locked_eq
  have covered : (offersIn replies ++ attempt log).map (·.1) ⊆
      names.filter (· ∈ (offersIn replies ++ attempt log).map (·.1)) :=
    fun name member => List.mem_filter.mpr ⟨notes.known member, by simpa using member⟩
  cases machine
  obtain ⟨client, pattern, replicas, policy⟩ := serves
  dsimp only at client pattern replicas policy notes targets
  subst client pattern replicas policy
  unfold askRelease lockedReplicas
  dsimp only
  rw [targets]
  split
  case isTrue empty =>
    rw [List.isEmpty_iff] at empty
    rw [empty] at covered
    have nothing : offersIn replies ++ attempt log = [] :=
      List.map_eq_nil_iff.mp (List.subset_nil.mp covered)
    split
    · refine ⟨?_, fun action said => by cases said⟩
      rw [nothing] at back
      exact back _
    · exact ask_pause_answers ⟨rfl, rfl, rfl, rfl⟩ (nothing ▸ .nil _) back
  case isFalse =>
    refine ⟨⟨rfl, rfl⟩, fun action said => ?_⟩
    cases said
    refine .releasing ⟨rfl, rfl, rfl, rfl⟩ rfl rfl rfl rfl ?_
    exact (back _).mono covered

theorem settled_answers (serves : machine.Serves taker names)
    (notes : machine.locked.Notes names (offersIn replies ++ attempt log))
    (back : ∀ outcome, GivenBack taker.client (⟨replies, outcome⟩ :: log)
      ((offersIn replies ++ attempt log).map (·.1))) :
    Answers taker names log replies machine.settleRound.act := by
  have same : ∀ stage retries isExhausted pending?,
      TakeMachine.Serves { machine with stage, retries, isExhausted, pending? } taker names :=
    fun _ _ _ _ => ⟨serves.client, serves.pattern, serves.replicas, serves.policy⟩
  cases quorum : Quorum.classify machine.locked.length machine.replicas.length with
  | minority =>
      rw [settle_minority quorum]
      exact ask_release_answers (same _ _ _ _) notes back
  | partialMajority =>
      rw [settle_partial quorum]
      exact ask_pause_answers (same .pause machine.retries machine.isExhausted (some .settle))
        notes back
  | full =>
      rw [settle_full quorum]
      cases common : offeredByAll machine.offers with
      | nil =>
          dsimp only
          split
          · exact ask_release_answers (same _ _ _ _) notes back
          · exact ask_release_answers (same _ _ _ _) notes back
      | cons tuple others =>
          have all := notes.full (serves.replicas ▸ (Quorum.length_of_full quorum).2)
          rw [offers, serves.replicas] at common
          have chosen := notes.chosen all common
          clear common quorum same
          cases machine
          obtain ⟨client, pattern, replicas, policy⟩ := serves
          dsimp only at client pattern replicas policy
          subst client pattern replicas policy
          refine ⟨⟨rfl, rfl, all, chosen⟩, fun action said => ?_⟩
          cases said
          exact .committing ⟨rfl, rfl, rfl, rfl⟩ rfl rfl rfl rfl rfl

theorem every_acknowledged {targets : List String} (answered : (replies.map (·.1)).Perm targets)
    (acknowledged : ∀ reply ∈ replies, reply.2.isAcknowledgement = true) :
    ∀ name ∈ targets, ∃ response, (name, response) ∈ replies ∧
      response.isAcknowledgement = true := by
  intro name member
  obtain ⟨reply, inside, rfl⟩ := List.mem_map.mp (answered.mem_iff.mpr member)
  exact ⟨reply.2, inside, acknowledged reply inside⟩

theorem Recalls.answers (recalls : machine.Recalls taker names log) (distinct : names.Nodup)
    (replies : List (String × Response)) :
    Answers taker names log replies (machine.step replies) := by
  rcases given_or_faulty machine replies with given | ⟨source, faulty⟩
  case inr =>
    rw [Answers, faulty]
    exact ⟨trivial, fun action said => by cases said⟩
  -- In each state the machine takes in replies of one kind only, and refuses all others.
  cases recalls with
  | resting serves stage notes back =>
      cases given with
      | nothing idle =>
          rw [step_idle idle, act, stage]
          exact ask_reservations_answers serves notes fun _ => back.with_turn
      | offers other => simp [stage] at other
      | acknowledgements other => simp [stage] at other
  | reserving serves stage notes back asked =>
      cases given with
      | nothing idle => simp [stage, TakeStage.isAwaiting] at idle
      | @offers offers _ answered =>
          rw [step_reserving stage answered]
          refine settled_answers
            ⟨serves.client, serves.pattern, serves.replicas, serves.policy⟩ ?_
            fun _ => back.with_turn
          rw [offers_of_reserved]
          exact notes.noted distinct (asked ▸ answered)
      | acknowledgements other => simp [stage] at other
  | @releasing last earlier serves stage nothing latest asked back =>
      cases given with
      | nothing idle => simp [stage, TakeStage.isAwaiting] at idle
      | offers other => simp [stage] at other
      | acknowledgements _ answered acknowledged =>
          have none := offers_of_acknowledged acknowledged
          have freed : attempt log = [] := by
            rw [latest]
            exact attempt_freed (by rw [TakeTurn.frees, asked])
          rw [step_releasing stage answered acknowledged]
          unfold act afterRelease
          cases machine.isExhausted with
          | true =>
              refine ⟨?_, fun action said => by cases said⟩
              subst latest
              exact back.acknowledged asked none (every_acknowledged answered acknowledged)
          | false =>
              refine ask_pause_answers
                ⟨serves.client, serves.pattern, serves.replicas, serves.policy⟩ ?_ fun _ => ?_
              · rw [none, freed, nothing]
                exact .nil names
              · rw [none, freed]
                subst latest
                exact back.acknowledged asked none (every_acknowledged answered acknowledged)
  | @committing last earlier tuple serves stage chosen everywhere latest asked =>
      cases given with
      | nothing idle => simp [stage, TakeStage.isAwaiting] at idle
      | offers other => simp [stage] at other
      | acknowledgements _ answered acknowledged =>
          have removed : ∀ turn : TakeTurn, turn.replies = replies →
              ∀ name ∈ names, Acknowledged (turn :: log) name (.commit tuple taker.client) := by
            rintro turn rfl name member
            exact ⟨[], turn, last, earlier, by rw [latest]; rfl, ⟨names, asked, member⟩,
              every_acknowledged (everywhere ▸ answered) acknowledged name member⟩
          rw [step_committing stage answered acknowledged]
          simp only [act, finish, chosen]
          refine ⟨removed _ rfl, fun action said => ?_⟩
          cases said
          exact .finished rfl rfl (removed _ rfl)
  | @finished tuple stage chosen removed =>
      cases given with
      | nothing idle =>
          rw [step_idle idle, act, stage]
          simp only [finish, chosen]
          refine ⟨fun name member => (removed name member).next, fun action said => ?_⟩
          cases said
          exact .finished stage chosen fun name member => (removed name member).next
      | offers other => simp [stage] at other
      | acknowledgements other => simp [stage] at other

end TakeMachine

theorem recalls_of_transcript {taker : Taker} {names : List String} {log : List TakeTurn}
    {machine : TakeMachine} (distinct : names.Nodup)
    (transcript : Transcript taker names log machine) : machine.Recalls taker names log := by
  induction transcript with
  | start =>
      refine .resting ⟨rfl, rfl, rfl, rfl⟩ rfl (.nil names) ?_
      intro later turn earlier split
      simp at split
  | @step log machine next replies action _ stepped recalls =>
      have answers := (recalls.answers distinct replies).2 action
      rw [stepped] at answers
      exact answers rfl

/-- Every turn of a take on replicas with distinct names is in order, whatever the machine was
given until then, up to the first turn that fails. -/
theorem disciplined_of_transcript {taker : Taker} {names : List String} {log : List TakeTurn}
    {machine next : TakeMachine} {replies : List (String × Response)}
    {outcome : Except ClientError TakeAction} (distinct : names.Nodup)
    (transcript : Transcript taker names log machine)
    (stepped : machine.step replies = (next, outcome)) :
    TakeTurn.Disciplined taker names log ⟨replies, outcome⟩ := by
  have answers := ((recalls_of_transcript distinct transcript).answers distinct replies).1
  rw [stepped] at answers
  exact answers

/-- A minority is given back, a majority is kept, and the last reply of the second attempt makes
the machine remove the second tuple of the first replica. -/
theorem disciplined_of_commit :
    ∃ log machine next, Transcript ⟨⟨1⟩, "<.>", {}⟩ ["A", "B", "C"] log machine ∧
      machine.step [("C", .reserved ["<a>"])] =
        (next, .ok (.send ["A", "B", "C"] (.commit "<a>" ⟨1⟩))) ∧
      attempt log = [("B", ["<a>", "<b>"]), ("A", ["<b>", "<a>"])] ∧
      TakeTurn.Disciplined ⟨⟨1⟩, "<.>", {}⟩ ["A", "B", "C"] log
        ⟨[("C", .reserved ["<a>"])], .ok (.send ["A", "B", "C"] (.commit "<a>" ⟨1⟩))⟩ := by
  let taker : Taker := ⟨⟨1⟩, "<.>", {}⟩
  let names := ["A", "B", "C"]
  have stepped {machine : TakeMachine} {replies : List (String × Response)}
      {outcome : Except ClientError TakeAction} (said : (machine.step replies).2 = outcome) :
      machine.step replies = ((machine.step replies).1, outcome) := Prod.ext rfl said
  have goes {log : List TakeTurn} {machine : TakeMachine} (replies : List (String × Response))
      (action : TakeAction) (earlier : Transcript taker names log machine)
      (said : (machine.step replies).2 = .ok action) :
      Transcript taker names (⟨replies, .ok action⟩ :: log) (machine.step replies).1 :=
    .step earlier (stepped said)
  have asked := goes [] (.send names (.reserve "<.>" ⟨1⟩)) .start
    (by decide +kernel)
  have freed := goes [("A", .reserved ["<c>"]), ("B", .reserved []), ("C", .reserved [])]
    (.send ["A"] (.release ⟨1⟩)) asked (by decide +kernel)
  have paused := goes [("A", .released)] (.pause (.backoff 1)) freed (by decide +kernel)
  have again := goes [] (.send names (.reserve "<.>" ⟨1⟩)) paused (by decide +kernel)
  have kept := goes
    [("B", .reserved ["<a>", "<b>"]), ("C", .reserved []), ("A", .reserved ["<b>", "<a>"])]
    (.pause .settle) again (by decide +kernel)
  have last := goes [] (.send ["C"] (.reserve "<.>" ⟨1⟩)) kept (by decide +kernel)
  refine ⟨_, _, _, last, stepped ?said, rfl,
    disciplined_of_transcript (by decide) last (stepped ?said)⟩
  decide +kernel

end TupleSpace
