import TupleSpace.Proofs.RacePhase

/-!
# Safety of takes that race each other

In every race that is reached, every racer is in a phase that fits what its client really holds.
From that follows what a race does to the copies of a tuple: no removal is ever refused, each
removes one copy, and no more takes end with a tuple than there were copies of it anywhere.
-/

namespace TupleSpace

open TupleSpace.Table

namespace Taker

def Asks (taker : Taker) (request : Request) : Prop :=
  request = .reserve taker.pattern taker.client ∨ request = .release taker.client ∨
    ∃ tuple, request = .commit tuple taker.client

end Taker

namespace Phase

variable {taker : Taker} {names : List String} {held : String → List String} {racer : Racer}

theorem asks {name : String} {request : Request} (phase : Phase taker names held racer)
    (running : racer.ending? = none) (parcel : (name, request) ∈ racer.outbox) :
    taker.Asks request := by
  cases phase with
  | resting _ _ => simp [Taker.resting] at parcel
  | reserving _ _ _ =>
      obtain ⟨_, _, same⟩ := List.mem_map.mp parcel
      cases same
      exact Or.inl rfl
  | releasing _ _ _ =>
      obtain ⟨_, _, same⟩ := List.mem_map.mp parcel
      cases same
      exact Or.inr (Or.inl rfl)
  | committing _ _ _ =>
      obtain ⟨_, _, same⟩ := List.mem_map.mp parcel
      cases same
      exact Or.inr (Or.inr ⟨_, rfl⟩)
  | took _ => cases running
  | gaveUp _ => cases running
  | refused _ _ => cases running

end Phase

namespace Space

inductive Answers (taker : Taker) (space : Space) : Request → Reply → Space → Prop
  | reserved {pattern : Pattern} (parsed : Pattern.parse taker.pattern = .ok pattern) :
      Answers taker space (.reserve taker.pattern taker.client)
        (.ok (.reserved (space.reserve pattern taker.client).1))
        (space.reserve pattern taker.client).2
  | invalid {cause : StoreError} (refused : Pattern.parse taker.pattern = .error cause) :
      Answers taker space (.reserve taker.pattern taker.client) (.error cause) space
  | released :
      Answers taker space (.release taker.client) (.ok .released) (space.release taker.client)
  | committed {tuple : String} {next : Space} (done : space.commit tuple taker.client = .ok next) :
      Answers taker space (.commit tuple taker.client) (.ok .committed) next
  | unheld {tuple : String} {cause : StoreError}
      (refused : space.commit tuple taker.client = .error cause) :
      Answers taker space (.commit tuple taker.client) (.error cause) space

variable {space next : Space} {taker : Taker} {request : Request} {reply : Reply}

theorem answers_of_answer (asks : taker.Asks request)
    (answered : space.answerTake request = some (reply, next)) :
    space.Answers taker request reply next := by
  rcases asks with rfl | rfl | ⟨tuple, rfl⟩
  · cases parsed : Pattern.parse taker.pattern with
    | ok pattern =>
        simp only [answerTake, parsed, Option.some.injEq, Prod.mk.injEq] at answered
        obtain ⟨rfl, rfl⟩ := answered
        exact .reserved parsed
    | error cause =>
        simp only [answerTake, parsed, Option.some.injEq, Prod.mk.injEq] at answered
        obtain ⟨rfl, rfl⟩ := answered
        exact .invalid parsed
  · simp only [answerTake, Option.some.injEq, Prod.mk.injEq] at answered
    obtain ⟨rfl, rfl⟩ := answered
    exact .released
  · cases done : space.commit tuple taker.client with
    | ok left =>
        simp only [answerTake, done, Option.some.injEq, Prod.mk.injEq] at answered
        obtain ⟨rfl, rfl⟩ := answered
        exact .committed done
    | error cause =>
        simp only [answerTake, done, Option.some.injEq, Prod.mk.injEq] at answered
        obtain ⟨rfl, rfl⟩ := answered
        exact .unheld done

theorem Answers.holdings_other {client : ClientId}
    (answers : space.Answers taker request reply next) (different : taker.client ≠ client) :
    next.holdings client = space.holdings client := by
  cases answers with
  | reserved _ => exact holdings_reserve_other space _ different
  | invalid _ => rfl
  | released => exact holdings_release_other space different
  | committed done => exact holdings_commit_other done different
  | unheld _ => rfl

theorem Answers.fits (answers : space.Answers taker request reply next)
    (fits : ∀ tuple ∈ space.holdings taker.client, taker.Fits tuple) :
    ∀ tuple ∈ next.holdings taker.client, taker.Fits tuple := by
  cases answers with
  | @reserved pattern parsed =>
      have hit : ∀ tuple ∈ space.holdings taker.client, pattern.hits tuple = true :=
        fun tuple member => (Taker.fits_iff_hits parsed tuple).mp (fits tuple member)
      intro tuple member
      rw [holdings_reserve_own space pattern taker.client hit] at member
      exact ⟨pattern, parsed, hits_of_reserved member⟩
  | invalid _ => exact fits
  | released => simp
  | committed done => simp [holdings_commit_own done]
  | unheld _ => exact fits

/-- Only a removal that succeeds changes the number of copies, by one copy of one tuple. -/
theorem Answers.copies (answers : space.Answers taker request reply next) (tuple : String) :
    next.copies tuple +
        (if request = .commit tuple taker.client ∧ reply = .ok .committed then 1 else 0) =
      space.copies tuple := by
  cases answers with
  | reserved _ => simp
  | invalid _ => simp
  | released => simp
  | committed done => simpa using copies_commit done tuple
  | unheld _ => simp

end Space

namespace Race

/-! ## Every racer stays in a phase -/

/-- Every racer is in a phase that fits what its client holds, and holds nothing unfit. -/
structure Sound (takers : List Taker) (names : List String) (race : Race) : Prop where
  named : race.replicas.map (·.1) = names
  count : race.racers.length = takers.length
  phase : ∀ {index : Nat} {taker : Taker} {racer : Racer}, takers[index]? = some taker →
    race.racers[index]? = some racer → Phase taker names (race.held taker.client) racer
  fits : ∀ taker ∈ takers, ∀ name, ∀ tuple ∈ race.held taker.client name, taker.Fits tuple

theorem held_outside (race : Race) (client : ClientId) {name : String}
    (unknown : name ∉ race.replicas.map (·.1)) : race.held client name = [] := by
  simp [held, lookup_none.mpr unknown]

theorem held_of_lookup {race : Race} {name : String} {space : Space}
    (target : race.replicas.lookup name = some space) (client : ClientId) :
    race.held client name = space.holdings client := by
  simp [held, target]

theorem held_place {race : Race} {name : String} {space : Space}
    (target : race.replicas.lookup name = some space) (next : Space) (racers : List Racer)
    (client : ClientId) :
    held ⟨place name next race.replicas, racers⟩ client =
      Function.update (race.held client) name (next.holdings client) := by
  funext other
  by_cases same : other = name
  · subst other
    simp [held, lookup_place, target]
  · simp [held, lookup_place, same]

theorem held_place_same {race : Race} {name : String} {space next : Space}
    (target : race.replicas.lookup name = some space) (racers : List Racer) {client : ClientId}
    (same : next.holdings client = space.holdings client) :
    held ⟨place name next race.replicas, racers⟩ client = race.held client := by
  rw [held_place target next racers client, same, ← held_of_lookup target,
    Function.update_eq_self]

variable {takers : List Taker} {names : List String} {race next : Race}

theorem Sound.outside (sound : race.Sound takers names) (client : ClientId) :
    ∀ name, name ∉ names → race.held client name = [] := by
  intro name unknown
  exact race.held_outside client (sound.named ▸ unknown)

theorem Sound.space_of_name (sound : race.Sound takers names) {name : String}
    (known : name ∈ names) : ∃ space, race.replicas.lookup name = some space :=
  Option.isSome_iff_exists.mp (lookup_isSome.mpr (sound.named.symm ▸ known))

theorem stored_of_held {client : ClientId}
    {name tuple : String} (holds : tuple ∈ race.held client name) :
    ∃ space, race.replicas.lookup name = some space ∧ tuple ∈ space.values := by
  cases target : race.replicas.lookup name with
  | none => simp [held, target] at holds
  | some space =>
      rw [held_of_lookup target] at holds
      obtain ⟨entry, member, _, rfl⟩ := Space.mem_holdings.mp holds
      exact ⟨space, rfl, List.mem_map.mpr ⟨entry, member, rfl⟩⟩

theorem Sound.taker_of_racer (sound : race.Sound takers names) {index : Nat} {racer : Racer}
    (found : race.racers[index]? = some racer) : ∃ taker, takers[index]? = some taker := by
  have bound := (List.getElem?_eq_some_iff.mp found).1
  exact ⟨_, List.getElem?_eq_getElem (sound.count ▸ bound)⟩

theorem Sound.racer_of_taker (sound : race.Sound takers names) {index : Nat} {taker : Taker}
    (whose : takers[index]? = some taker) : ∃ racer, race.racers[index]? = some racer := by
  have bound := (List.getElem?_eq_some_iff.mp whose).1
  exact ⟨_, List.getElem?_eq_getElem (sound.count.symm ▸ bound)⟩

theorem racer_of_set {racers : List Racer} {index other : Nat} {taker rival : Taker}
    {racer racing : Racer} (whose : takers[index]? = some taker)
    (found : takers[other]? = some rival) (at_ : (racers.set index racer)[other]? = some racing) :
    other = index ∧ rival = taker ∧ racing = racer ∨
      index ≠ other ∧ racers[other]? = some racing := by
  rw [List.getElem?_set] at at_
  split at at_
  · rename_i same
    subst same
    rw [whose, Option.some.injEq] at found
    split at at_
    · exact Or.inl ⟨rfl, found.symm, (Option.some.inj at_).symm⟩
    · cases at_
  · rename_i different
    exact Or.inr ⟨different, at_⟩

theorem client_ne {index other : Nat} {taker rival : Taker}
    (clients : (takers.map (·.client)).Nodup) (found : takers[index]? = some taker)
    (at_ : takers[other]? = some rival) (different : index ≠ other) :
    taker.client ≠ rival.client := by
  intro same
  have bound : index < (takers.map (·.client)).length := by
    rw [List.length_map]
    exact (List.getElem?_eq_some_iff.mp found).1
  refine different ((List.getElem?_inj bound clients).mp ?_)
  rw [List.getElem?_map, List.getElem?_map, found, at_]
  simp [same]

theorem sound_start {replicas : List (String × Space)} (fair : IsFair replicas takers) :
    (start replicas takers).Sound takers (replicas.map (·.1)) := by
  have nothing : ∀ taker ∈ takers, ∀ name, (start replicas takers).held taker.client name = [] := by
    intro taker member name
    cases target : replicas.lookup name with
    | none => simp [held, start, target]
    | some space =>
        simpa [held, start, target] using
          fair.unheld taker member (name, space) (mem_of_lookup target)
  refine ⟨rfl, by simp [start], ?_, ?_⟩
  · intro index taker racer found at_
    have member := List.mem_of_getElem? found
    simp only [start, List.getElem?_map, found, Option.map_some, Option.some.injEq] at at_
    subst racer
    exact Phase.resting (Holdings.exact_nil (nothing taker member)) (Or.inl rfl)
  · intro taker member name tuple inside
    simp [nothing taker member name] at inside

/-- A delivery leaves the other racers in their phases, for it changes only what the client that
asked holds. -/
theorem sound_deliver {index position : Nat} {racer : Racer} {name : String} {request : Request}
    {space left : Space} {reply : Reply} (distinct : names.Nodup)
    (clients : (takers.map (·.client)).Nodup) (sound : race.Sound takers names)
    (found : race.racers[index]? = some racer) (running : racer.ending? = none)
    (parcel : racer.outbox[position]? = some (name, request))
    (target : race.replicas.lookup name = some space)
    (answered : space.answerTake request = some (reply, left)) :
    Sound takers names ⟨place name left race.replicas,
      race.racers.set index (racer.receive position name reply)⟩ := by
  obtain ⟨taker, whose⟩ := sound.taker_of_racer found
  have phase := sound.phase whose found
  have answers := Space.answers_of_answer
    (phase.asks running (List.mem_of_getElem? parcel)) answered
  have here := held_of_lookup target taker.client
  refine ⟨(names_place ..).trans sound.named, by simpa using sound.count, ?_, ?_⟩
  · intro other rival racing found' at_
    rcases racer_of_set whose found' at_ with ⟨rfl, rfl, rfl⟩ | ⟨different, at_⟩
    · rw [held_place target]
      exact phase.deliver distinct (sound.fits rival (List.mem_of_getElem? whose)) running
        parcel here answered
    · have apart := client_ne clients whose found' different
      rw [held_place_same target _ (answers.holdings_other apart)]
      exact sound.phase found' at_
  · intro rival member other tuple inside
    by_cases same : taker.client = rival.client
    · have equal : taker = rival := by
        exact List.inj_on_of_nodup_map clients (List.mem_of_getElem? whose) member same
      subst rival
      rw [held_place target] at inside
      by_cases there : other = name
      · subst other
        rw [Function.update_self] at inside
        refine answers.fits ?_ tuple inside
        rw [← here]
        exact sound.fits taker member name
      · rw [Function.update_of_ne there] at inside
        exact sound.fits taker member other tuple inside
    · rw [held_place_same target _ (answers.holdings_other same)] at inside
      exact sound.fits rival member other tuple inside

theorem sound_step {index : Nat} {racer : Racer} (distinct : names.Nodup)
    (sound : race.Sound takers names) (found : race.racers[index]? = some racer)
    (running : racer.ending? = none) (idle : racer.outbox = []) :
    Sound takers names { race with racers := race.racers.set index racer.step.1 } := by
  obtain ⟨taker, whose⟩ := sound.taker_of_racer found
  refine ⟨sound.named, by simpa using sound.count, ?_,
    fun taker member => sound.fits taker member⟩
  intro other rival racing found' at_
  rcases racer_of_set whose found' at_ with ⟨rfl, rfl, rfl⟩ | ⟨_, at_⟩
  · exact (sound.phase whose found).step distinct (sound.outside rival.client) idle running
  · exact sound.phase found' at_

theorem sound_insert {name tuple : String} {space : Space} (sound : race.Sound takers names)
    (target : race.replicas.lookup name = some space) :
    Sound takers names
      { race with replicas := place name (space.insert tuple) race.replicas } := by
  have same : ∀ client,
      held ⟨place name (space.insert tuple) race.replicas, race.racers⟩ client =
        race.held client :=
    fun client => held_place_same target _ (Space.holdings_insert ..)
  refine ⟨(names_place ..).trans sound.named, sound.count, ?_, ?_⟩
  · intro other taker racer whose at_
    rw [same]
    exact sound.phase whose at_
  · intro taker member other put inside
    rw [same] at inside
    exact sound.fits taker member other put inside

theorem sound_moves {event : RaceEvent} {sight : RaceSight} (distinct : names.Nodup)
    (clients : (takers.map (·.client)).Nodup) (sound : race.Sound takers names)
    (moves : race.Moves event sight next) : next.Sound takers names := by
  cases moves with
  | deliver found running parcel target answered =>
      exact sound_deliver distinct clients sound found running parcel target answered
  | step found running idle => exact sound_step distinct sound found running idle
  | insert found =>
      exact sound_insert sound
        (lookup_of_mem (sound.named ▸ distinct) (List.mem_of_getElem? found))

theorem sound_run {replicas : List (String × Space)} {log : List Happening}
    (fair : IsFair replicas takers) (run : Run (start replicas takers) log race) :
    race.Sound takers (replicas.map (·.1)) := by
  induction run with
  | start => exact sound_start fair
  | event _ performed earlier =>
      have moves := moves_of_perform (earlier.named ▸ fair.names) performed
      exact sound_moves fair.names fair.clients earlier moves

end Race

/-! ## What a racer has had removed -/

namespace Racer

def removed? (racer : Racer) (name : String) : Option String :=
  if name ∈ racer.outbox.map (·.1) then none else racer.machine.chosen?

theorem removed_of_unchosen {racer : Racer} (unchosen : racer.machine.chosen? = none)
    (name : String) : racer.removed? name = none := by
  unfold removed?
  split
  · rfl
  · exact unchosen

theorem receive_machine (racer : Racer) (position : Nat) (name : String) (reply : Reply) :
    (racer.receive position name reply).machine = racer.machine := by
  cases reply <;> rfl

theorem receive_outbox (racer : Racer) (position : Nat) (name : String) (reply : Reply) :
    (racer.receive position name reply).outbox = racer.outbox.eraseIdx position := by
  cases reply <;> rfl

end Racer

namespace Taker

theorem removed_committing (taker : Taker) (names : List String) (retries : Nat)
    (locked : Holdings) (tuple : String) (pending answered : List String) (name : String) :
    (taker.committing names retries locked tuple pending answered).removed? name =
      if name ∈ pending then none else some tuple := by
  simp [Racer.removed?, committing, Function.comp_def]

theorem removed_retreat (taker : Taker) (names : List String) (retries : Nat) (isExhausted : Bool)
    (locked : Holdings) (pause : Pause) (name : String) :
    (taker.retreat names retries isExhausted locked pause).removed? name = none := by
  apply Racer.removed_of_unchosen
  unfold retreat
  dsimp only
  split
  · split <;> rfl
  · rfl

theorem removed_settled (taker : Taker) {names : List String} (held : String → List String)
    (retries : Nat) (locked : Holdings) {name : String} (member : name ∈ names) :
    (taker.settled names held retries locked).removed? name = none := by
  unfold settled
  split
  · exact removed_retreat ..
  · exact Racer.removed_of_unchosen rfl name
  · split
    · rw [removed_committing, if_pos member]
    · split <;> exact removed_retreat ..

end Taker

namespace Phase

variable {taker : Taker} {names : List String} {held : String → List String} {racer : Racer}

theorem removed_of_took {tuple : String} (phase : Phase taker names held racer)
    (took : racer.ending? = some (.taken tuple)) (name : String) :
    racer.removed? name = some tuple := by
  cases phase with
  | took _ =>
      cases took
      rfl
  | resting _ _ => cases took
  | reserving _ _ _ => cases took
  | releasing _ _ _ => cases took
  | committing _ _ _ => cases took
  | gaveUp _ => cases took
  | refused _ _ => cases took

theorem removed_step {name : String} (phase : Phase taker names held racer)
    (distinct : names.Nodup) (outside : ∀ name, name ∉ names → held name = [])
    (idle : racer.outbox = []) (running : racer.ending? = none) (member : name ∈ names) :
    racer.step.1.removed? name = racer.removed? name := by
  have turn := phase.turn distinct outside idle running
  generalize racer.step.1 = next at turn ⊢
  cases turn with
  | asks _ =>
      exact (Racer.removed_of_unchosen rfl name).trans (Racer.removed_of_unchosen rfl name).symm
  | settles _ => exact taker.removed_settled held _ _ member
  | @frees _ isExhausted _ _ _ _ => cases isExhausted <;> rfl
  | finishes _ => rfl

/-- A removal that is asked for is granted, as the client holds the tuple. -/
theorem removal_granted {name tuple : String} {client : ClientId} {space next : Space}
    {reply : Reply} (phase : Phase taker names held racer) (running : racer.ending? = none)
    (parcel : (name, .commit tuple client) ∈ racer.outbox)
    (here : held name = space.holdings taker.client)
    (answered : space.answerTake (.commit tuple client) = some (reply, next)) :
    client = taker.client ∧ reply = .ok .committed := by
  obtain ⟨rfl, holds⟩ := phase.holds_committed running parcel
  obtain ⟨_, committed⟩ := Space.commit_of_held (here ▸ holds)
  simp only [Space.answerTake, committed, Option.some.injEq, Prod.mk.injEq] at answered
  exact ⟨rfl, answered.1.symm⟩

theorem removed_deliver {position : Nat} {name : String} {request : Request}
    (phase : Phase taker names held racer) (distinct : names.Nodup)
    (running : racer.ending? = none) (parcel : racer.outbox[position]? = some (name, request))
    (reply : Reply) :
    (∀ other, other ≠ name →
      (racer.receive position name reply).removed? other = racer.removed? other) ∧
    racer.removed? name = none ∧
    (racer.receive position name reply).removed? name =
      match request with
      | .commit tuple _ => some tuple
      | _ => none := by
  have unchosen : racer.machine.chosen? = none → ∀ other,
      (racer.receive position name reply).removed? other = none ∧ racer.removed? other = none :=
    fun none other => ⟨Racer.removed_of_unchosen (by rw [Racer.receive_machine, none]) other,
      Racer.removed_of_unchosen none other⟩
  cases phase with
  | resting _ _ => simp [Taker.resting] at parcel
  | took _ => cases running
  | gaveUp _ => cases running
  | refused _ _ => cases running
  | reserving _ _ _ =>
      obtain ⟨rfl, _⟩ := parcel_pending parcel
      have none := unchosen rfl
      exact ⟨fun other _ => (none other).1.trans (none other).2.symm, (none name).2, (none name).1⟩
  | releasing _ _ _ =>
      obtain ⟨rfl, _⟩ := parcel_pending parcel
      have none := unchosen rfl
      exact ⟨fun other _ => (none other).1.trans (none other).2.symm, (none name).2, (none name).1⟩
  | @committing retries locked tuple pending answered split ready freed =>
      obtain ⟨rfl, taken⟩ := parcel_pending parcel
      have apart := (taken_apart split distinct taken).1
      have outbox : (((taker.committing names retries locked tuple pending answered).receive
          position name reply).outbox.map (·.1)) = pending.eraseIdx position := by
        rw [Racer.receive_outbox, ← List.eraseIdx_map]
        simp [Taker.committing, Function.comp_def]
      have after : ∀ other, ((taker.committing names retries locked tuple pending answered).receive
          position name reply).removed? other =
            if other ∈ pending.eraseIdx position then none else some tuple := by
        intro other
        rw [Racer.removed?, outbox, Racer.receive_machine]
        rfl
      refine ⟨?_, ?_, ?_⟩
      · intro other different
        simp only [after, Taker.removed_committing, taken.mem_iff, List.mem_cons, different,
          false_or]
      · rw [Taker.removed_committing, if_pos (taken.mem_iff.mpr List.mem_cons_self)]
      · rw [after, if_neg apart]

end Phase

/-! ## Counting removals -/

namespace Happening

def removes (name tuple : String) : Happening → Bool
  | .delivered replica (.commit removed _) _ => replica == name && removed == tuple
  | _ => false

def inserts (name tuple : String) : Happening → Bool
  | .inserted replica put => replica == name && put == tuple
  | _ => false

theorem removes_delivered {taker : Taker} {request : Request} (asks : taker.Asks request)
    (name other tuple : String) (reply : Reply) :
    (delivered name request reply).removes other tuple =
      decide (other = name ∧ request = .commit tuple taker.client) := by
  rcases asks with rfl | rfl | ⟨removed, rfl⟩
  · simp [removes]
  · simp [removes]
  · simp only [removes, Request.commit.injEq, and_true, Bool.decide_and, beq_eq_decide,
      eq_comm (a := name)]

@[simp] theorem inserts_delivered (name other tuple : String) (request : Request) (reply : Reply) :
    (delivered name request reply).inserts other tuple = false := rfl

@[simp] theorem removes_inserted (name other put tuple : String) :
    (inserted name put).removes other tuple = false := rfl

@[simp] theorem inserts_inserted (name other put tuple : String) :
    (inserted name put).inserts other tuple = (name == other && put == tuple) := rfl

end Happening

namespace Race

variable {takers : List Taker} {names : List String} {race next : Race}

def copies (race : Race) (name tuple : String) : Nat :=
  ((race.replicas.lookup name).map (·.copies tuple)).getD 0

def tookCount (race : Race) (tuple : String) : Nat :=
  race.racers.countP (fun racer => racer.ending? == some (.taken tuple))

/-- What the log of a race has to do with its replicas and its racers. -/
structure Tallied (first : Race) (names : List String) (log : List Happening) (race : Race) :
    Prop where
  accepted : ∀ name tuple client reply,
    Happening.delivered name (.commit tuple client) reply ∈ log → reply = .ok .committed
  copies : ∀ name tuple,
    race.copies name tuple + log.countP (·.removes name tuple) =
      first.copies name tuple + log.countP (·.inserts name tuple)
  removals : ∀ name ∈ names, ∀ tuple,
    race.racers.countP (fun racer => racer.removed? name == some tuple) =
      log.countP (·.removes name tuple)

theorem copies_place {race : Race} {name : String} {space : Space}
    (target : race.replicas.lookup name = some space) (next : Space) (racers : List Racer)
    (other tuple : String) :
    copies ⟨place name next race.replicas, racers⟩ other tuple =
      if other = name then next.copies tuple else race.copies other tuple := by
  unfold copies
  rw [lookup_place]
  by_cases same : other = name
  · subst other
    simp [target]
  · simp [same]

theorem count_set {racers : List Racer} {index : Nat} {racer : Racer}
    (found : racers[index]? = some racer) (next : Racer) (test : Racer → Bool) :
    (racers.set index next).countP test + (if test racer then 1 else 0) =
      racers.countP test + if test next then 1 else 0 := by
  obtain ⟨bound, rfl⟩ := List.getElem?_eq_some_iff.mp found
  have own : (if test racers[index] then 1 else 0) ≤ racers.countP test := by
    split
    · rename_i holds
      exact List.countP_pos_iff.mpr ⟨_, List.getElem_mem bound, holds⟩
    · omega
  rw [List.countP_set bound]
  omega

theorem tallied_start (first : Race) (names : List String)
    (fresh : ∀ racer ∈ first.racers, ∀ name, racer.removed? name = none) :
    first.Tallied names [] first := by
  refine ⟨by simp, by simp, ?_⟩
  intro name _ tuple
  rw [List.countP_nil, List.countP_eq_zero]
  intro racer member
  simp [fresh racer member name]

theorem tallied_deliver {first : Race} {log : List Happening} {index position : Nat}
    {racer : Racer} {name : String} {request : Request} {space left : Space} {reply : Reply}
    (distinct : names.Nodup) (sound : race.Sound takers names)
    (tallied : first.Tallied names log race) (found : race.racers[index]? = some racer)
    (running : racer.ending? = none) (parcel : racer.outbox[position]? = some (name, request))
    (target : race.replicas.lookup name = some space)
    (answered : space.answerTake request = some (reply, left)) :
    first.Tallied names (log ++ [.delivered name request reply])
      ⟨place name left race.replicas,
        race.racers.set index (racer.receive position name reply)⟩ := by
  obtain ⟨taker, whose⟩ := sound.taker_of_racer found
  have phase := sound.phase whose found
  have member := List.mem_of_getElem? parcel
  have asks := phase.asks running member
  have answers := Space.answers_of_answer asks answered
  have here := held_of_lookup target taker.client
  -- Of the requests only a removal counts, and none is refused, for its tuple is held.
  have granted : ∀ tuple client, request = .commit tuple client → reply = .ok .committed := by
    rintro tuple client rfl
    exact (phase.removal_granted running member here answered).2
  obtain ⟨elsewhere, before, after⟩ := phase.removed_deliver distinct running parcel reply
  refine ⟨?_, ?_, ?_⟩
  · intro other tuple client answer member
    rcases List.mem_append.mp member with earlier | now
    · exact tallied.accepted other tuple client answer earlier
    · rw [List.mem_singleton] at now
      cases now
      exact granted tuple client rfl
  · intro other tuple
    have kept := tallied.copies other tuple
    have change := answers.copies tuple
    have removal := Happening.removes_delivered asks name other tuple reply
    rw [copies_place target, List.countP_append, List.countP_append, List.countP_singleton,
      List.countP_singleton, removal]
    by_cases same : other = name
    · subst other
      have stored : race.copies name tuple = space.copies tuple := by simp [copies, target]
      have whether : (request = .commit tuple taker.client ∧ reply = .ok .committed) =
          (request = .commit tuple taker.client) :=
        propext ⟨fun both => both.1, fun asked => ⟨asked, granted _ _ asked⟩⟩
      simp only [whether] at change
      simp only [Happening.inserts_delivered, true_and, decide_eq_true_eq, if_true,
        Bool.false_eq_true, if_false]
      omega
    · simpa [same] using kept
  · intro other member tuple
    have kept := tallied.removals other member tuple
    have changed := count_set found (racer.receive position name reply)
      (fun racer => racer.removed? other == some tuple)
    have removal := Happening.removes_delivered asks name other tuple reply
    rw [List.countP_append, List.countP_singleton, removal]
    by_cases same : other = name
    · subst other
      rw [before, after] at changed
      rcases asks with rfl | rfl | ⟨removed, rfl⟩
      · simpa [kept] using changed
      · simpa [kept] using changed
      · simpa [kept] using changed
    · simp [elsewhere other same, same] at changed ⊢
      omega

theorem tallied_step {first : Race} {log : List Happening} {index : Nat} {racer : Racer}
    (distinct : names.Nodup) (sound : race.Sound takers names)
    (tallied : first.Tallied names log race) (found : race.racers[index]? = some racer)
    (running : racer.ending? = none) (idle : racer.outbox = []) :
    first.Tallied names log { race with racers := race.racers.set index racer.step.1 } := by
  obtain ⟨taker, whose⟩ := sound.taker_of_racer found
  have phase := sound.phase whose found
  refine ⟨tallied.accepted, tallied.copies, ?_⟩
  intro name member tuple
  have same := phase.removed_step distinct (sound.outside taker.client) idle running member
  have changed := count_set found racer.step.1 (fun racer => racer.removed? name == some tuple)
  have kept := tallied.removals name member tuple
  simp only [same] at changed
  exact (Nat.add_right_cancel changed).trans kept

theorem tallied_insert {first : Race} {log : List Happening} {name tuple : String}
    {space : Space} (tallied : first.Tallied names log race)
    (target : race.replicas.lookup name = some space) :
    first.Tallied names (log ++ [.inserted name tuple])
      { race with replicas := place name (space.insert tuple) race.replicas } := by
  refine ⟨?_, ?_, ?_⟩
  · intro other removed client reply member
    rcases List.mem_append.mp member with earlier | now
    · exact tallied.accepted other removed client reply earlier
    · simp at now
  · intro other put
    have kept := tallied.copies other put
    rw [copies_place target, List.countP_append, List.countP_append, List.countP_singleton,
      List.countP_singleton, Space.copies_insert]
    by_cases same : other = name
    · subst other
      have stored : race.copies name put = space.copies put := by simp [copies, target]
      simp
      omega
    · simpa [same, Ne.symm same] using kept
  · intro other member removed
    rw [List.countP_append]
    exact tallied.removals other member removed

theorem tallied_moves {first : Race} {log : List Happening} {event : RaceEvent} {sight : RaceSight}
    (distinct : names.Nodup) (sound : race.Sound takers names)
    (tallied : first.Tallied names log race) (moves : race.Moves event sight next) :
    first.Tallied names (log ++ race.happenings event sight) next := by
  cases moves with
  | @deliver index position racer name request space left reply found running parcel target
      answered =>
      have news : race.happenings (.deliver index position) (.delivered name reply) =
          [.delivered name request reply] := by
        simp [happenings, found, parcel]
      rw [news]
      exact tallied_deliver distinct sound tallied found running parcel target answered
  | @step index racer found running idle =>
      have news : race.happenings (.step index) (.stepped racer.step.2) = [] := rfl
      rw [news, List.append_nil]
      exact tallied_step distinct sound tallied found running idle
  | @insert index name tuple space found =>
      have news : race.happenings (.insert index tuple) .inserted = [.inserted name tuple] := by
        simp [happenings, found]
      rw [news]
      exact tallied_insert tallied
        (lookup_of_mem (sound.named ▸ distinct) (List.mem_of_getElem? found))

theorem tallied_run {replicas : List (String × Space)} {log : List Happening}
    (fair : IsFair replicas takers) (run : Run (start replicas takers) log race) :
    (start replicas takers).Tallied (replicas.map (·.1)) log race := by
  induction run with
  | start =>
      apply tallied_start
      intro racer member name
      obtain ⟨taker, _, rfl⟩ := List.mem_map.mp member
      exact Racer.removed_of_unchosen rfl name
  | event earlier performed tallied =>
      have sound := sound_run fair earlier
      have moves := moves_of_perform (sound.named ▸ fair.names) performed
      exact tallied_moves fair.names sound tallied moves

/-- Whoever ended with a tuple has had it removed everywhere. -/
theorem took_count_le (sound : race.Sound takers names) (name tuple : String) :
    race.tookCount tuple ≤ race.racers.countP (fun racer => racer.removed? name == some tuple) := by
  apply List.countP_mono_left
  intro racer member took
  rw [beq_iff_eq] at took ⊢
  obtain ⟨index, found⟩ := List.mem_iff_getElem?.mp member
  obtain ⟨taker, whose⟩ := sound.taker_of_racer found
  exact (sound.phase whose found).removed_of_took took name

/-- In every reachable race, no removal has been refused, a replica has lost one copy for each
removal that reached it and nothing else, and there were at least as many copies of a tuple at
every replica as takes ended with it. -/
theorem removals_accounted {replicas : List (String × Space)} {log : List Happening}
    (fair : IsFair replicas takers) (run : Run (start replicas takers) log race) :
    (∀ name tuple client reply,
      Happening.delivered name (.commit tuple client) reply ∈ log → reply = .ok .committed) ∧
    ∀ name space, (name, space) ∈ replicas → ∀ tuple,
      race.copies name tuple + log.countP (·.removes name tuple) =
        space.copies tuple + log.countP (·.inserts name tuple) ∧
      race.tookCount tuple ≤ space.copies tuple + log.countP (·.inserts name tuple) := by
  have sound := sound_run fair run
  have tallied := tallied_run fair run
  refine ⟨tallied.accepted, ?_⟩
  intro name space member tuple
  have known : name ∈ replicas.map (·.1) := List.mem_map.mpr ⟨_, member, rfl⟩
  have before : (start replicas takers).copies name tuple = space.copies tuple := by
    simp [copies, start, lookup_of_mem fair.names member]
  have balance := tallied.copies name tuple
  have removals := tallied.removals name known tuple
  have took := took_count_le sound name tuple
  exact ⟨before ▸ balance, by omega⟩

/-- Two takers, of whom the first gets the only copy while another copy is put at one replica. -/
theorem removals_accounted_of_rivals :
    ∃ log race,
      Run (start [("A", ⟨[⟨"<a>", none⟩]⟩), ("B", ⟨[⟨"<a>", none⟩]⟩)]
        [⟨⟨1⟩, "<a>", ⟨5, false⟩⟩, ⟨⟨2⟩, "<.>", ⟨5, false⟩⟩]) log race ∧
      race.tookCount "<a>" = 1 ∧ race.copies "A" "<a>" = 1 ∧
      race.copies "A" "<a>" + log.countP (·.removes "A" "<a>") =
        1 + log.countP (·.inserts "A" "<a>") := by
  let replicas : List (String × Space) := [("A", ⟨[⟨"<a>", none⟩]⟩), ("B", ⟨[⟨"<a>", none⟩]⟩)]
  let rivals : List Taker := [⟨⟨1⟩, "<a>", ⟨5, false⟩⟩, ⟨⟨2⟩, "<.>", ⟨5, false⟩⟩]
  have fair : IsFair replicas rivals := ⟨by decide, by decide, by decide⟩
  have done : ((start replicas rivals).replay? [.step 0, .step 1, .deliver 0 1, .deliver 0 0,
      .deliver 1 0, .insert 0 "<a>", .step 0, .deliver 0 0, .deliver 1 0, .deliver 0 0, .step 0,
      .step 1]).map (fun last => (last.2.tookCount "<a>", last.2.copies "A" "<a>")) =
        some (1, 1) := by
    decide +kernel
  obtain ⟨⟨log, race⟩, replayed, counts⟩ := Option.map_eq_some_iff.mp done
  have run : Run (start replicas rivals) log race := run_of_replay .start replayed
  obtain ⟨took, left⟩ := Prod.mk.inj counts
  have accounted := (removals_accounted fair run).2 "A" ⟨[⟨"<a>", none⟩]⟩ (by decide) "<a>"
  exact ⟨log, race, run, took, left, accounted.1⟩

end Race

end TupleSpace
