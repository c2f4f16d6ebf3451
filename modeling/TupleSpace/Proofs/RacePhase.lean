import TupleSpace.Proofs.Race

/-!
# Phases of a racer

A racer in a race is always in one of seven phases. Each fixes the machine and both mailboxes up
to what the client really holds at the replicas, given as a function from names, so that a phase
says how far the machine's picture of its locks is true.
-/

namespace TupleSpace

open TupleSpace.Table

namespace Holdings

/-- What is noted as locked is held, and is something. -/
structure Faithful (held : String → List String) (locked : Holdings) : Prop where
  distinct : (locked.map (·.1)).Nodup
  told : ∀ name tuples, locked.lookup name = some tuples → tuples ≠ [] ∧ held name = tuples

/-- What is noted as locked is all that is held. -/
structure Exact (held : String → List String) (locked : Holdings) : Prop
    extends Faithful held locked where
  complete : ∀ name, locked.lookup name = none → held name = []

theorem faithful_nil (held : String → List String) : Faithful held [] :=
  ⟨List.nodup_nil, fun _ _ found => by simp at found⟩

theorem exact_nil {held : String → List String} (nothing : ∀ name, held name = []) :
    Exact held [] :=
  ⟨faithful_nil held, fun name _ => nothing name⟩

variable {names : List String} {held : String → List String} {locked : Holdings}

theorem Faithful.congr {later : String → List String} (faithful : Faithful held locked)
    (same : ∀ name, locked.has name = true → later name = held name) : Faithful later locked := by
  refine ⟨faithful.distinct, ?_⟩
  intro name tuples found
  have told := faithful.told name tuples found
  exact ⟨told.1, (same name (by rw [has, found]; rfl)).trans told.2⟩

theorem Exact.has_iff_held (exact : Exact held locked) (name : String) :
    locked.has name = true ↔ held name ≠ [] := by
  unfold has
  cases found : locked.lookup name with
  | none => simp [exact.complete name found]
  | some tuples =>
      have told := exact.told name tuples found
      simp [told.2, told.1]

def reach (names : List String) (held : String → List String) : Nat :=
  names.countP (fun name => !(held name).isEmpty)

theorem Exact.locked_names (exact : Exact held locked) (distinct : names.Nodup)
    (outside : ∀ name, name ∉ names → held name = []) :
    (locked.map (·.1)).Perm (names.filter locked.has) := by
  refine (List.perm_ext_iff_of_nodup exact.distinct (distinct.filter _)).mpr ?_
  intro name
  rw [List.mem_filter, has_iff]
  refine ⟨fun member => ⟨?_, member⟩, fun both => both.2⟩
  by_contra absent
  exact (exact.has_iff_held name).mp (has_iff.mpr member) (outside name absent)

theorem Exact.length_eq_reach (exact : Exact held locked) (distinct : names.Nodup)
    (outside : ∀ name, name ∉ names → held name = []) : locked.length = reach names held := by
  have size := (exact.locked_names distinct outside).length_eq
  rw [List.length_map] at size
  rw [size, ← List.countP_eq_length_filter]
  unfold reach
  congr 1
  funext name
  have told := exact.has_iff_held name
  rw [Bool.eq_iff_iff, told]
  simp

/-- Once every replica without a lock has answered, the notes are exact. -/
theorem Faithful.exact_noted (faithful : Faithful held locked) {answered : List String}
    (distinct : names.Nodup) (outside : ∀ name, name ∉ names → held name = [])
    (asked : answered.Perm (names.filter fun name => !locked.has name)) :
    Exact held (locked.noted (answered.map fun name => (name, held name))) := by
  have fresh : answered.Nodup := asked.nodup_iff.mpr (distinct.filter _)
  have rows : (answered.map fun name => (name, held name)).map (·.1) = answered := by
    simp [List.map_map, Function.comp_def]
  have unlocked : ∀ name ∈ answered, locked.lookup name = none := by
    intro name member
    have missing := (List.mem_filter.mp (asked.mem_iff.mp member)).2
    simpa [has] using missing
  have here : ∀ name ∈ answered,
      (locked.noted (answered.map fun name => (name, held name))).lookup name =
        if held name = [] then none else some (held name) := by
    intro name member
    rw [lookup_noted locked (rows.symm ▸ fresh) (List.mem_map.mpr ⟨name, member, rfl⟩),
      unlocked name member]
  have elsewhere : ∀ name, name ∉ answered →
      (locked.noted (answered.map fun name => (name, held name))).lookup name =
        locked.lookup name := by
    intro name absent
    exact lookup_noted_other locked (rows.symm ▸ absent)
  refine ⟨⟨names_noted ?_, ?_⟩, ?_⟩
  · rw [rows]
    refine List.nodup_append.mpr ⟨fresh, faithful.distinct, ?_⟩
    rintro name member other inside rfl
    exact (lookup_none.mp (unlocked name member)) inside
  · intro name tuples found
    by_cases member : name ∈ answered
    · rw [here name member] at found
      split at found
      · cases found
      · rename_i something
        cases found
        exact ⟨something, rfl⟩
    · rw [elsewhere name member] at found
      exact faithful.told name tuples found
  · intro name missing
    by_cases member : name ∈ answered
    · rw [here name member] at missing
      split at missing
      · rename_i nothing
        exact nothing
      · cases missing
    · rw [elsewhere name member] at missing
      by_contra something
      have known : name ∈ names := by
        by_contra absent
        exact something (outside name absent)
      exact member (asked.mem_iff.mpr (List.mem_filter.mpr ⟨known, by simp [has, missing]⟩))

theorem Exact.locked_everywhere (exact : Exact held locked) (distinct : names.Nodup)
    (outside : ∀ name, name ∉ names → held name = []) (whole : locked.length = names.length) :
    ∀ name ∈ names, locked.has name = true := by
  refine List.filter_eq_self.mp (List.filter_sublist.eq_of_length ?_)
  rw [← (exact.locked_names distinct outside).length_eq, List.length_map, whole]

theorem Exact.offers_full (exact : Exact held locked) (distinct : names.Nodup)
    (outside : ∀ name, name ∉ names → held name = []) (whole : locked.length = names.length) :
    names.filterMap (fun name => locked.lookup name) = names.map held := by
  have locks : ∀ name ∈ names, locked.lookup name = some (held name) := by
    intro name member
    have has := exact.locked_everywhere distinct outside whole name member
    obtain ⟨tuples, found⟩ := Option.isSome_iff_exists.mp has
    rw [found, (exact.told name tuples found).2]
  rw [List.filterMap_congr locks]
  rw [List.filterMap_eq_map']

end Holdings

theorem Pattern.parse_error {source : String} {cause : StoreError}
    (refused : Pattern.parse source = .error cause) : cause = .invalidPattern source := by
  unfold Pattern.parse at refused
  split at refused
  · cases refused
  · exact (Except.error.inj refused).symm

namespace Racer

def obey (racer : Racer) (decided : TakeMachine × Except ClientError TakeAction) : Racer :=
  let racer := { racer with machine := decided.1, inbox := [] }
  match decided.2 with
  | .ok (.send targets request) =>
      { racer with outbox := targets.map (fun target => (target, request)) }
  | .ok (.pause _) => racer
  | .ok (.taken tuple) => { racer with ending? := some (.taken tuple) }
  | .error cause => { racer with ending? := some (.failed cause) }

theorem step_eq_obey (racer : Racer) :
    racer.step.1 = racer.obey (racer.machine.step racer.inbox) := by
  unfold step obey
  obtain ⟨machine, outcome⟩ := racer.machine.step racer.inbox
  rcases outcome with cause | action
  · rfl
  · cases action <;> rfl

end Racer

namespace Taker

variable (taker : Taker) (names : List String)

/-! ## The phases as states -/

def resting (retries : Nat) (locked : Holdings) : Racer :=
  { machine := { taker.machine names with retries, locked } }

def reserving (held : String → List String) (retries : Nat) (locked : Holdings)
    (pending answered : List String) : Racer :=
  { machine :=
      { taker.machine names with
        stage := .reserving
        retries
        locked
        awaiting := names.filter fun name => !locked.has name }
    outbox := pending.map fun name => (name, .reserve taker.pattern taker.client)
    inbox := answered.map fun name => (name, .reserved (held name)) }

def releasing (retries : Nat) (isExhausted : Bool) (pause : Pause)
    (asked pending answered : List String) : Racer :=
  { machine :=
      { taker.machine names with
        stage := .releasing
        retries
        isExhausted
        awaiting := asked
        pending? := some pause }
    outbox := pending.map fun name => (name, .release taker.client)
    inbox := answered.map fun name => (name, .released) }

def committing (retries : Nat) (locked : Holdings) (tuple : String)
    (pending answered : List String) : Racer :=
  { machine :=
      { taker.machine names with
        stage := .committing
        retries
        locked
        awaiting := names
        chosen? := some tuple }
    outbox := pending.map fun name => (name, .commit tuple taker.client)
    inbox := answered.map fun name => (name, .committed) }

def took (retries : Nat) (locked : Holdings) (tuple : String) : Racer :=
  { machine :=
      { taker.machine names with stage := .finished, retries, locked, chosen? := some tuple }
    ending? := some (.taken tuple) }

def gaveUp (retries : Nat) (pause : Pause) : Racer :=
  { machine :=
      { taker.machine names with
        stage := .exhausted
        retries
        isExhausted := true
        pending? := some pause }
    ending? := some (.failed (.backoffExceeded retries)) }

def retreat (retries : Nat) (isExhausted : Bool) (locked : Holdings) (pause : Pause) : Racer :=
  let asked := names.filter locked.has
  if asked = [] then
    if isExhausted then taker.gaveUp names retries pause else taker.resting names retries []
  else taker.releasing names retries isExhausted pause asked asked []

def settled (held : String → List String) (retries : Nat) (locked : Holdings) : Racer :=
  match Quorum.classify locked.length names.length with
  | .minority =>
      taker.retreat names (retries + 1) (taker.policy.maxRetries ≤ retries + 1) locked
        (.backoff (retries + 1))
  | .partialMajority => taker.resting names retries locked
  | .full =>
      match offeredByAll (names.map held) with
      | tuple :: _ => taker.committing names retries locked tuple names []
      | [] =>
          if taker.policy.emptyCounts then
            taker.retreat names (retries + 1) (taker.policy.maxRetries ≤ retries + 1) locked .settle
          else taker.retreat names retries false locked .settle

/-! ## Steps between them -/

private theorem obey_retreat (retries : Nat) (isExhausted : Bool) (locked : Holdings)
    (pause : Pause) {racer : Racer} (outbox : racer.outbox = [])
    (running : racer.ending? = none) :
    racer.obey (TakeMachine.act
      { taker.machine names with
        stage := .release, retries, isExhausted, locked, pending? := some pause }) =
      taker.retreat names retries isExhausted locked pause := by
  obtain ⟨machine, _, inbox, _⟩ := racer
  cases outbox
  cases running
  unfold retreat TakeMachine.act TakeMachine.askRelease
  dsimp only
  change Racer.obey _ (if (names.filter locked.has).isEmpty then _ else _) = _
  by_cases none : names.filter locked.has = []
  · rw [if_pos (by simp [none]), if_pos none]
    cases isExhausted <;> rfl
  · rw [if_neg (by simpa using none), if_neg none]
    rfl

private theorem answering_names (answered : List String) (response : String → Response) :
    (answered.map fun name => (name, response name)).map (·.1) = answered := by
  simp [List.map_map, Function.comp_def]

theorem step_resting (held : String → List String) (retries : Nat) (locked : Holdings) :
    (taker.resting names retries locked).step.1 =
      taker.reserving names held retries locked (names.filter fun name => !locked.has name) [] :=
  rfl

theorem step_releasing (retries : Nat) (isExhausted : Bool) (pause : Pause)
    {asked answered : List String} (all : answered.Perm asked) :
    (taker.releasing names retries isExhausted pause asked [] answered).step.1 =
      if isExhausted then taker.gaveUp names retries pause else taker.resting names retries [] := by
  let racer := taker.releasing names retries isExhausted pause asked [] answered
  have stepped : racer.machine.step racer.inbox =
      ({ racer.machine with awaiting := [], stage := racer.machine.afterRelease }).act :=
    TakeMachine.step_releasing rfl (answering_names answered _ ▸ all)
      (by simp [racer, releasing, Response.isAcknowledgement])
  change racer.step.1 = _
  rw [Racer.step, stepped]
  cases isExhausted <;> rfl

theorem step_committing (retries : Nat) (locked : Holdings) (tuple : String)
    {answered : List String} (all : answered.Perm names) :
    (taker.committing names retries locked tuple [] answered).step.1 =
      taker.took names retries locked tuple := by
  let racer := taker.committing names retries locked tuple [] answered
  have stepped : racer.machine.step racer.inbox =
      ({ racer.machine with awaiting := [], stage := .finished }).act :=
    TakeMachine.step_committing rfl (answering_names answered _ ▸ all)
      (by simp [racer, committing, Response.isAcknowledgement])
  change racer.step.1 = _
  rw [Racer.step, stepped]
  rfl

theorem step_reserving (retries : Nat) {held : String → List String} {locked : Holdings}
    {answered : List String} (faithful : locked.Faithful held) (distinct : names.Nodup)
    (outside : ∀ name, name ∉ names → held name = [])
    (all : answered.Perm (names.filter fun name => !locked.has name)) :
    (taker.reserving names held retries locked [] answered).step.1 =
      taker.settled names held retries
        (locked.noted (answered.map fun name => (name, held name))) := by
  let racer := taker.reserving names held retries locked [] answered
  let noted := locked.noted (answered.map fun name => (name, held name))
  have exact : noted.Exact held := faithful.exact_noted distinct outside all
  have offers : (answered.map fun name => (name, held name)).map (·.1) = answered := by
    simp [List.map_map, Function.comp_def]
  have inbox : racer.inbox =
      (answered.map fun name => (name, held name)).map
        fun offer => (offer.1, .reserved offer.2) := by
    simp [racer, reserving, List.map_map, Function.comp_def]
  have stepped : racer.machine.step racer.inbox =
      ({ racer.machine with awaiting := [], locked := noted }).settleRound.act := by
    rw [inbox]
    exact TakeMachine.step_reserving rfl (offers.symm ▸ all)
  change racer.step.1 = taker.settled names held retries noted
  rw [racer.step_eq_obey, stepped]
  have fresh : racer.outbox = [] := rfl
  have running : racer.ending? = none := rfl
  unfold settled
  cases quorum : Quorum.classify noted.length names.length with
  | minority =>
      rw [TakeMachine.settle_minority quorum]
      exact obey_retreat taker names _ _ _ _ fresh running
  | partialMajority =>
      rw [TakeMachine.settle_partial quorum]
      rfl
  | full =>
      have common : TakeMachine.offers { racer.machine with awaiting := [], locked := noted } =
          names.map held :=
        exact.offers_full distinct outside (Quorum.length_of_full quorum).2
      rw [TakeMachine.settle_full quorum, common]
      cases offeredByAll (names.map held) with
      | nil =>
          dsimp only
          by_cases counts : taker.policy.emptyCounts = true
          · rw [if_pos counts]
            rw [if_pos (show racer.machine.policy.emptyCounts = true from counts)]
            exact obey_retreat taker names _ _ _ _ fresh running
          · rw [if_neg counts]
            rw [if_neg (show ¬racer.machine.policy.emptyCounts = true from counts)]
            exact obey_retreat taker names _ _ _ _ fresh running
      | cons tuple others => rfl

/-! ## Replies -/

theorem receive_reserved {held later : String → List String} (retries : Nat) (locked : Holdings)
    (pending : List String) {answered : List String} (position : Nat) (name : String)
    (same : ∀ other ∈ answered, later other = held other) :
    (taker.reserving names held retries locked pending answered).receive position name
        (.ok (.reserved (later name))) =
      taker.reserving names later retries locked (pending.eraseIdx position)
        (answered ++ [name]) := by
  have seen : answered.map (fun other => (other, Response.reserved (held other))) =
      answered.map fun other => (other, .reserved (later other)) := by
    refine List.map_congr_left ?_
    intro other member
    rw [same other member]
  simp [Racer.receive, reserving, List.eraseIdx_map, seen]

theorem receive_refused (held : String → List String) (retries : Nat) (locked : Holdings)
    (pending answered : List String) (position : Nat) (name : String) (cause : StoreError) :
    (taker.reserving names held retries locked pending answered).receive position name
        (.error cause) =
      { taker.reserving names held retries locked (pending.eraseIdx position) answered with
        ending? := some (.refused cause) } := by
  simp [Racer.receive, reserving, List.eraseIdx_map]

theorem receive_released (retries : Nat) (isExhausted : Bool) (pause : Pause)
    (asked pending answered : List String) (position : Nat) (name : String) :
    (taker.releasing names retries isExhausted pause asked pending answered).receive position name
        (.ok .released) =
      taker.releasing names retries isExhausted pause asked (pending.eraseIdx position)
        (answered ++ [name]) := by
  simp [Racer.receive, releasing, List.eraseIdx_map]

theorem receive_committed (retries : Nat) (locked : Holdings) (tuple : String)
    (pending answered : List String) (position : Nat) (name : String) :
    (taker.committing names retries locked tuple pending answered).receive position name
        (.ok .committed) =
      taker.committing names retries locked tuple (pending.eraseIdx position)
        (answered ++ [name]) := by
  simp [Racer.receive, committing, List.eraseIdx_map]

end Taker

/-- The phases of a racer, given what its client holds at each replica. -/
inductive Phase (taker : Taker) (names : List String) (held : String → List String) : Racer → Prop
  | resting {retries : Nat} {locked : Holdings} (exact : locked.Exact held)
      (stable : locked = [] ∨ names.length < locked.length * 2 ∧ locked.length < names.length) :
      Phase taker names held (taker.resting names retries locked)
  | reserving {retries : Nat} {locked : Holdings} {pending answered : List String}
      (faithful : locked.Faithful held)
      (asked : (pending ++ answered).Perm (names.filter fun name => !locked.has name))
      (untouched : ∀ name ∈ pending, held name = []) :
      Phase taker names held (taker.reserving names held retries locked pending answered)
  | releasing {retries : Nat} {isExhausted : Bool} {pause : Pause}
      {asked pending answered : List String} (known : asked.Sublist names)
      (split : (pending ++ answered).Perm asked)
      (freed : ∀ name, name ∉ pending → held name = []) :
      Phase taker names held
        (taker.releasing names retries isExhausted pause asked pending answered)
  | committing {retries : Nat} {locked : Holdings} {tuple : String}
      {pending answered : List String} (split : (pending ++ answered).Perm names)
      (ready : ∀ name ∈ pending, tuple ∈ held name)
      (freed : ∀ name, name ∉ pending → held name = []) :
      Phase taker names held (taker.committing names retries locked tuple pending answered)
  | took {retries : Nat} {locked : Holdings} {tuple : String}
      (freed : ∀ name, held name = []) :
      Phase taker names held (taker.took names retries locked tuple)
  | gaveUp {retries : Nat} {pause : Pause} (freed : ∀ name, held name = []) :
      Phase taker names held (taker.gaveUp names retries pause)
  | refused {retries : Nat} {locked : Holdings} {pending answered : List String}
      {seen : String → List String}
      (invalid : Pattern.parse taker.pattern = .error (.invalidPattern taker.pattern))
      (freed : ∀ name, held name = []) :
      Phase taker names held
        { taker.reserving names seen retries locked pending answered with
          ending? := some (.refused (.invalidPattern taker.pattern)) }

/-- What a step of a racer leads to once all its requests are answered. -/
inductive Turn (taker : Taker) (names : List String) (held : String → List String) :
    Racer → Racer → Prop
  | asks {retries : Nat} {locked : Holdings} (exact : locked.Exact held) :
      Turn taker names held (taker.resting names retries locked)
        (taker.reserving names held retries locked (names.filter fun name => !locked.has name) [])
  | settles {retries : Nat} {locked noted : Holdings} {answered : List String}
      (exact : noted.Exact held) :
      Turn taker names held (taker.reserving names held retries locked [] answered)
        (taker.settled names held retries noted)
  | frees {retries : Nat} {isExhausted : Bool} {pause : Pause} {asked answered : List String}
      (freed : ∀ name, held name = []) :
      Turn taker names held (taker.releasing names retries isExhausted pause asked [] answered)
        (if isExhausted then taker.gaveUp names retries pause else taker.resting names retries [])
  | finishes {retries : Nat} {locked : Holdings} {tuple : String} {answered : List String}
      (freed : ∀ name, held name = []) :
      Turn taker names held (taker.committing names retries locked tuple [] answered)
        (taker.took names retries locked tuple)

namespace Phase

variable {taker : Taker} {names : List String} {held : String → List String} {racer : Racer}

theorem retreat {retries : Nat} {isExhausted : Bool} {locked : Holdings} {pause : Pause}
    (exact : locked.Exact held) (outside : ∀ name, name ∉ names → held name = []) :
    Phase taker names held (taker.retreat names retries isExhausted locked pause) := by
  have unlocked : ∀ name, name ∉ names.filter locked.has → held name = [] := by
    intro name absent
    by_contra something
    have known : name ∈ names := by
      by_contra unknown
      exact something (outside name unknown)
    exact absent (List.mem_filter.mpr ⟨known, (exact.has_iff_held name).mpr something⟩)
  unfold Taker.retreat
  by_cases none : names.filter locked.has = []
  · have freed : ∀ name, held name = [] := fun name => unlocked name (by simp [none])
    rw [if_pos none]
    cases isExhausted with
    | true => exact .gaveUp freed
    | false => exact .resting (Holdings.exact_nil freed) (Or.inl rfl)
  · rw [if_neg none]
    exact .releasing List.filter_sublist (by simp) unlocked

theorem settled {retries : Nat} {locked : Holdings} (exact : locked.Exact held)
    (distinct : names.Nodup) (outside : ∀ name, name ∉ names → held name = []) :
    Phase taker names held (taker.settled names held retries locked) := by
  unfold Taker.settled
  cases quorum : Quorum.classify locked.length names.length with
  | minority => exact retreat exact outside
  | partialMajority =>
      refine .resting exact (Or.inr ?_)
      have reached := exact.length_eq_reach distinct outside
      have bound : locked.length ≤ names.length := reached ▸ List.countP_le_length
      unfold Quorum.classify at quorum
      split at quorum
      · cases quorum
      · split at quorum
        · cases quorum
        · omega
  | full =>
      have whole := exact.offers_full distinct outside (Quorum.length_of_full quorum).2
      dsimp only
      cases offers : offeredByAll (names.map held) with
      | nil =>
          dsimp only
          split
          · exact retreat exact outside
          · exact retreat exact outside
      | cons tuple others =>
          refine .committing (by simp) ?_ outside
          intro name member
          exact offered_by_each (offers ▸ List.mem_cons_self) _ (List.mem_map_of_mem member)

theorem turn (phase : Phase taker names held racer) (distinct : names.Nodup)
    (outside : ∀ name, name ∉ names → held name = []) (idle : racer.outbox = [])
    (running : racer.ending? = none) : Turn taker names held racer racer.step.1 := by
  cases phase with
  | @resting retries locked exact stable =>
      rw [taker.step_resting names held]
      exact .asks exact
  | @reserving retries locked pending answered faithful asked untouched =>
      have none : pending = [] := List.map_eq_nil_iff.mp idle
      subst pending
      have all : answered.Perm (names.filter fun name => !locked.has name) := asked
      rw [taker.step_reserving names retries faithful distinct outside all]
      exact .settles (faithful.exact_noted distinct outside all)
  | @releasing retries isExhausted pause asked pending answered known split freed =>
      have none : pending = [] := List.map_eq_nil_iff.mp idle
      subst pending
      have all : answered.Perm asked := split
      rw [taker.step_releasing names retries isExhausted pause all]
      exact .frees fun name => freed name (by simp)
  | @committing retries locked tuple pending answered split ready freed =>
      have none : pending = [] := List.map_eq_nil_iff.mp idle
      subst pending
      have all : answered.Perm names := split
      rw [taker.step_committing names retries locked tuple all]
      exact .finishes fun name => freed name (by simp)
  | took _ => cases running
  | gaveUp _ => cases running
  | refused _ _ => cases running

theorem step (phase : Phase taker names held racer) (distinct : names.Nodup)
    (outside : ∀ name, name ∉ names → held name = []) (idle : racer.outbox = [])
    (running : racer.ending? = none) : Phase taker names held racer.step.1 := by
  have turn := phase.turn distinct outside idle running
  generalize racer.step.1 = next at turn ⊢
  cases turn with
  | asks exact =>
      refine .reserving exact.toFaithful (by simp) ?_
      intro name member
      have unlocked := (List.mem_filter.mp member).2
      exact exact.complete name (by simpa [Holdings.has] using unlocked)
  | settles exact => exact settled exact distinct outside
  | @frees retries isExhausted pause asked answered freed =>
      cases isExhausted with
      | true => exact .gaveUp freed
      | false => exact .resting (Holdings.exact_nil freed) (Or.inl rfl)
  | finishes freed => exact .took freed

/-! ## Deliveries -/

theorem parcel_pending {pending : List String} {position : Nat} {name : String}
    {request asked : Request}
    (parcel : (pending.map fun name => (name, asked))[position]? = some (name, request)) :
    request = asked ∧ pending.Perm (name :: pending.eraseIdx position) := by
  rw [List.getElem?_map] at parcel
  obtain ⟨found, present, same⟩ := Option.map_eq_some_iff.mp parcel
  cases same
  obtain ⟨bound, at_⟩ := List.getElem?_eq_some_iff.mp present
  refine ⟨rfl, ?_⟩
  rw [← at_]
  exact (List.getElem_cons_eraseIdx_perm bound).symm

theorem pending_moved {pending answered asked rest : List String} {name : String}
    (split : (pending ++ answered).Perm asked) (taken : pending.Perm (name :: rest)) :
    (rest ++ (answered ++ [name])).Perm asked := by
  refine List.Perm.trans ?_ split
  rw [← List.append_assoc]
  refine (List.perm_append_singleton name (rest ++ answered)).trans ?_
  exact (taken.append_right answered).symm

theorem taken_apart {pending answered asked rest : List String} {name : String}
    (split : (pending ++ answered).Perm asked) (distinct : asked.Nodup)
    (taken : pending.Perm (name :: rest)) : name ∉ rest ∧ name ∉ answered := by
  have all : (name :: (rest ++ answered)).Nodup :=
    ((taken.append_right answered).symm.trans split).nodup_iff.mpr distinct
  have apart := (List.nodup_cons.mp all).1
  exact ⟨fun inside => apart (List.mem_append_left _ inside),
    fun inside => apart (List.mem_append_right _ inside)⟩

theorem freed_moved {pending rest : List String} {name : String}
    (freed : ∀ other, other ∉ pending → held other = []) (taken : pending.Perm (name :: rest)) :
    ∀ other, other ∉ rest → Function.update held name [] other = [] := by
  intro other absent
  by_cases same : other = name
  · subst other
    exact Function.update_self ..
  · rw [Function.update_of_ne same]
    refine freed other fun member => ?_
    exact (List.mem_cons.mp (taken.mem_iff.mp member)).elim same absent

section Deliveries

variable {retries position : Nat} {locked : Holdings} {pending heard : List String}
  {name : String} {request : Request} {space next : Space} {reply : Reply}

/-- A reservation is refused only for its pattern. Otherwise it tells all that is held there. -/
theorem deliver_reserve (distinct : names.Nodup)
    (fits : ∀ other, ∀ tuple ∈ held other, taker.Fits tuple) (faithful : locked.Faithful held)
    (asked : (pending ++ heard).Perm (names.filter fun name => !locked.has name))
    (untouched : ∀ name ∈ pending, held name = [])
    (taken : pending.Perm (name :: pending.eraseIdx position))
    (here : held name = space.holdings taker.client)
    (answered : space.answerTake (.reserve taker.pattern taker.client) = some (reply, next)) :
    Phase taker names (Function.update held name (next.holdings taker.client))
      ((taker.reserving names held retries locked pending heard).receive position name reply) := by
  have apart := taken_apart asked (distinct.filter _) taken
  have pends : name ∈ pending := taken.mem_iff.mpr List.mem_cons_self
  cases parsed : Pattern.parse taker.pattern with
  | error e =>
      have cause : e = .invalidPattern taker.pattern := Pattern.parse_error parsed
      subst cause
      simp only [Space.answerTake, parsed, Option.some.injEq, Prod.mk.injEq] at answered
      obtain ⟨rfl, rfl⟩ := answered
      have nothing : ∀ other, held other = [] := by
        intro other
        rw [List.eq_nil_iff_forall_not_mem]
        intro tuple member
        obtain ⟨pattern, valid, _⟩ := fits other tuple member
        rw [parsed] at valid
        cases valid
      rw [← here, Function.update_eq_self, Taker.receive_refused]
      exact .refused parsed nothing
  | ok pattern =>
      simp only [Space.answerTake, parsed, Option.some.injEq, Prod.mk.injEq] at answered
      obtain ⟨rfl, rfl⟩ := answered
      have given := space.holdings_reserve_own pattern taker.client
        (by rw [← here, untouched name pends]; simp)
      have elsewhere : ∀ other, other ≠ name → Function.update held name
          ((space.reserve pattern taker.client).2.holdings taker.client) other = held other :=
        fun other different => Function.update_of_ne different _ _
      have there : Function.update held name
          ((space.reserve pattern taker.client).2.holdings taker.client) name =
            (space.reserve pattern taker.client).1 := (Function.update_self ..).trans given
      rw [← there, Taker.receive_reserved taker names retries locked pending position name
        fun other member => elsewhere other fun same => apart.2 (same ▸ member)]
      refine .reserving (faithful.congr ?_) (pending_moved asked taken) ?_
      · intro other has
        refine elsewhere other ?_
        rintro rfl
        have inside := asked.mem_iff.mp (List.mem_append_left heard pends)
        simp [has] at inside
      · intro other member
        rw [elsewhere other (fun same => apart.1 (same ▸ member))]
        exact untouched other (taken.mem_iff.mpr (List.mem_cons_of_mem _ member))

theorem deliver_release {isExhausted : Bool} {pause : Pause} {asked : List String}
    (known : asked.Sublist names) (split : (pending ++ heard).Perm asked)
    (freed : ∀ name, name ∉ pending → held name = [])
    (taken : pending.Perm (name :: pending.eraseIdx position))
    (answered : space.answerTake (.release taker.client) = some (reply, next)) :
    Phase taker names (Function.update held name (next.holdings taker.client))
      ((taker.releasing names retries isExhausted pause asked pending heard).receive position name
        reply) := by
  simp only [Space.answerTake, Option.some.injEq, Prod.mk.injEq] at answered
  obtain ⟨rfl, rfl⟩ := answered
  rw [Space.holdings_release_own, Taker.receive_released]
  exact .releasing known (pending_moved split taken) (freed_moved freed taken)

/-- What is asked for in the last phase is held, so its removal succeeds. -/
theorem deliver_commit {tuple : String} (distinct : names.Nodup)
    (split : (pending ++ heard).Perm names) (ready : ∀ name ∈ pending, tuple ∈ held name)
    (freed : ∀ name, name ∉ pending → held name = [])
    (taken : pending.Perm (name :: pending.eraseIdx position))
    (here : held name = space.holdings taker.client)
    (answered : space.answerTake (.commit tuple taker.client) = some (reply, next)) :
    Phase taker names (Function.update held name (next.holdings taker.client))
      ((taker.committing names retries locked tuple pending heard).receive position name
        reply) := by
  have apart := taken_apart split distinct taken
  have held_here : tuple ∈ space.holdings taker.client :=
    here ▸ ready name (taken.mem_iff.mpr List.mem_cons_self)
  obtain ⟨left, committed⟩ := Space.commit_of_held held_here
  simp only [Space.answerTake, committed, Option.some.injEq, Prod.mk.injEq] at answered
  obtain ⟨rfl, rfl⟩ := answered
  rw [Space.holdings_commit_own committed, Taker.receive_committed]
  refine .committing (pending_moved split taken) ?_ (freed_moved freed taken)
  intro other member
  have different : other ≠ name := fun same => apart.1 (same ▸ member)
  rw [Function.update_of_ne different]
  exact ready other (taken.mem_iff.mpr (List.mem_cons_of_mem _ member))

theorem deliver (phase : Phase taker names held racer) (distinct : names.Nodup)
    (fits : ∀ other, ∀ tuple ∈ held other, taker.Fits tuple) (running : racer.ending? = none)
    (parcel : racer.outbox[position]? = some (name, request))
    (here : held name = space.holdings taker.client)
    (answered : space.answerTake request = some (reply, next)) :
    Phase taker names (Function.update held name (next.holdings taker.client))
      (racer.receive position name reply) := by
  cases phase with
  | resting _ _ => simp [Taker.resting] at parcel
  | reserving faithful asked untouched =>
      obtain ⟨rfl, taken⟩ := parcel_pending parcel
      exact deliver_reserve distinct fits faithful asked untouched taken here answered
  | releasing known split freed =>
      obtain ⟨rfl, taken⟩ := parcel_pending parcel
      exact deliver_release known split freed taken answered
  | committing split ready freed =>
      obtain ⟨rfl, taken⟩ := parcel_pending parcel
      exact deliver_commit distinct split ready freed taken here answered
  | took _ => cases running
  | gaveUp _ => cases running
  | refused _ _ => cases running

end Deliveries

theorem holds_committed {name tuple : String} {client : ClientId}
    (phase : Phase taker names held racer) (running : racer.ending? = none)
    (parcel : (name, .commit tuple client) ∈ racer.outbox) :
    client = taker.client ∧ tuple ∈ held name := by
  cases phase with
  | resting _ _ => simp [Taker.resting] at parcel
  | reserving _ _ _ => simp [Taker.reserving] at parcel
  | releasing _ _ _ => simp [Taker.releasing] at parcel
  | committing _ ready _ =>
      simp only [Taker.committing, List.mem_map, Prod.mk.injEq, Request.commit.injEq] at parcel
      obtain ⟨other, member, rfl, rfl, rfl⟩ := parcel
      exact ⟨rfl, ready other member⟩
  | took _ => cases running
  | gaveUp _ => cases running
  | refused _ _ => cases running

end Phase

end TupleSpace
