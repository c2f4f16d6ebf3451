import Mathlib.Logic.Relation
import TupleSpace.Proofs.RaceSafety

/-!
# How far a race can be brought

Without tuples put from outside, a race moves by deliveries and steps. The lemmas here run one
racer on while the others wait: all its requests are delivered, its round is settled, and it ends
or comes to rest again.
-/

namespace TupleSpace

open TupleSpace.Table

namespace Space

def after (space : Space) (request : Request) : Space :=
  ((space.answerTake request).map (·.2)).getD space

theorem answered_of_asks (space : Space) {taker : Taker} {request : Request}
    (asks : taker.Asks request) :
    ∃ reply, space.answerTake request = some (reply, space.after request) := by
  obtain ⟨⟨reply, next⟩, answered⟩ : ∃ outcome, space.answerTake request = some outcome := by
    rcases asks with rfl | rfl | ⟨tuple, rfl⟩
    · cases parsed : Pattern.parse taker.pattern <;> exact ⟨_, by rw [answerTake, parsed]⟩
    · exact ⟨_, rfl⟩
    · cases done : space.commit tuple taker.client <;> exact ⟨_, by rw [answerTake, done]⟩
  exact ⟨reply, by simp [after, answered]⟩

end Space

namespace Taker

/-- How takes end: with a tuple, without patience, or with a pattern that is none. -/
inductive EndsWith (taker : Taker) : TakeEnd → Prop
  | taken (tuple : String) : EndsWith taker (.taken tuple)
  | exceeded (retries : Nat) : EndsWith taker (.failed (.backoffExceeded retries))
  | invalid (refused : Pattern.parse taker.pattern = .error (.invalidPattern taker.pattern)) :
      EndsWith taker (.refused (.invalidPattern taker.pattern))

end Taker

namespace Phase

variable {taker : Taker} {names : List String} {held : String → List String} {racer : Racer}

theorem ends_with {ending : TakeEnd} (phase : Phase taker names held racer)
    (ended : racer.ending? = some ending) : taker.EndsWith ending := by
  cases phase with
  | resting _ _ => cases ended
  | reserving _ _ _ => cases ended
  | releasing _ _ _ => cases ended
  | committing _ _ _ => cases ended
  | took _ =>
      cases ended
      exact .taken _
  | gaveUp _ =>
      cases ended
      exact .exceeded _
  | refused invalid _ =>
      cases ended
      exact .invalid invalid

theorem freed_of_ended (phase : Phase taker names held racer)
    (ended : racer.ending?.isSome = true) : ∀ name, held name = [] := by
  cases phase with
  | resting _ _ => cases ended
  | reserving _ _ _ => cases ended
  | releasing _ _ _ => cases ended
  | committing _ _ _ => cases ended
  | took freed => exact freed
  | gaveUp freed => exact freed
  | refused _ freed => exact freed

/-- At most one request is on its way to each replica, and none to anybody else. -/
theorem outbox_names (phase : Phase taker names held racer) (distinct : names.Nodup)
    (running : racer.ending? = none) :
    (racer.outbox.map (·.1)).Nodup ∧ racer.outbox.map (·.1) ⊆ names := by
  have parts : ∀ {pending answered asked : List String}, asked.Sublist names →
      (pending ++ answered).Perm asked → pending.Nodup ∧ pending ⊆ names := by
    intro pending answered asked known split
    have all := split.nodup_iff.mpr (known.nodup distinct)
    exact ⟨(List.nodup_append.mp all).1,
      fun name member => known.subset (split.subset (List.mem_append_left _ member))⟩
  cases phase with
  | resting _ _ => simp [Taker.resting]
  | reserving _ asked _ =>
      simpa [Taker.reserving, Function.comp_def] using parts List.filter_sublist asked
  | releasing known split _ =>
      simpa [Taker.releasing, Function.comp_def] using parts known split
  | committing split _ _ =>
      simpa [Taker.committing, Function.comp_def] using parts (List.Sublist.refl _) split
  | took _ => cases running
  | gaveUp _ => cases running
  | refused _ _ => cases running

end Phase

namespace Race

/-! ## Continuations -/

def Advances (race next : Race) : Prop :=
  ∃ event sight, (∀ replica tuple, event ≠ .insert replica tuple) ∧
    race.perform? event = some (sight, next)

def Leads : Race → Race → Prop := Relation.ReflTransGen Advances

/-- Some continuation ends a take that has not ended yet. -/
def Concludes (takers : List Taker) (race : Race) : Prop :=
  ∃ (later : Race) (index : Nat) (taker : Taker) (racer last : Racer) (ending : TakeEnd),
    race.Leads later ∧ takers[index]? = some taker ∧ race.racers[index]? = some racer ∧
      racer.ending? = none ∧ later.racers[index]? = some last ∧ last.ending? = some ending ∧
        taker.EndsWith ending

/-- One racer can be brought to a goal while the others stay as they are. -/
def Attains (race : Race) (index : Nat) (goal : Race → Racer → Prop) : Prop :=
  ∃ later last, race.Leads later ∧ later.racers = race.racers.set index last ∧ goal later last

variable {takers : List Taker} {names : List String} {race next : Race} {index : Nat}
  {racer : Racer} {taker : Taker}

theorem leads_of_moves {event : RaceEvent} {sight : RaceSight}
    (distinct : (race.replicas.map (·.1)).Nodup) (moves : race.Moves event sight next)
    (outward : ∀ replica tuple, event ≠ .insert replica tuple) : race.Leads next :=
  .single ⟨event, sight, outward, perform_of_moves distinct moves⟩

theorem sound_leads (distinct : names.Nodup) (clients : (takers.map (·.client)).Nodup)
    (sound : race.Sound takers names) (leads : race.Leads next) : next.Sound takers names := by
  induction leads with
  | refl => exact sound
  | tail _ advances earlier =>
      obtain ⟨event, sight, _, performed⟩ := advances
      exact sound_moves distinct clients earlier
        (moves_of_perform (earlier.named ▸ distinct) performed)

theorem run_of_leads (leads : race.Leads next) :
    ∃ log, Run race log next ∧ ∀ name tuple, log.countP (·.inserts name tuple) = 0 := by
  induction leads with
  | refl => exact ⟨[], .start, by simp⟩
  | @tail middle last _ advances earlier =>
      obtain ⟨log, run, nothing⟩ := earlier
      obtain ⟨event, sight, outward, performed⟩ := advances
      refine ⟨_, .event run performed, ?_⟩
      intro name tuple
      rw [List.countP_append, nothing name tuple, Nat.zero_add, List.countP_eq_zero]
      intro happening member
      cases event with
      | deliver at_ position =>
          cases sight with
          | delivered replica reply =>
              simp only [happenings, Option.mem_toList, Option.map_eq_some_iff] at member
              obtain ⟨_, _, rfl⟩ := member
              simp
          | stepped _ => simp [happenings] at member
          | inserted => simp [happenings] at member
      | step at_ => cases sight <;> simp [happenings] at member
      | insert replica put => exact absurd rfl (outward replica put)

theorem racers_of_moves {event : RaceEvent} {sight : RaceSight}
    (moves : race.Moves event sight next) :
    next.racers = race.racers ∨
      ∃ (index : Nat) (racer last : Racer), race.racers[index]? = some racer ∧
        racer.ending? = none ∧ next.racers = race.racers.set index last := by
  cases moves with
  | deliver found running _ _ _ => exact Or.inr ⟨_, _, _, found, running, rfl⟩
  | step found running _ => exact Or.inr ⟨_, _, _, found, running, rfl⟩
  | insert _ => exact Or.inl rfl

section

variable (distinct : names.Nodup) (clients : (takers.map (·.client)).Nodup)
  (sound : race.Sound takers names)
include distinct clients sound

theorem ended_leads (leads : race.Leads next) (found : race.racers[index]? = some racer)
    (ended : racer.ending?.isSome = true) : next.racers[index]? = some racer := by
  induction leads with
  | refl => exact found
  | @tail middle last earlier advances induction =>
      have sound := sound_leads distinct clients sound earlier
      obtain ⟨event, sight, _, performed⟩ := advances
      have moves := moves_of_perform (sound.named ▸ distinct) performed
      rcases racers_of_moves moves with same | ⟨other, moved, _, at_, running, changed⟩
      · rw [same]
        exact induction
      · have apart : other ≠ index := by
          rintro rfl
          rw [induction] at at_
          cases at_
          simp [running] at ended
        rw [changed, List.getElem?_set_ne apart]
        exact induction

theorem concludes_of_leads (leads : race.Leads next) (concludes : next.Concludes takers) :
    race.Concludes takers := by
  obtain ⟨later, index, taker, racer, last, ending, further, whose, found, running, at_, ended,
    how⟩ := concludes
  have bound := (List.getElem?_eq_some_iff.mp found).1
  have counts : race.racers.length = next.racers.length :=
    sound.count.trans (sound_leads distinct clients sound leads).count.symm
  have before := List.getElem?_eq_getElem (counts ▸ bound : index < race.racers.length)
  refine ⟨later, index, taker, _, last, ending, leads.trans further, whose, before, ?_, at_, ended,
    how⟩
  by_contra stopped
  have kept := ended_leads distinct clients sound leads before
    (Option.isSome_iff_ne_none.mpr stopped)
  rw [found] at kept
  cases kept
  exact stopped running

theorem concludes_of_attains (whose : takers[index]? = some taker)
    (found : race.racers[index]? = some racer) (running : racer.ending? = none)
    (attains : race.Attains index fun _ last => last.ending?.isSome = true) :
    race.Concludes takers := by
  obtain ⟨later, last, leads, changed, ended⟩ := attains
  obtain ⟨ending, ending_⟩ := Option.isSome_iff_exists.mp ended
  have at_ : later.racers[index]? = some last := by
    rw [changed, List.getElem?_set_self (List.getElem?_eq_some_iff.mp found).1]
  have phase := (sound_leads distinct clients sound leads).phase whose at_
  exact ⟨later, index, taker, racer, last, ending, leads, whose, found, running, at_, ending_,
    phase.ends_with ending_⟩

omit distinct clients sound in
theorem Attains.trans {goal further : Race → Racer → Prop} (bound : index < race.racers.length)
    (attains : race.Attains index goal)
    (onward : ∀ later last, race.Leads later → later.racers = race.racers.set index last →
      later.racers[index]? = some last → goal later last → later.Attains index further) :
    race.Attains index further := by
  obtain ⟨later, last, leads, changed, reached⟩ := attains
  have at_ : later.racers[index]? = some last := by
    rw [changed, List.getElem?_set_self bound]
  obtain ⟨final, end_, beyond, altered, done⟩ := onward later last leads changed at_ reached
  exact ⟨final, end_, leads.trans beyond, by rw [altered, changed, List.set_set], done⟩

omit distinct clients sound in
theorem leads_of_replay {events : List RaceEvent} {log : List Happening}
    (outward : ∀ event ∈ events, ∀ replica tuple, event ≠ .insert replica tuple)
    (replayed : race.replay? events = some (log, next)) : race.Leads next := by
  induction events generalizing race log with
  | nil =>
      cases replayed
      exact .refl
  | cons event rest induction =>
      obtain ⟨⟨sight, middle⟩, performed, later⟩ := Option.bind_eq_some_iff.mp replayed
      obtain ⟨⟨tail, reached⟩, continued, same⟩ := Option.map_eq_some_iff.mp later
      cases same
      refine .head ⟨event, sight, outward event List.mem_cons_self, performed⟩ ?_
      exact induction (fun other member => outward other (List.mem_cons_of_mem event member))
        continued

/-! ## One racer at a time -/

theorem deliver_all (whose : takers[index]? = some taker)
    (found : race.racers[index]? = some racer) (running : racer.ending? = none) :
    race.Attains index fun later last => last.ending?.isSome = true ∨
      last.ending? = none ∧ last.outbox = [] ∧ last.machine = racer.machine ∧
        ∀ name, later.replicas.lookup name = (race.replicas.lookup name).map fun space =>
          ((racer.outbox.lookup name).map space.after).getD space := by
  induction outbox : racer.outbox generalizing race racer with
  | nil =>
      refine ⟨race, racer, .refl, ?_, Or.inr ⟨running, outbox, rfl, by simp⟩⟩
      obtain ⟨bound, rfl⟩ := List.getElem?_eq_some_iff.mp found
      exact (List.set_getElem_self bound).symm
  | cons parcel rest induction =>
      obtain ⟨name, request⟩ := parcel
      have phase := sound.phase whose found
      have first : racer.outbox[0]? = some (name, request) := by simp [outbox]
      have names_ := phase.outbox_names distinct running
      rw [outbox, List.map_cons, List.nodup_cons] at names_
      have known : name ∈ race.replicas.map (·.1) := by
        rw [sound.named]
        exact names_.2 List.mem_cons_self
      obtain ⟨space, target⟩ := Option.isSome_iff_exists.mp (lookup_isSome.mpr known)
      obtain ⟨reply, answered⟩ := space.answered_of_asks
        (phase.asks running (List.mem_of_getElem? first))
      have moves := Moves.deliver found running first target answered
      have leads := leads_of_moves (sound.named ▸ distinct) moves (by simp)
      have bound := (List.getElem?_eq_some_iff.mp found).1
      cases reply with
      | error cause => exact ⟨_, _, leads, rfl, Or.inl rfl⟩
      | ok response =>
          have after_ := sound_moves distinct clients sound moves
          have delivered : (racer.receive 0 name (.ok response)).outbox = rest := by
            simp [Racer.receive, outbox]
          obtain ⟨later, last, onward, changed, reached⟩ := induction after_
            (List.getElem?_set_self bound) running delivered
          refine ⟨later, last, leads.trans onward, by rw [changed, List.set_set], ?_⟩
          rcases reached with ended | ⟨still, empty, same, views⟩
          · exact Or.inl ended
          · refine Or.inr ⟨still, empty, same, ?_⟩
            intro other
            rw [views other, lookup_place]
            by_cases here : other = name
            · subst other
              rw [if_pos rfl, target, lookup_none.mpr names_.1.1]
              simp
            · have apart : (other == name) = false := by simpa using here
              rw [if_neg here, List.lookup_cons, apart]

omit clients in
theorem step_once (whose : takers[index]? = some taker)
    (found : race.racers[index]? = some racer) (running : racer.ending? = none)
    (idle : racer.outbox = []) :
    race.Attains index fun later last => later.replicas = race.replicas ∧
      last = racer.step.1 ∧ Turn taker names (race.held taker.client) racer last := by
  have moves := Moves.step found running idle
  have turn := (sound.phase whose found).turn distinct (sound.outside taker.client) idle running
  exact ⟨_, _, leads_of_moves (sound.named ▸ distinct) moves (by simp), rfl, rfl, rfl, turn⟩

/-- A racer can be brought to the end of its round, unless a request of it is refused. -/
theorem end_round (whose : takers[index]? = some taker)
    (found : race.racers[index]? = some racer) (running : racer.ending? = none) :
    race.Attains index fun later last => last.ending?.isSome = true ∨
      ∃ heard : Racer, heard.machine = racer.machine ∧
        Turn taker names (later.held taker.client) heard last ∧
        ∀ name, later.replicas.lookup name = (race.replicas.lookup name).map fun space =>
          ((racer.outbox.lookup name).map space.after).getD space := by
  have bound := (List.getElem?_eq_some_iff.mp found).1
  refine (deliver_all distinct clients sound whose found running).trans bound ?_
  intro later last leads changed at_ reached
  rcases reached with ended | ⟨still, idle, same, views⟩
  · refine ⟨later, last, .refl, ?_, Or.inl ended⟩
    obtain ⟨inside, rfl⟩ := List.getElem?_eq_some_iff.mp at_
    exact (List.set_getElem_self inside).symm
  · obtain ⟨final, stepped, onward, altered, kept, _, turn⟩ :=
      step_once distinct (sound_leads distinct clients sound leads) whose at_ still idle
    refine ⟨final, stepped, onward, altered, Or.inr ⟨last, same, ?_, ?_⟩⟩
    · have view : final.held taker.client = later.held taker.client := by
        funext name
        simp [held, kept]
      exact view ▸ turn
    · simpa [kept] using views

theorem commit_ends {retries : Nat} {locked : Holdings} {tuple : String}
    {pending answered : List String} (whose : takers[index]? = some taker)
    (found : race.racers[index]? =
      some (taker.committing names retries locked tuple pending answered)) :
    race.Attains index fun _ last => last.ending?.isSome = true := by
  obtain ⟨later, last, leads, changed, reached⟩ := end_round distinct clients sound whose found rfl
  refine ⟨later, last, leads, changed, ?_⟩
  rcases reached with ended | ⟨heard, same, turn, _⟩
  · exact ended
  · cases turn with
    | asks _ => cases congrArg TakeMachine.stage same
    | settles _ => cases congrArg TakeMachine.stage same
    | frees _ => cases congrArg TakeMachine.stage same
    | finishes _ => rfl

theorem release_rests {retries : Nat} {isExhausted : Bool} {pause : Pause}
    {asked pending answered : List String} (whose : takers[index]? = some taker)
    (found : race.racers[index]? =
      some (taker.releasing names retries isExhausted pause asked pending answered)) :
    race.Attains index fun _ last => last.ending?.isSome = true ∨
      isExhausted = false ∧ last = taker.resting names retries [] := by
  obtain ⟨later, last, leads, changed, reached⟩ := end_round distinct clients sound whose found rfl
  refine ⟨later, last, leads, changed, ?_⟩
  rcases reached with ended | ⟨heard, same, turn, _⟩
  · exact Or.inl ended
  · cases turn with
    | asks _ => cases congrArg TakeMachine.stage same
    | settles _ => cases congrArg TakeMachine.stage same
    | finishes _ => cases congrArg TakeMachine.stage same
    | @frees count exhausted _ _ _ _ =>
        have counts : count = retries := congrArg TakeMachine.retries same
        have exhausts : exhausted = isExhausted := congrArg TakeMachine.isExhausted same
        subst count exhausts
        cases exhausted with
        | true => exact Or.inl rfl
        | false => exact Or.inr ⟨rfl, rfl⟩

omit distinct clients sound in
theorem Attains.here {goal : Race → Racer → Prop} (found : race.racers[index]? = some racer)
    (holds : goal race racer) : race.Attains index goal := by
  obtain ⟨bound, rfl⟩ := List.getElem?_eq_some_iff.mp found
  exact ⟨race, _, .refl, (List.set_getElem_self bound).symm, holds⟩

theorem retreat_rests {retries : Nat} {isExhausted : Bool} {locked : Holdings} {pause : Pause}
    (whose : takers[index]? = some taker)
    (found : race.racers[index]? =
      some (taker.retreat names retries isExhausted locked pause)) :
    race.Attains index fun _ last => last.ending?.isSome = true ∨
      isExhausted = false ∧ last = taker.resting names retries [] := by
  by_cases nothing : names.filter locked.has = []
  · refine Attains.here found ?_
    rw [Taker.retreat, if_pos nothing]
    cases isExhausted with
    | true => exact Or.inl rfl
    | false => exact Or.inr ⟨rfl, rfl⟩
  · rw [Taker.retreat, if_neg nothing] at found
    exact release_rests distinct clients sound whose found

/-- After a round has been settled, a take ends, frees everything or keeps what it noted. -/
theorem settled_rests {held : String → List String} {retries : Nat} {noted : Holdings}
    (whose : takers[index]? = some taker)
    (found : race.racers[index]? = some (taker.settled names held retries noted)) :
    race.Attains index fun _ last => last.ending?.isSome = true ∨
      ∃ retries locked, last = taker.resting names retries locked ∧
        (locked = [] ∨ locked = noted) := by
  have retreats : ∀ {count : Nat} {isExhausted : Bool} {pause : Pause},
      race.racers[index]? = some (taker.retreat names count isExhausted noted pause) →
      race.Attains index fun _ last => last.ending?.isSome = true ∨
        ∃ retries locked, last = taker.resting names retries locked ∧
          (locked = [] ∨ locked = noted) := by
    intro count isExhausted pause found
    obtain ⟨later, last, leads, changed, reached⟩ :=
      retreat_rests distinct clients sound whose found
    exact ⟨later, last, leads, changed,
      reached.imp_right fun rested => ⟨_, _, rested.2, Or.inl rfl⟩⟩
  unfold Taker.settled at found
  split at found
  · exact retreats found
  · exact Attains.here found (Or.inr ⟨_, _, rfl, Or.inr rfl⟩)
  · split at found
    · obtain ⟨later, last, leads, changed, ended⟩ := commit_ends distinct clients sound whose found
      exact ⟨later, last, leads, changed, Or.inl ended⟩
    · split at found
      · exact retreats found
      · exact retreats found

theorem ask_round {retries : Nat} {locked : Holdings} (whose : takers[index]? = some taker)
    (found : race.racers[index]? = some (taker.resting names retries locked)) :
    race.Attains index fun later last => last.ending?.isSome = true ∨
      ∃ noted : Holdings, last = taker.settled names (later.held taker.client) retries noted ∧
        noted.Exact (later.held taker.client) ∧
        ∀ name space, race.replicas.lookup name = some space →
          later.held taker.client name =
            if locked.has name then space.holdings taker.client
            else (space.after (.reserve taker.pattern taker.client)).holdings taker.client := by
  have bound := (List.getElem?_eq_some_iff.mp found).1
  refine (step_once distinct sound whose found rfl rfl).trans bound ?_
  rintro asked last leads changed at_ ⟨kept, rfl, _⟩
  rw [taker.step_resting names (race.held taker.client)] at at_
  have sound_ := sound_leads distinct clients sound leads
  obtain ⟨later, settled, onward, altered, reached⟩ :=
    end_round distinct clients sound_ whose at_ rfl
  refine ⟨later, settled, onward, altered, reached.imp_right ?_⟩
  rintro ⟨heard, same, turn, views⟩
  cases turn with
  | asks _ => cases congrArg TakeMachine.stage same
  | frees _ => cases congrArg TakeMachine.stage same
  | finishes _ => cases congrArg TakeMachine.stage same
  | @settles count before noted _ exact =>
      have counts : count = retries := congrArg TakeMachine.retries same
      subst count
      refine ⟨noted, rfl, exact, ?_⟩
      intro name space target
      have known : name ∈ names := by
        rw [← sound.named]
        exact lookup_isSome.mp (by simp [target])
      have view := views name
      rw [kept, target] at view
      have outbox : (taker.reserving names (race.held taker.client) retries locked
          (names.filter fun name => !locked.has name) []).outbox.lookup name =
            if locked.has name then none else some (.reserve taker.pattern taker.client) := by
        rw [Taker.reserving, lookup_same]
        by_cases has : locked.has name = true <;> simp [known, has]
      rw [outbox] at view
      rw [held_of_lookup view]
      split <;> rfl

theorem comes_to_rest (whose : takers[index]? = some taker)
    (found : race.racers[index]? = some racer) (running : racer.ending? = none) :
    race.Attains index fun _ last => last.ending?.isSome = true ∨
      ∃ retries locked, last = taker.resting names retries locked := by
  have bound := (List.getElem?_eq_some_iff.mp found).1
  cases sound.phase whose found with
  | resting _ _ => exact Attains.here found (Or.inr ⟨_, _, rfl⟩)
  | reserving _ _ _ =>
      refine (end_round distinct clients sound whose found running).trans bound ?_
      intro later last leads changed at_ reached
      rcases reached with ended | ⟨heard, same, turn, _⟩
      · exact Attains.here at_ (Or.inl ended)
      · cases turn with
        | asks _ => cases congrArg TakeMachine.stage same
        | frees _ => cases congrArg TakeMachine.stage same
        | finishes _ => cases congrArg TakeMachine.stage same
        | settles _ =>
            obtain ⟨final, rested, onward, altered, reached⟩ := settled_rests distinct clients
              (sound_leads distinct clients sound leads) whose at_
            exact ⟨final, rested, onward, altered,
              reached.imp_right fun ⟨count, locked, same, _⟩ => ⟨count, locked, same⟩⟩
  | releasing _ _ _ =>
      obtain ⟨later, last, leads, changed, reached⟩ :=
        release_rests distinct clients sound whose found
      exact ⟨later, last, leads, changed, reached.imp_right fun rested => ⟨_, _, rested.2⟩⟩
  | committing _ _ _ =>
      obtain ⟨later, last, leads, changed, ended⟩ := commit_ends distinct clients sound whose found
      exact ⟨later, last, leads, changed, Or.inl ended⟩
  | took _ => cases running
  | gaveUp _ => cases running
  | refused _ _ => cases running

end

end Race

end TupleSpace
