import TupleSpace.Proofs.RacePhase

/-!
# A race with a single racer

While nobody puts anything, a single racer moves by steps, and by deliveries in any order of the
requests that a step has sent. The lemmas here follow one step, or the delivery of one request to
several replicas, and count the moves.
-/

namespace TupleSpace

open TupleSpace.Table

namespace Race

/-! ## Races that come to an end -/

def requestsTo (name : String) (log : List Happening) : List Request :=
  log.filterMap fun
    | .delivered replica request _ => if replica = name then some request else none
    | .inserted _ _ => none

/-- A delivery or a step, which is made by a taker and not from outside. -/
def IsMove (event : RaceEvent) : Prop := ∀ replica tuple, event ≠ .insert replica tuple

/-- Whichever possible moves are made, so many follow one another before none is possible any
more, and the race that they lead to has the result. -/
inductive EndsAfter (result : List Happening → Race → Prop) : Nat → List Happening → Race → Prop
  | done {log : List Happening} {race : Race}
      (stuck : ∀ event sight next, IsMove event → race.perform? event ≠ some (sight, next))
      (good : result log race) : EndsAfter result 0 log race
  | moves {count : Nat} {log : List Happening} {race : Race}
      (possible : ∃ event sight next, IsMove event ∧ race.perform? event = some (sight, next))
      (further : ∀ event sight next, IsMove event → race.perform? event = some (sight, next) →
        EndsAfter result count (log ++ race.happenings event sight) next) :
      EndsAfter result (count + 1) log race

variable {result : List Happening → Race → Prop} {count : Nat} {log : List Happening}
  {replicas : List (String × Space)}

/-- No run is longer, every shorter one can be continued, and the longest ones have the result. -/
theorem EndsAfter.replayed {race last : Race} {events : List RaceEvent} {more : List Happening}
    (ends : EndsAfter result count log race) (moves : ∀ event ∈ events, IsMove event)
    (replayed : race.replay? events = some (more, last)) :
    events.length ≤ count ∧ EndsAfter result (count - events.length) (log ++ more) last := by
  induction events generalizing race count log more with
  | nil =>
      cases replayed
      simpa using ends
  | cons event rest induction =>
      obtain ⟨⟨sight, next⟩, performed, later⟩ := Option.bind_eq_some_iff.mp replayed
      obtain ⟨⟨tail, reached⟩, continued, same⟩ := Option.map_eq_some_iff.mp later
      cases same
      have move := moves event List.mem_cons_self
      cases ends with
      | done stuck _ => exact absurd performed (stuck event sight next move)
      | @moves count _ _ _ further =>
          obtain ⟨bound, left⟩ := induction (further event sight next move performed)
            (fun other member => moves other (List.mem_cons_of_mem _ member)) continued
          rw [List.append_assoc] at left
          exact ⟨by simpa using bound, by simpa using left⟩

/-- With all replies in, a lone taker can only be stepped. -/
theorem EndsAfter.of_step {racer : Racer} (distinct : (replicas.map (·.1)).Nodup)
    (idle : racer.outbox = []) (running : racer.ending? = none)
    (ends : EndsAfter result count log ⟨replicas, [racer.step.1]⟩) :
    EndsAfter result (count + 1) log ⟨replicas, [racer]⟩ := by
  have stepped : perform? ⟨replicas, [racer]⟩ (.step 0) = _ :=
    perform_of_moves distinct (.step rfl running idle)
  refine .moves ⟨.step 0, _, _, nofun, stepped⟩ ?_
  intro event sight next move performed
  cases moves_of_perform distinct performed with
  | deliver found _ parcel _ _ =>
      have alone := (List.mem_singleton.mp (List.mem_of_getElem? found))
      subst alone
      simp [idle] at parcel
  | @step index _ found _ _ =>
      have alone := (List.mem_singleton.mp (List.mem_of_getElem? found))
      subst alone
      have first : index = 0 := by
        have bound := (List.getElem?_eq_some_iff.mp found).1
        simpa using bound
      subst first
      simpa [happenings] using ends
  | insert _ => exact absurd rfl (move _ _)

theorem EndsAfter.of_ended {racer : Racer} (distinct : (replicas.map (·.1)).Nodup)
    (ended : racer.ending? ≠ none) (good : result log ⟨replicas, [racer]⟩) :
    EndsAfter result 0 log ⟨replicas, [racer]⟩ := by
  refine .done ?_ good
  intro event sight next move performed
  cases moves_of_perform distinct performed with
  | deliver found running _ _ _ =>
      rw [List.mem_singleton.mp (List.mem_of_getElem? found)] at running
      exact ended running
  | step found running _ =>
      rw [List.mem_singleton.mp (List.mem_of_getElem? found)] at running
      exact ended running
  | insert _ => exact absurd rfl (move _ _)

end Race

/-! ## Requests of one kind -/

/-- A request on its way to several replicas, for a single taker: the racer by who is still to
be reached and who has answered, what is answered, and what becomes of a space. -/
structure Fanout where
  request : Request
  racer : List String → List String → Racer
  response : String → Response
  before : Space → Space
  after : Space → Space

namespace Fanout

structure Works (fanout : Fanout) (replicas : List (String × Space)) (targets : List String) :
    Prop where
  known : targets.Sublist (replicas.map (·.1))
  outbox : ∀ pending answered, (fanout.racer pending answered).outbox =
    pending.map fun name => (name, fanout.request)
  running : ∀ pending answered, (fanout.racer pending answered).ending? = none
  receives : ∀ pending answered position name,
    (fanout.racer pending answered).receive position name (.ok (fanout.response name)) =
      fanout.racer (pending.eraseIdx position) (answered ++ [name])
  answers : ∀ replica ∈ replicas, replica.1 ∈ targets →
    (fanout.before replica.2).answerTake fanout.request =
      some (.ok (fanout.response replica.1), fanout.after replica.2)

def replicas (fanout : Fanout) (replicas : List (String × Space)) (answered : List String) :
    List (String × Space) :=
  replicas.map fun replica =>
    (replica.1,
      if replica.1 ∈ answered then fanout.after replica.2 else fanout.before replica.2)

def race (fanout : Fanout) (replicas : List (String × Space)) (pending answered : List String) :
    Race :=
  ⟨fanout.replicas replicas answered, [fanout.racer pending answered]⟩

variable {fanout : Fanout} {replicas : List (String × Space)}
  {targets pending answered : List String}

@[simp] theorem names_replicas (fanout : Fanout) (replicas : List (String × Space))
    (answered : List String) :
    (fanout.replicas replicas answered).map (·.1) = replicas.map (·.1) := by
  simp [Fanout.replicas]

theorem delivers (works : fanout.Works replicas targets) (distinct : (replicas.map (·.1)).Nodup)
    (split : (pending ++ answered).Perm targets) {position : Nat} {name : String}
    (waits : pending[position]? = some name) :
    (fanout.race replicas pending answered).perform? (.deliver 0 position) =
      some (.delivered name (.ok (fanout.response name)),
        fanout.race replicas (pending.eraseIdx position) (answered ++ [name])) := by
  have inside : name ∈ targets :=
    split.mem_iff.mp (List.mem_append_left _ (List.mem_of_getElem? waits))
  obtain ⟨replica, member, rfl⟩ := List.mem_map.mp (works.known.subset inside)
  have fresh : replica.1 ∉ answered := by
    have apart := split.nodup_iff.mpr (works.known.nodup distinct)
    exact fun told =>
      (List.nodup_append.mp apart).2.2 _ (List.mem_of_getElem? waits) _ told rfl
  have named : ((fanout.replicas replicas answered).map (·.1)).Nodup := by simpa using distinct
  have target : (fanout.replicas replicas answered).lookup replica.1 =
      some (fanout.before replica.2) :=
    lookup_of_mem named (List.mem_map.mpr ⟨replica, member, by simp [fresh]⟩)
  have placed : place replica.1 (fanout.after replica.2) (fanout.replicas replicas answered) =
      fanout.replicas replicas (answered ++ [replica.1]) := by
    simp only [place, Fanout.replicas, List.map_map]
    refine List.map_congr_left ?_
    intro other stored
    by_cases same : other.1 = replica.1
    · have row : other = replica := List.inj_on_of_nodup_map distinct stored member same
      subst row
      simp
    · simp [same]
  have parcel : (fanout.racer pending answered).outbox[position]? =
      some (replica.1, fanout.request) := by
    rw [works.outbox, List.getElem?_map, waits]
    rfl
  have alone : (fanout.race replicas pending answered).racers[0]? =
      some (fanout.racer pending answered) := rfl
  have moves := Race.Moves.deliver alone (works.running pending answered) parcel target
    (works.answers replica member inside)
  rw [Race.perform_of_moves named moves, works.receives]
  simp only [race, placed]
  rfl

theorem replicas_all (all : ∀ replica ∈ replicas, replica.1 ∈ answered ∨
      fanout.before replica.2 = fanout.after replica.2) :
    fanout.replicas replicas answered =
      replicas.map fun replica => (replica.1, fanout.after replica.2) := by
  refine List.map_congr_left ?_
  intro replica member
  rcases all replica member with told | same
  · rw [if_pos told]
  · rw [same, ite_self]

theorem outcome (works : fanout.Works replicas targets) (distinct : (replicas.map (·.1)).Nodup)
    (split : (pending ++ answered).Perm targets) (waiting : pending ≠ []) {event : RaceEvent}
    {sight : RaceSight} {next : Race} (move : Race.IsMove event)
    (performed : (fanout.race replicas pending answered).perform? event = some (sight, next)) :
    ∃ position name, pending[position]? = some name ∧ event = .deliver 0 position ∧
      sight = .delivered name (.ok (fanout.response name)) ∧
        next = fanout.race replicas (pending.eraseIdx position) (answered ++ [name]) := by
  have named : ((fanout.race replicas pending answered).replicas.map (·.1)).Nodup := by
    simpa [race] using distinct
  have only : ∀ {index racer}, (fanout.race replicas pending answered).racers[index]? = some racer →
      index = 0 ∧ racer = fanout.racer pending answered := by
    intro index racer found
    have bound := (List.getElem?_eq_some_iff.mp found).1
    exact ⟨by simpa [race] using bound,
      List.mem_singleton.mp (List.mem_of_getElem? found)⟩
  cases event with
  | deliver index position =>
      obtain ⟨rfl, name, waits⟩ : index = 0 ∧ ∃ name, pending[position]? = some name := by
        cases Race.moves_of_perform named performed with
        | deliver found _ parcel _ _ =>
            obtain ⟨rfl, rfl⟩ := only found
            rw [works.outbox, List.getElem?_map, Option.map_eq_some_iff] at parcel
            obtain ⟨name, waits, _⟩ := parcel
            exact ⟨rfl, name, waits⟩
      rw [delivers works distinct split waits, Option.some.injEq, Prod.mk.injEq] at performed
      exact ⟨position, name, waits, rfl, performed.1.symm, performed.2.symm⟩
  | step index =>
      cases Race.moves_of_perform named performed with
      | step found _ idle =>
          obtain ⟨rfl, rfl⟩ := only found
          rw [works.outbox, List.map_eq_nil_iff] at idle
          exact absurd idle waiting
  | insert replica tuple => exact absurd rfl (move replica tuple)

theorem ends {result : List Happening → Race → Prop} {count : Nat} {first : List Happening}
    (works : fanout.Works replicas targets) (distinct : (replicas.map (·.1)).Nodup)
    (further : ∀ log answered, answered.Perm targets →
      (∀ name, Race.requestsTo name log = Race.requestsTo name first ++
        if name ∈ targets then [fanout.request] else []) →
      Race.EndsAfter result count log (fanout.race replicas [] answered)) :
    Race.EndsAfter result (count + targets.length) first (fanout.race replicas targets []) := by
  -- On the number of requests that are still to be delivered.
  have general : ∀ (left : Nat) (pending answered : List String) (log : List Happening),
      pending.length = left → (pending ++ answered).Perm targets →
      (∀ name, Race.requestsTo name log = Race.requestsTo name first ++
        if name ∈ answered then [fanout.request] else []) →
      Race.EndsAfter result (count + left) log (fanout.race replicas pending answered) := by
    intro left
    induction left with
    | zero =>
        intro pending answered log size split told
        obtain rfl := List.eq_nil_of_length_eq_zero size
        refine further log answered split ?_
        intro name
        rw [List.nil_append] at split
        rw [told name, if_congr split.mem_iff rfl rfl]
    | succ left induction =>
        intro pending answered log size split told
        have waiting : pending ≠ [] := by
          rintro rfl
          cases size
        refine .moves ?_ ?_
        · obtain ⟨name, rest, rfl⟩ := List.exists_cons_of_ne_nil waiting
          exact ⟨.deliver 0 0, _, _, nofun, delivers works distinct split rfl⟩
        · intro event sight next move performed
          obtain ⟨position, name, waits, rfl, rfl, rfl⟩ :=
            outcome works distinct split waiting move performed
          obtain ⟨bound, here⟩ := List.getElem?_eq_some_iff.mp waits
          have moved : (pending.eraseIdx position ++ (answered ++ [name])).Perm
              (pending ++ answered) := by
            have taken := List.getElem_cons_eraseIdx_perm bound
            rw [here] at taken
            calc (pending.eraseIdx position ++ (answered ++ [name]))
                |>.Perm (name :: (pending.eraseIdx position ++ answered)) := by
                  rw [← List.append_assoc]
                  exact List.perm_append_singleton _ _
              _ |>.Perm (pending ++ answered) := taken.append_right answered
          have fresh : name ∉ answered := by
            have apart := split.nodup_iff.mpr (works.known.nodup distinct)
            exact fun earlier => (List.nodup_append.mp apart).2.2 _
              (List.mem_of_getElem? waits) _ earlier rfl
          refine induction _ _ _ (by rw [List.length_eraseIdx_of_lt bound, size]; rfl)
            (moved.trans split) ?_
          intro other
          have logged : Race.happenings (fanout.race replicas pending answered)
              (.deliver 0 position) (.delivered name (.ok (fanout.response name))) =
                [.delivered name fanout.request (.ok (fanout.response name))] := by
            simp [Race.happenings, race, works.outbox, waits]
          rw [logged]
          unfold Race.requestsTo at told ⊢
          rw [List.filterMap_append, told other, List.append_assoc]
          by_cases same : name = other
          · subst same
            simp [fresh]
          · simp [same, Ne.symm same]
  exact general targets.length targets [] first rfl (by simp) (by simp)

end Fanout

end TupleSpace
