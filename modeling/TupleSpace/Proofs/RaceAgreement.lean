import TupleSpace.Proofs.LevelRace

/-!
# Agreement of replicas

In a level race alike tuples have the same holder at every replica, so a removal always takes the
first copy out. Replicas at which the same removals were carried out then store the same list,
whatever order the removals came in. Once all takes have ended, every replica has carried out one
removal for each take that succeeded, and nothing is held any more.
-/

namespace TupleSpace

open TupleSpace.Table

namespace Space

/-- Where alike entries share their holder, the copy that is removed is the first one. -/
theorem Tended.values_commit {takers : List Taker} {space next : Space} {tuple : String}
    {client : ClientId} (tended : space.Tended takers)
    (committed : space.commit tuple client = .ok next) :
    next.values = space.values.erase tuple := by
  unfold Space.commit at committed
  split at committed
  case h_2 => cases committed
  case h_1 found left extracted =>
    cases committed
    obtain ⟨before, behind, split, rfl, holds, misses⟩ := extract_found extracted
    simp only [Bool.and_eq_true, beq_iff_eq] at holds
    have absent : tuple ∉ before.map (·.value) := by
      intro member
      obtain ⟨entry, inside, same⟩ := List.mem_map.mp member
      have alike := tended.alike entry (by simp [split, inside]) found (by simp [split])
        (fun taker _ => by rw [same, holds.2])
      have missed := misses entry inside
      simp [alike, holds.1, same] at missed
    rw [values_release]
    simp [values, split, holds.2, List.erase_append_right _ absent]

end Space

namespace Phase

variable {taker : Taker} {names : List String} {held : String → List String} {racer : Racer}

theorem removed_of_ended (phase : Phase taker names held racer)
    (ended : racer.ending?.isSome = true) (name : String) :
    racer.removed? name =
      match racer.ending? with
      | some (.taken tuple) => some tuple
      | _ => none := by
  cases phase with
  | took _ => rfl
  | gaveUp _ => rfl
  | refused _ _ => exact Racer.removed_of_unchosen rfl name
  | resting _ _ => cases ended
  | reserving _ _ _ => cases ended
  | releasing _ _ _ => cases ended
  | committing _ _ _ => cases ended

end Phase

namespace Race

def takings (race : Race) : List String :=
  race.racers.filterMap fun racer =>
    match racer.ending? with
    | some (.taken tuple) => some tuple
    | _ => none

def removedAt (race : Race) (name : String) : List String :=
  race.racers.filterMap (·.removed? name)

section

variable {racers : List Racer} {index : Nat} {racer next : Racer} (view : Racer → Option String)

theorem view_kept (found : racers[index]? = some racer) (same : view next = view racer) :
    (racers.set index next).filterMap view = racers.filterMap view := by
  induction racers generalizing index with
  | nil => rfl
  | cons first rest induction =>
      cases index with
      | zero =>
          cases found
          simp [List.filterMap_cons, same]
      | succ index =>
          rw [List.set_cons_succ, List.filterMap_cons, List.filterMap_cons, induction found]

theorem view_gained {tuple : String} (found : racers[index]? = some racer)
    (before : view racer = none) (after : view next = some tuple) :
    ((racers.set index next).filterMap view).Perm (tuple :: racers.filterMap view) := by
  induction racers generalizing index with
  | nil => cases found
  | cons first rest induction =>
      cases index with
      | zero =>
          cases found
          simp [before, after]
      | succ index =>
          rw [List.set_cons_succ, List.filterMap_cons, List.filterMap_cons]
          cases view first with
          | none => exact induction found
          | some other => exact ((induction found).cons other).trans (List.Perm.swap tuple other _)

end

section

variable {names tuples : List String} {takers : List Taker} {race : Race}
  (distinct : names.Nodup) (clients : (takers.map (·.client)).Nodup)
  (reached : (level names tuples takers).Leads race)
include distinct clients reached

theorem values_delivered {index position : Nat} {racer : Racer} {name other : String}
    {request : Request} {space left stored : Space} {reply : Reply}
    (found : race.racers[index]? = some racer) (running : racer.ending? = none)
    (parcel : racer.outbox[position]? = some (name, request))
    (there : race.replicas.lookup name = some space)
    (answered : space.answerTake request = some (reply, left))
    (before : ∀ {name : String} {space : Space}, race.replicas.lookup name = some space →
      space.values = tuples.diff (race.removedAt name))
    (target : (place name left race.replicas).lookup other = some stored) :
    stored.values = tuples.diff
      (removedAt ⟨place name left race.replicas,
        race.racers.set index (racer.receive position name reply)⟩ other) := by
  have sound := sound_of_reached distinct clients reached
  obtain ⟨taker, whose⟩ := sound.taker_of_racer found
  have phase := sound.phase whose found
  have member := List.mem_of_getElem? parcel
  obtain ⟨elsewhere, unremoved, removed⟩ := phase.removed_deliver distinct running parcel reply
  rw [lookup_place] at target
  by_cases same : other = name
  · subst other
    rw [if_pos rfl, there, Option.map_some, Option.some.injEq] at target
    subst stored
    have kept : (racer.receive position name reply).removed? name = none →
        left.values = space.values →
        left.values = tuples.diff
          ((race.racers.set index (racer.receive position name reply)).filterMap
            (·.removed? name)) := by
      intro nothing values
      rw [view_kept (·.removed? name) found (nothing.trans unremoved.symm), values]
      exact before there
    cases Space.answers_of_answer (phase.asks running member) answered with
    | reserved _ => exact kept removed (Space.values_reserve ..)
    | invalid _ => exact kept removed rfl
    | released => exact kept removed (Space.values_release ..)
    | @committed tuple _ done =>
        have tended := tended_of_reached distinct clients reached there
        have gained := view_gained (·.removed? name) found unremoved removed
        unfold removedAt
        rw [tended.values_commit done, before there, List.diff_erase, gained.diff_left,
          List.diff_cons]
        rfl
    | @unheld tuple cause refused =>
        have granted := phase.removal_granted running member (held_of_lookup there _) answered
        cases granted.2
  · rw [if_neg same] at target
    unfold removedAt
    rw [view_kept (·.removed? other) found (elsewhere other same)]
    exact before target

/-- A replica stores what it started with, less the first copies of what was removed there. -/
theorem values_of_reached {name : String} {space : Space}
    (target : race.replicas.lookup name = some space) :
    space.values = tuples.diff (race.removedAt name) := by
  induction reached generalizing name space with
  | refl =>
      obtain ⟨_, _, same⟩ := List.mem_map.mp (mem_of_lookup target)
      cases same
      have nothing : (level names tuples takers).removedAt name = [] := by
        refine List.filterMap_eq_nil_iff.mpr ?_
        intro racer member
        obtain ⟨taker, _, rfl⟩ := List.mem_map.mp member
        exact Racer.removed_of_unchosen rfl name
      rw [nothing, List.diff_nil]
      simp [Space.values, Function.comp_def]
  | @tail middle last earlier advances induction =>
      have sound := sound_of_reached distinct clients earlier
      obtain ⟨event, sight, outward, performed⟩ := advances
      cases moves_of_perform (sound.named ▸ distinct) performed with
      | deliver found running parcel there answered =>
          exact values_delivered distinct clients earlier found running parcel there answered
            induction target
      | @step index racer found running idle =>
          obtain ⟨taker, whose⟩ := sound.taker_of_racer found
          have known : name ∈ names := sound.named ▸ lookup_isSome.mp (by simp [target])
          have same := (sound.phase whose found).removed_step distinct
            (sound.outside taker.client) idle running known
          unfold removedAt
          rw [view_kept (·.removed? name) found same]
          exact induction target
      | insert _ => exact absurd rfl (outward _ _)

/-- Once every take has ended, all replicas store the same list, in the order of the start: what
was there at first, less one copy for each take that succeeded. Nothing is held. -/
theorem replicas_of_ended (ended : ∀ racer ∈ race.racers, racer.ending?.isSome = true) :
    race.replicas = names.map fun name =>
      (name, ⟨(tuples.diff race.takings).map fun tuple => ⟨tuple, none⟩⟩) := by
  have sound := sound_of_reached distinct clients reached
  have settled : ∀ name, race.removedAt name = race.takings := by
    intro name
    refine List.filterMap_congr ?_
    intro racer member
    obtain ⟨index, found⟩ := List.mem_iff_getElem?.mp member
    obtain ⟨taker, whose⟩ := sound.taker_of_racer found
    exact (sound.phase whose found).removed_of_ended (ended racer member) name
  have free : ∀ name space, (name, space) ∈ race.replicas →
      ∀ entry ∈ space.entries, entry.holder = none := by
    intro name space inside entry stored
    have target := lookup_of_mem (sound.named ▸ distinct) inside
    by_contra held
    obtain ⟨client, held⟩ := Option.ne_none_iff_exists'.mp held
    obtain ⟨taker, member, rfl, _⟩ :=
      (tended_of_reached distinct clients reached target).known entry stored client held
    obtain ⟨index, whose⟩ := List.mem_iff_getElem?.mp member
    obtain ⟨racer, found⟩ := sound.racer_of_taker whose
    have nothing := (sound.phase whose found).freed_of_ended
      (ended racer (List.mem_of_getElem? found)) name
    rw [held_of_lookup target] at nothing
    exact Space.not_held_of_nothing nothing stored held
  rw [← sound.named, List.map_map]
  conv_lhs => rw [← List.map_id race.replicas]
  apply List.map_congr_left
  rintro ⟨name, space⟩ inside
  have values := values_of_reached distinct clients reached
    (lookup_of_mem (sound.named ▸ distinct) inside)
  rw [settled name] at values
  have entries : space.entries = space.values.map fun tuple => ⟨tuple, none⟩ := by
    rw [Space.values, List.map_map]
    conv_lhs => rw [← List.map_id space.entries]
    apply List.map_congr_left
    rintro ⟨value, holder⟩ stored
    cases (show holder = none from free name space inside _ stored)
    rfl
  rw [values] at entries
  obtain ⟨contents⟩ := space
  cases entries
  rfl

end

/-- Two takers of a tuple that is stored twice and a third whose pattern is none: the commits of
the first two reach the replicas in different orders. -/
theorem replicas_of_ended_pair :
    ∃ race, (level ["A", "B"] ["<a>", "<b>", "<a>"]
        [⟨⟨1⟩, "<a>", ⟨5, false⟩⟩, ⟨⟨2⟩, "<b>", ⟨5, false⟩⟩, ⟨⟨3⟩, "<(>", ⟨5, false⟩⟩]).Leads race ∧
      race.takings = ["<a>", "<b>"] ∧
      race.replicas = [("A", ⟨[⟨"<a>", none⟩]⟩), ("B", ⟨[⟨"<a>", none⟩]⟩)] := by
  let takers : List Taker :=
    [⟨⟨1⟩, "<a>", ⟨5, false⟩⟩, ⟨⟨2⟩, "<b>", ⟨5, false⟩⟩, ⟨⟨3⟩, "<(>", ⟨5, false⟩⟩]
  have done : ((level ["A", "B"] ["<a>", "<b>", "<a>"] takers).replay?
      [.step 0, .step 1, .step 2, .deliver 0 0, .deliver 0 0, .deliver 1 0, .deliver 1 0,
        .deliver 2 0, .step 0, .step 1, .deliver 0 0, .deliver 1 1, .deliver 1 0, .deliver 0 0,
        .step 0, .step 1]).map (fun last =>
          (last.2.takings, last.2.racers.all (·.ending?.isSome))) =
        some (["<a>", "<b>"], true) := by
    decide +kernel
  obtain ⟨⟨log, race⟩, replayed, views⟩ := Option.map_eq_some_iff.mp done
  have reached : (level ["A", "B"] ["<a>", "<b>", "<a>"] takers).Leads race :=
    leads_of_replay (by simp) replayed
  obtain ⟨taken, ended⟩ := Prod.mk.inj views
  have agreed := replicas_of_ended (by decide) (by decide) reached
    fun racer member => List.all_eq_true.mp ended racer member
  dsimp only at taken
  rw [taken] at agreed
  exact ⟨race, reached, taken, agreed.trans (by decide)⟩

end Race

end TupleSpace
