import TupleSpace.Proofs.RaceProgress

/-!
# Races from equal spaces

A race is level when all its replicas start with the same tuples, none of them held. Then only
takers of the race ever hold anything, tuples that look the same to every taker share their
holder at each replica, and while nothing is in transit the same tuples are stored everywhere.
-/

namespace TupleSpace

open TupleSpace.Table

namespace Taker

def Confuse (takers : List Taker) (one other : String) : Prop :=
  ∀ taker ∈ takers, taker.Fits one ↔ taker.Fits other

end Taker

namespace Space

/-- Entries are held by takers whose patterns hit them, and alike entries by the same one. -/
structure Tended (takers : List Taker) (space : Space) : Prop where
  known : ∀ entry ∈ space.entries, ∀ client, entry.holder = some client →
    ∃ taker ∈ takers, taker.client = client ∧ taker.Fits entry.value
  alike : ∀ one ∈ space.entries, ∀ other ∈ space.entries,
    Taker.Confuse takers one.value other.value → one.holder = other.holder

variable {takers : List Taker} {taker : Taker} {space next : Space}

theorem tended_unheld (takers : List Taker) (tuples : List String) :
    Tended takers ⟨tuples.map fun tuple => ⟨tuple, none⟩⟩ := by
  constructor
  · intro entry member client held
    obtain ⟨_, _, rfl⟩ := List.mem_map.mp member
    cases held
  · intro one first other second _
    obtain ⟨_, _, rfl⟩ := List.mem_map.mp first
    obtain ⟨_, _, rfl⟩ := List.mem_map.mp second
    rfl

theorem Tended.release (tended : space.Tended takers) (client : ClientId) :
    (space.release client).Tended takers := by
  constructor
  · intro entry member holder held
    obtain ⟨old, inside, rfl⟩ := List.mem_map.mp member
    rw [Entry.freed_from_holder] at held
    rw [Entry.freed_from_value]
    split at held
    · cases held
    · exact tended.known old inside holder held
  · intro one first other second confused
    obtain ⟨earlier, inside, rfl⟩ := List.mem_map.mp first
    obtain ⟨later, within, rfl⟩ := List.mem_map.mp second
    rw [Entry.freed_from_value, Entry.freed_from_value] at confused
    rw [Entry.freed_from_holder, Entry.freed_from_holder,
      tended.alike earlier inside later within confused]

theorem Tended.reserve {pattern : Pattern} (tended : space.Tended takers) (member : taker ∈ takers)
    (parsed : Pattern.parse taker.pattern = .ok pattern) :
    (space.reserve pattern taker.client).2.Tended takers := by
  have fits := Taker.fits_iff_hits parsed
  constructor
  · intro entry stored client held
    obtain ⟨old, inside, rfl⟩ := List.mem_map.mp stored
    split at held
    · rename_i reservable
      rw [if_pos reservable]
      simp only [Entry.heldBy, Option.some.injEq] at held
      simp only [Entry.isReservable, Bool.and_eq_true] at reservable
      exact ⟨taker, member, held, (fits old.value).mpr reservable.2⟩
    · rename_i kept
      rw [if_neg kept]
      exact tended.known old inside client held
  · intro one first other second confused
    obtain ⟨earlier, inside, rfl⟩ := List.mem_map.mp first
    obtain ⟨later, within, rfl⟩ := List.mem_map.mp second
    have value : ∀ entry : Entry, (if entry.isReservable pattern taker.client
        then entry.heldBy taker.client else entry).value = entry.value := by
      intro entry
      split <;> rfl
    simp only [value] at confused
    have holders := tended.alike earlier inside later within confused
    have hits : pattern.hits earlier.value = pattern.hits later.value := by
      rw [Bool.eq_iff_iff, ← fits, ← fits]
      exact confused taker member
    have reservable : earlier.isReservable pattern taker.client =
        later.isReservable pattern taker.client := by
      simp [Entry.isReservable, holders, hits]
    rw [reservable]
    split
    · rfl
    · exact holders

theorem Tended.commit {tuple : String} {client : ClientId} (tended : space.Tended takers)
    (committed : space.commit tuple client = .ok next) : next.Tended takers := by
  obtain ⟨before, found, behind, split, rfl, _⟩ := commit_split committed
  have part : ∀ entry ∈ before ++ behind, entry ∈ space.entries := by
    intro entry member
    rw [split]
    simp only [List.mem_append, List.mem_cons] at member ⊢
    exact member.imp_right Or.inr
  have left : Tended takers ⟨before ++ behind⟩ :=
    ⟨fun entry member => tended.known entry (part entry member),
      fun one first other second => tended.alike one (part one first) other (part other second)⟩
  exact left.release client

theorem Answers.tended {request : Request} {reply : Reply}
    (answers : space.Answers taker request reply next) (tended : space.Tended takers)
    (member : taker ∈ takers) : next.Tended takers := by
  cases answers with
  | reserved parsed => exact tended.reserve member parsed
  | invalid _ => exact tended
  | released => exact tended.release taker.client
  | committed done => exact tended.commit done
  | unheld _ => exact tended

end Space

namespace Race

def level (names tuples : List String) (takers : List Taker) : Race :=
  start (names.map fun name => (name, ⟨tuples.map fun tuple => ⟨tuple, none⟩⟩)) takers

theorem fair_level {names : List String} {takers : List Taker} (tuples : List String)
    (distinct : names.Nodup) (clients : (takers.map (·.client)).Nodup) :
    IsFair (names.map fun name => (name, ⟨tuples.map fun tuple => ⟨tuple, none⟩⟩)) takers := by
  refine ⟨by simpa [Function.comp_def] using distinct, clients, ?_⟩
  intro taker _ replica member
  obtain ⟨name, _, rfl⟩ := List.mem_map.mp member
  simp [Space.holdings, List.filter_map, Function.comp_def]

/-- Every take that has not ended is between two rounds. -/
def AtRest (takers : List Taker) (names : List String) (race : Race) : Prop :=
  ∀ {index : Nat} {taker : Taker} {racer : Racer}, takers[index]? = some taker →
    race.racers[index]? = some racer → racer.ending? = none →
      ∃ retries locked, racer = taker.resting names retries locked

section

variable {names tuples : List String} {takers : List Taker} {race next : Race}
  (distinct : names.Nodup) (clients : (takers.map (·.client)).Nodup)
  (reached : (level names tuples takers).Leads race)
include distinct clients reached

theorem sound_of_reached : race.Sound takers names := by
  have started := sound_start (fair_level tuples distinct clients)
  rw [List.map_map, Function.comp_def, List.map_id'] at started
  exact sound_leads distinct clients started reached

theorem tended_of_reached {name : String} {space : Space}
    (target : race.replicas.lookup name = some space) : space.Tended takers := by
  induction reached generalizing name space with
  | refl =>
      obtain ⟨_, _, same⟩ := List.mem_map.mp (mem_of_lookup target)
      cases same
      exact Space.tended_unheld takers tuples
  | @tail middle last earlier advances induction =>
      have sound := sound_of_reached distinct clients earlier
      obtain ⟨event, sight, outward, performed⟩ := advances
      cases moves_of_perform (sound.named ▸ distinct) performed with
      | deliver found running parcel there answered =>
          obtain ⟨taker, whose⟩ := sound.taker_of_racer found
          have answers := Space.answers_of_answer
            ((sound.phase whose found).asks running (List.mem_of_getElem? parcel)) answered
          rw [lookup_place] at target
          split at target
          · rename_i same
            rw [same, there, Option.map_some, Option.some.injEq] at target
            exact target ▸ answers.tended (induction there) (List.mem_of_getElem? whose)
          · exact induction target
      | step _ _ _ => exact induction target
      | insert _ => exact absurd rfl (outward _ _)

theorem copies_of_reached (atRest : race.AtRest takers names) {name : String}
    (member : name ∈ names) (tuple : String) :
    race.copies name tuple + race.racers.countP (fun racer => racer.machine.chosen? == some tuple) =
      tuples.count tuple := by
  have fair := fair_level tuples distinct clients
  have sound := sound_of_reached distinct clients reached
  obtain ⟨log, run, nothing⟩ := run_of_leads reached
  have tallied := tallied_run fair run
  rw [List.map_map, Function.comp_def, List.map_id'] at tallied
  have balance : race.copies name tuple + log.countP (·.removes name tuple) =
      (level names tuples takers).copies name tuple + log.countP (·.inserts name tuple) :=
    tallied.copies name tuple
  rw [← tallied.removals name member tuple, nothing name tuple] at balance
  have before : (level names tuples takers).copies name tuple = tuples.count tuple := by
    have found := lookup_of_mem fair.names (List.mem_map.mpr ⟨name, member, rfl⟩)
    simp [copies, level, start, found, Space.copies, Space.values, Function.comp_def]
  have settled : ∀ racer ∈ race.racers, racer.removed? name = racer.machine.chosen? := by
    intro racer inside
    obtain ⟨index, found⟩ := List.mem_iff_getElem?.mp inside
    obtain ⟨taker, whose⟩ := sound.taker_of_racer found
    cases ending : racer.ending? with
    | none =>
        obtain ⟨retries, locked, rfl⟩ := atRest whose found ending
        rfl
    | some _ =>
        cases sound.phase whose found with
        | took _ => rfl
        | gaveUp _ => rfl
        | refused _ _ => exact Racer.removed_of_unchosen rfl name
        | resting _ _ => cases ending
        | reserving _ _ _ => cases ending
        | releasing _ _ _ => cases ending
        | committing _ _ _ => cases ending
  have chosen : race.racers.countP (fun racer => racer.removed? name == some tuple) =
      race.racers.countP (fun racer => racer.machine.chosen? == some tuple) :=
    List.countP_congr fun racer inside => by rw [settled racer inside]
  omega

/-- While nothing is in transit, all replicas store the same tuples. -/
theorem stored_everywhere (atRest : race.AtRest takers names) {name other tuple : String}
    {space rival : Space} (here : race.replicas.lookup name = some space)
    (there : race.replicas.lookup other = some rival) (stored : tuple ∈ space.values) :
    tuple ∈ rival.values := by
  have sound := sound_of_reached distinct clients reached
  have known : ∀ {name : String} {space : Space}, race.replicas.lookup name = some space →
      name ∈ names ∧ race.copies name tuple = space.copies tuple := by
    intro name space target
    exact ⟨sound.named ▸ lookup_isSome.mp (by simp [target]), by simp [copies, target]⟩
  have first := copies_of_reached distinct clients reached atRest (known here).1 tuple
  have second := copies_of_reached distinct clients reached atRest (known there).1 tuple
  rw [(known here).2] at first
  rw [(known there).2] at second
  have some_ : 0 < space.copies tuple := List.count_pos_iff.mpr stored
  exact List.count_pos_iff.mp (show 0 < rival.copies tuple by omega)

theorem stored_from_start (atRest : race.AtRest takers names) {name tuple : String} {space : Space}
    (target : race.replicas.lookup name = some space) (stored : tuple ∈ space.values) :
    tuple ∈ tuples := by
  have sound := sound_of_reached distinct clients reached
  have known : name ∈ names := sound.named ▸ lookup_isSome.mp (by simp [target])
  have count := copies_of_reached distinct clients reached atRest known tuple
  have here : race.copies name tuple = space.copies tuple := by simp [copies, target]
  have some_ : 0 < space.copies tuple := List.count_pos_iff.mpr stored
  exact List.count_pos_iff.mp (by omega)

end

end Race

end TupleSpace
