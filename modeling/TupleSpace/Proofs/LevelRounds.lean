import TupleSpace.Proofs.LevelRace

/-!
# Rounds of a level race

A level race can be brought to rest. From there a take that nobody hinders ends when it is run
alone, and a take that holds something and can have more gets closer to holding all, ends, or
frees what it holds.
-/

namespace TupleSpace

open TupleSpace.Table

namespace Space

variable {space : Space} {taker : Taker}

theorem mem_holdings_after {tuple : String} (nothing : space.holdings taker.client = []) :
    tuple ∈ (space.after (.reserve taker.pattern taker.client)).holdings taker.client ↔
      taker.Fits tuple ∧ ∃ entry ∈ space.entries, entry.holder = none ∧ entry.value = tuple := by
  cases parsed : Pattern.parse taker.pattern with
  | error cause =>
      have same : space.after (.reserve taker.pattern taker.client) = space := by
        simp [after, answerTake, parsed]
      rw [same, nothing]
      simp [Taker.Fits, parsed]
  | ok pattern =>
      have next : space.after (.reserve taker.pattern taker.client) =
          (space.reserve pattern taker.client).2 := by
        simp [after, answerTake, parsed]
      rw [next, holdings_reserve_own _ _ _ (by simp [nothing]), Taker.fits_iff_hits parsed]
      simp only [reserve, List.mem_map, List.mem_filter, Entry.isReservable, Bool.and_eq_true,
        Bool.or_eq_true, Option.isNone_iff_eq_none, beq_iff_eq]
      constructor
      · rintro ⟨entry, ⟨member, free, hit⟩, rfl⟩
        exact ⟨hit, entry, member, free.resolve_right (not_held_of_nothing nothing member), rfl⟩
      · rintro ⟨hit, entry, member, free, rfl⟩
        exact ⟨entry, ⟨member, Or.inl free, hit⟩, rfl⟩

end Space

namespace Racer

/-- How far a racer that has locked something is from having locked everything. -/
def lack (total : Nat) (racer : Racer) : Nat :=
  if racer.machine.locked = [] then 0 else total + 1 - racer.machine.locked.length

end Racer

namespace Holdings

theorem reach_lt {names : List String} {held later : String → List String} {name : String}
    (kept : ∀ other ∈ names, held other ≠ [] → later other ≠ []) (known : name ∈ names)
    (nothing : held name = []) (gained : later name ≠ []) :
    reach names held < reach names later := by
  obtain ⟨before, behind, rfl⟩ := List.mem_iff_append.mp known
  have part : ∀ some_ : List String, (∀ other ∈ some_, other ∈ before ++ name :: behind) →
      some_.countP (fun other => !(held other).isEmpty) ≤
        some_.countP (fun other => !(later other).isEmpty) := by
    intro some_ inside
    apply List.countP_mono_left
    intro other member holds
    simpa using kept other (inside other member) (by simpa using holds)
  have left := part before fun other member => List.mem_append_left _ member
  have right := part behind fun other member =>
    List.mem_append_right _ (List.mem_cons_of_mem name member)
  simp [reach, List.countP_append, nothing, gained]
  omega

end Holdings

namespace Quorum

theorem classify_all {total : Nat} (positive : 0 < total) : classify total total = .full := by
  simp [classify, positive]

theorem classify_none (total : Nat) : classify 0 total = .minority := by
  unfold classify
  rw [if_neg (by omega), if_pos (by omega)]

theorem offered_of_common {names : List String} {held : String → List String} {tuple : String}
    (some_ : names ≠ []) (common : ∀ name ∈ names, tuple ∈ held name) :
    tuple ∈ offeredByAll (names.map held) := by
  cases names with
  | nil => exact absurd rfl some_
  | cons first rest =>
      rw [List.map_cons, offeredByAll, List.mem_filter, List.all_eq_true]
      refine ⟨common first List.mem_cons_self, ?_⟩
      intro offers member
      obtain ⟨name, later, rfl⟩ := List.mem_map.mp member
      simpa using common name (List.mem_cons_of_mem first later)

end Quorum

namespace Taker

variable {names : List String} {held : String → List String} {noted : Holdings}

/-- With a tuple held everywhere, a round leads to a removal. -/
theorem settled_of_common (taker : Taker) (retries : Nat) (exact : noted.Exact held)
    (distinct : names.Nodup) (outside : ∀ name, name ∉ names → held name = [])
    (some_ : names ≠ []) {tuple : String} (common : ∀ name ∈ names, tuple ∈ held name) :
    ∃ first, taker.settled names held retries noted =
      taker.committing names retries noted first names [] := by
  have whole : noted.length = names.length := by
    rw [exact.length_eq_reach distinct outside]
    refine List.countP_eq_length.mpr fun name known => ?_
    simpa using List.ne_nil_of_mem (common name known)
  have quorum : Quorum.classify noted.length names.length = .full :=
    whole ▸ Quorum.classify_all (whole ▸ List.length_pos_iff.mpr some_)
  have offered := Quorum.offered_of_common some_ common
  obtain ⟨first, others, offers⟩ := List.exists_cons_of_ne_nil (List.ne_nil_of_mem offered)
  unfold settled
  rw [quorum]
  dsimp only
  rw [offers]
  exact ⟨first, rfl⟩

/-- With nothing held anywhere, a round uses up a retry. -/
theorem settled_of_nothing (taker : Taker) (retries : Nat) (exact : noted.Exact held)
    (distinct : names.Nodup) (outside : ∀ name, name ∉ names → held name = [])
    (nothing : ∀ name ∈ names, held name = []) :
    taker.settled names held retries noted =
      taker.retreat names (retries + 1) (taker.policy.maxRetries ≤ retries + 1) noted
        (.backoff (retries + 1)) := by
  have none : noted.length = 0 := by
    rw [exact.length_eq_reach distinct outside]
    refine List.countP_eq_zero.mpr fun name member => ?_
    simp [nothing name member]
  unfold settled
  rw [none, Quorum.classify_none]

end Taker

namespace Phase

variable {taker : Taker} {names : List String} {held : String → List String}

/-- At rest a taker's notes are exact, and it has locked nothing or a majority short of all. -/
theorem exact_of_rest {retries : Nat} {locked : Holdings}
    (phase : Phase taker names held (taker.resting names retries locked)) :
    locked.Exact held ∧
      (locked = [] ∨ names.length < locked.length * 2 ∧ locked.length < names.length) := by
  generalize same : taker.resting names retries locked = racer at phase
  cases phase with
  | resting exact stable =>
      cases (congrArg (fun racer : Racer => racer.machine.locked) same : locked = _)
      exact ⟨exact, stable⟩
  | reserving _ _ _ => cases congrArg (fun racer : Racer => racer.machine.stage) same
  | releasing _ _ _ => cases congrArg (fun racer : Racer => racer.machine.stage) same
  | committing _ _ _ => cases congrArg (fun racer : Racer => racer.machine.stage) same
  | took _ => cases congrArg (fun racer : Racer => racer.machine.stage) same
  | gaveUp _ => cases congrArg (fun racer : Racer => racer.machine.stage) same
  | refused _ _ => cases congrArg (fun racer : Racer => racer.machine.stage) same

end Phase

namespace Race

def Idle (takers : List Taker) (names : List String) (race : Race) : Prop :=
  ∀ {index : Nat} {taker : Taker} {racer : Racer}, takers[index]? = some taker →
    race.racers[index]? = some racer → racer.ending? = none →
      ∃ retries, racer = taker.resting names retries []

theorem Idle.at_rest {takers : List Taker} {names : List String} {race : Race}
    (idle : race.Idle takers names) : race.AtRest takers names := by
  intro index taker racer whose found running
  obtain ⟨retries, same⟩ := idle whose found running
  exact ⟨retries, [], same⟩

theorem rest_of_held {takers : List Taker} {names : List String} {race : Race} {index : Nat}
    {taker : Taker} {racer : Racer} {name : String} (sound : race.Sound takers names)
    (atRest : race.AtRest takers names) (whose : takers[index]? = some taker)
    (found : race.racers[index]? = some racer) (holds : race.held taker.client name ≠ []) :
    ∃ retries locked, racer = taker.resting names retries locked ∧ locked ≠ [] ∧
      names.length < locked.length * 2 ∧ locked.length < names.length := by
  have phase := sound.phase whose found
  have running : racer.ending? = none := by
    by_contra stopped
    exact holds (phase.freed_of_ended (Option.isSome_iff_ne_none.mpr stopped) name)
  obtain ⟨retries, locked, rfl⟩ := atRest whose found running
  obtain ⟨exact, stable⟩ := phase.exact_of_rest
  have something : locked ≠ [] := by
    rintro rfl
    exact holds (exact.complete name rfl)
  exact ⟨retries, locked, rfl, something, stable.resolve_left something⟩

section

variable {names tuples : List String} {takers : List Taker} {race next : Race}
  {index : Nat} {taker : Taker} {racer : Racer}
  (distinct : names.Nodup) (clients : (takers.map (·.client)).Nodup)
  (reached : (level names tuples takers).Leads race)
include distinct clients reached

/-! ## Coming to rest -/

/-- All takes can be brought to rest, unless one of them ends on the way. -/
theorem rests_or_concludes :
    race.Concludes takers ∨ ∃ later, race.Leads later ∧ later.AtRest takers names := by
  have sound := sound_of_reached distinct clients reached
  have upTo : ∀ count : Nat, race.Concludes takers ∨ ∃ later, race.Leads later ∧
      ∀ index < count, ∀ (taker : Taker) (racer : Racer), takers[index]? = some taker →
        later.racers[index]? = some racer → racer.ending? = none →
          ∃ retries locked, racer = taker.resting names retries locked := by
    intro count
    induction count with
    | zero => exact Or.inr ⟨race, .refl, by simp⟩
    | succ count induction =>
        rcases induction with concludes | ⟨later, leads, rested⟩
        · exact Or.inl concludes
        · have sound_ := sound_leads distinct clients sound leads
          by_cases pending : ∃ taker racer, takers[count]? = some taker ∧
              later.racers[count]? = some racer ∧ racer.ending? = none
          · obtain ⟨taker, racer, whose, found, running⟩ := pending
            obtain ⟨final, last, onward, changed, outcome⟩ :=
              comes_to_rest distinct clients sound_ whose found running
            rcases outcome with ended | ⟨retries, locked, rfl⟩
            · exact Or.inl (concludes_of_leads distinct clients sound leads
                (concludes_of_attains distinct clients sound_ whose found running
                  ⟨final, last, onward, changed, ended⟩))
            · refine Or.inr ⟨final, leads.trans onward, ?_⟩
              intro index bound rival racing whose_ at_ running_
              rw [changed] at at_
              rcases racer_of_set whose whose_ at_ with ⟨rfl, rfl, rfl⟩ | ⟨different, at_⟩
              · exact ⟨retries, locked, rfl⟩
              · exact rested index (by omega) rival racing whose_ at_ running_
          · refine Or.inr ⟨later, leads, ?_⟩
            intro index bound taker racer whose found running
            by_cases same : index = count
            · subst index
              exact absurd ⟨taker, racer, whose, found, running⟩ pending
            · exact rested index (by omega) taker racer whose found running
  rcases upTo takers.length with concludes | ⟨later, leads, rested⟩
  · exact Or.inl concludes
  · refine Or.inr ⟨later, leads, ?_⟩
    intro index taker racer whose found running
    exact rested index (List.getElem?_eq_some_iff.mp whose).1 taker racer whose found running

theorem holder_of_entry (atRest : race.AtRest takers names) {name : String} {space : Space}
    {entry : Entry} {client : ClientId} (target : race.replicas.lookup name = some space)
    (member : entry ∈ space.entries) (held : entry.holder = some client) :
    ∃ (index : Nat) (taker : Taker) (retries : Nat) (locked : Holdings),
      takers[index]? = some taker ∧ taker.client = client ∧ taker.Fits entry.value ∧
        locked ≠ [] ∧ race.racers[index]? = some (taker.resting names retries locked) := by
  have sound := sound_of_reached distinct clients reached
  obtain ⟨taker, inside, rfl, fits⟩ :=
    (tended_of_reached distinct clients reached target).known entry member client held
  obtain ⟨index, whose⟩ := List.mem_iff_getElem?.mp inside
  obtain ⟨racer, found⟩ := sound.racer_of_taker whose
  have holds : race.held taker.client name ≠ [] := by
    rw [held_of_lookup target]
    exact List.ne_nil_of_mem (Space.mem_holdings.mpr ⟨entry, member, held, rfl⟩)
  obtain ⟨retries, locked, rfl, something, _⟩ := rest_of_held sound atRest whose found holds
  exact ⟨index, taker, retries, locked, whose, rfl, fits, something, found⟩

/-! ## A take that runs alone -/

theorem free_of_idle (idle : race.Idle takers names) {name : String} {space : Space}
    {entry : Entry} (target : race.replicas.lookup name = some space)
    (member : entry ∈ space.entries) : entry.holder = none := by
  by_contra held
  obtain ⟨client, held⟩ := Option.ne_none_iff_exists'.mp held
  obtain ⟨_, _, _, _, whose, _, _, something, found⟩ :=
    holder_of_entry distinct clients reached idle.at_rest target member held
  obtain ⟨_, same⟩ := idle whose found rfl
  exact something (congrArg (fun racer : Racer => racer.machine.locked) same)

/-- With nobody holding anything, a round that is run alone ends the take or uses up a retry. -/
theorem lone_round (idle : race.Idle takers names) {retries : Nat}
    (whose : takers[index]? = some taker)
    (found : race.racers[index]? = some (taker.resting names retries [])) :
    race.Attains index fun _ last => last.ending?.isSome = true ∨
      retries + 1 < taker.policy.maxRetries ∧ last = taker.resting names (retries + 1) [] := by
  have sound := sound_of_reached distinct clients reached
  refine (ask_round distinct clients sound whose found).trans
    (List.getElem?_eq_some_iff.mp found).1 ?_
  intro later last leads changed at_ outcome
  rcases outcome with ended | ⟨noted, rfl, exact, views⟩
  · exact Attains.here at_ (Or.inl ended)
  have sound_ := sound_leads distinct clients sound leads
  have outside := sound_.outside taker.client
  -- The take gets all that its pattern hits.
  have gets : ∀ {name space}, race.replicas.lookup name = some space → ∀ tuple,
      tuple ∈ later.held taker.client name ↔ taker.Fits tuple ∧ tuple ∈ space.values := by
    intro name space target tuple
    have nothing : space.holdings taker.client = [] := by
      rw [← held_of_lookup target]
      exact (sound.phase whose found).exact_of_rest.1.complete name rfl
    rw [views name space target, if_neg (by simp [Holdings.has]), Space.mem_holdings_after nothing]
    refine and_congr_right fun _ => ⟨?_, ?_⟩
    · rintro ⟨entry, member, _, rfl⟩
      exact List.mem_map.mpr ⟨entry, member, rfl⟩
    · intro stored
      obtain ⟨entry, member, rfl⟩ := List.mem_map.mp stored
      exact ⟨entry, member, free_of_idle distinct clients reached idle target member, rfl⟩
  by_cases some_ : ∃ name ∈ names, ∃ tuple, tuple ∈ later.held taker.client name
  · obtain ⟨name, member, tuple, got⟩ := some_
    have common : ∀ other ∈ names, tuple ∈ later.held taker.client other := by
      intro other known
      obtain ⟨space, target⟩ := sound.space_of_name member
      obtain ⟨rival, there⟩ := sound.space_of_name known
      have both := (gets target tuple).mp got
      exact (gets there tuple).mpr
        ⟨both.1, stored_everywhere distinct clients reached idle.at_rest target there both.2⟩
    obtain ⟨first, settles⟩ := taker.settled_of_common retries exact distinct outside
      (List.ne_nil_of_mem member) common
    rw [settles] at at_
    obtain ⟨final, end_, onward, altered, ended⟩ :=
      commit_ends distinct clients sound_ whose at_
    exact ⟨final, end_, onward, altered, Or.inl ended⟩
  · have nothing : ∀ name ∈ names, later.held taker.client name = [] := by
      intro name member
      rw [List.eq_nil_iff_forall_not_mem]
      exact fun tuple got => some_ ⟨name, member, tuple, got⟩
    rw [taker.settled_of_nothing retries exact distinct outside nothing] at at_
    obtain ⟨final, rested, onward, altered, outcome⟩ :=
      retreat_rests distinct clients sound_ whose at_
    refine ⟨final, rested, onward, altered, outcome.imp_right ?_⟩
    rintro ⟨patient, same⟩
    exact ⟨by simpa using patient, same⟩

theorem lone_concludes (idle : race.Idle takers names) {retries : Nat}
    (whose : takers[index]? = some taker)
    (found : race.racers[index]? = some (taker.resting names retries [])) :
    race.Attains index fun _ last => last.ending?.isSome = true := by
  induction patience : taker.policy.maxRetries - retries generalizing race retries with
  | zero =>
      obtain ⟨later, last, leads, changed, outcome⟩ :=
        lone_round distinct clients reached idle whose found
      exact ⟨later, last, leads, changed, outcome.resolve_right fun more => by omega⟩
  | succ patience induction =>
      refine (lone_round distinct clients reached idle whose found).trans
        (List.getElem?_eq_some_iff.mp found).1 ?_
      intro later last leads changed at_ outcome
      rcases outcome with ended | ⟨more, rfl⟩
      · exact Attains.here at_ ended
      · refine induction (reached.trans leads) ?_ at_ (by omega)
        intro other rival racing whose_ found_ running
        rw [changed] at found_
        rcases racer_of_set whose whose_ found_ with ⟨rfl, rfl, rfl⟩ | ⟨_, found_⟩
        · exact ⟨_, rfl⟩
        · exact idle whose_ found_ running

/-! ## Takes that hold something -/

/-- A round in which something can be had leaves less to be had, or less held. -/
theorem holder_round {retries : Nat} {locked : Holdings}
    {name : String} {space : Space} {entry : Entry} (whose : takers[index]? = some taker)
    (found : race.racers[index]? = some (taker.resting names retries locked))
    (something : locked ≠ []) (target : race.replicas.lookup name = some space)
    (nothing : space.holdings taker.client = []) (member : entry ∈ space.entries)
    (free : entry.holder = none) (fits : taker.Fits entry.value) :
    race.Attains index fun _ last => last.ending?.isSome = true ∨
      (∃ retries locked, last = taker.resting names retries locked) ∧
        last.lack names.length < (taker.resting names retries locked).lack names.length := by
  have sound := sound_of_reached distinct clients reached
  refine (ask_round distinct clients sound whose found).trans
    (List.getElem?_eq_some_iff.mp found).1 ?_
  intro later last leads changed at_ outcome
  rcases outcome with ended | ⟨noted, rfl, exact, views⟩
  · exact Attains.here at_ (Or.inl ended)
  have sound_ := sound_leads distinct clients sound leads
  have before := (sound.phase whose found).exact_of_rest.1
  have empty : race.held taker.client name = [] := (held_of_lookup target _).trans nothing
  have unlocked : locked.has name = false := by
    by_contra has
    exact (before.has_iff_held name).mp (by simpa using has) empty
  have known : name ∈ names := sound.named ▸ lookup_isSome.mp (by simp [target])
  -- What was held is kept, and at the one replica something is held for the first time.
  have kept : ∀ other ∈ names, race.held taker.client other ≠ [] →
      later.held taker.client other ≠ [] := by
    intro other inside held
    obtain ⟨rival, there⟩ := sound.space_of_name inside
    rw [views other rival there, if_pos ((before.has_iff_held other).mpr held),
      ← held_of_lookup there]
    exact held
  have gained : later.held taker.client name ≠ [] := by
    rw [views name space target, if_neg (by simp [unlocked])]
    exact List.ne_nil_of_mem ((Space.mem_holdings_after nothing).mpr
      ⟨fits, entry, member, free, rfl⟩)
  have grown : locked.length < noted.length := by
    rw [before.length_eq_reach distinct (sound.outside taker.client),
      exact.length_eq_reach distinct (sound_.outside taker.client)]
    exact Holdings.reach_lt kept known empty gained
  have bound : noted.length ≤ names.length := by
    rw [exact.length_eq_reach distinct (sound_.outside taker.client)]
    exact List.countP_le_length
  obtain ⟨final, rested, onward, altered, outcome⟩ :=
    settled_rests distinct clients sound_ whose at_
  refine ⟨final, rested, onward, altered, outcome.imp_right ?_⟩
  rintro ⟨count, left, rfl, nothing | rfl⟩
  · subst left
    refine ⟨⟨_, _, rfl⟩, ?_⟩
    simp [Racer.lack, Taker.resting, something]
    omega
  · refine ⟨⟨_, _, rfl⟩, ?_⟩
    have more : left ≠ [] := by
      rintro rfl
      simp at grown
    simp [Racer.lack, Taker.resting, something, more]
    omega

end

end Race

end TupleSpace
