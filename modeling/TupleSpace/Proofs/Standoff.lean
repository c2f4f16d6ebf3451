import Mathlib.Data.List.Count
import TupleSpace.Proofs.LevelRounds

/-!
# Standoffs between takes

Takes that race each other from equal spaces either get on, one of them at a time, or come to a
standoff: some of them rest with locks at more than half of the replicas, and each lacks only
what others of them hold. Nobody in a standoff ever lets go. It takes three takers for one, and
patterns that overlap without agreeing.
-/

namespace TupleSpace

open TupleSpace.Table

namespace Taker

/-- Two patterns hit a tuple in common, and only one of them another tuple. -/
def Entangled (takers : List Taker) (tuples : List String) : Prop :=
  ∃ first ∈ takers, ∃ second ∈ takers, ∃ shared ∈ tuples, ∃ other ∈ tuples,
    first.Fits shared ∧ second.Fits shared ∧ first.Fits other ∧ ¬second.Fits other

/-- Two takers that hit a tuple in common, and each another one, are entangled with a third that
tells these two apart. -/
theorem entangled_of_apart {takers : List Taker} {tuples : List String}
    {one other third : Taker} {shared left right : String} (among : one ∈ takers)
    (among_ : other ∈ takers) (inside : third ∈ takers) (sharedStart : shared ∈ tuples)
    (leftStart : left ∈ tuples) (rightStart : right ∈ tuples) (fitsShared : one.Fits shared)
    (fitsShared_ : other.Fits shared) (fitsLeft : one.Fits left) (fitsRight : other.Fits right)
    (apart : ¬(third.Fits left ↔ third.Fits right)) : Entangled takers tuples := by
  by_cases fits : other.Fits left
  · by_cases fits_ : one.Fits right
    · by_cases which : third.Fits left
      · exact ⟨one, among, third, inside, left, leftStart, right, rightStart, fitsLeft, which,
          fits_, fun also => apart ⟨fun _ => also, fun _ => which⟩⟩
      · have whole : third.Fits right := by
          by_contra neither
          exact apart ⟨fun some_ => absurd some_ which, fun some_ => absurd some_ neither⟩
        exact ⟨one, among, third, inside, right, rightStart, left, leftStart, fits_, whole,
          fitsLeft, which⟩
    · exact ⟨other, among_, one, among, shared, sharedStart, right, rightStart, fitsShared_,
        fitsShared, fitsRight, fits_⟩
  · exact ⟨one, among, other, among_, shared, sharedStart, left, leftStart, fitsShared,
      fitsShared_, fitsLeft, fits⟩

/-- A take between two rounds, or in one that gets it nothing more, with locks at a majority of
the replicas short of all. -/
def Waits (taker : Taker) (names : List String) (held : String → List String) (racer : Racer) :
    Prop :=
  ∃ retries locked, locked.Exact held ∧ names.length < locked.length * 2 ∧
    locked.length < names.length ∧
      (racer = taker.resting names retries locked ∨
        ∃ pending answered, (pending ++ answered).Perm (names.filter fun name => !locked.has name) ∧
          racer = taker.reserving names held retries locked pending answered)

end Taker

namespace Holdings

theorem Exact.something {held : String → List String} {locked : Holdings}
    (exact : locked.Exact held) (some_ : locked ≠ []) : ∃ name tuple, tuple ∈ held name := by
  obtain ⟨⟨name, tuples⟩, rest, rfl⟩ := List.exists_cons_of_ne_nil some_
  obtain ⟨filled, same⟩ := exact.told name tuples List.lookup_cons_self
  obtain ⟨tuple, member⟩ := List.exists_mem_of_ne_nil _ filled
  exact ⟨name, tuple, same ▸ member⟩

theorem Exact.lacks_somewhere {names : List String} {held : String → List String}
    {locked : Holdings} (exact : locked.Exact held) (distinct : names.Nodup)
    (outside : ∀ name, name ∉ names → held name = []) (short : locked.length < names.length) :
    ∃ name ∈ names, held name = [] := by
  rw [exact.length_eq_reach distinct outside] at short
  obtain ⟨name, member, nothing⟩ := List.countP_lt_length_iff.mp short
  exact ⟨name, member, by simpa using nothing⟩

theorem noted_of_nothing {offers : List (String × List String)} (holdings : Holdings)
    (nothing : ∀ offer ∈ offers, offer.2 = []) : holdings.noted offers = holdings := by
  induction offers with
  | nil => rfl
  | cons offer rest induction =>
      rw [noted, if_pos (nothing offer List.mem_cons_self)]
      exact induction fun other member => nothing other (List.mem_cons_of_mem offer member)

theorem reaches_meet {names : List String} {one other : String → List String}
    (most : names.length < reach names one * 2) (more : names.length < reach names other * 2) :
    ∃ name ∈ names, one name ≠ [] ∧ other name ≠ [] := by
  by_contra apart
  have rest : reach names other ≤ names.countP (fun name => ¬(!(one name).isEmpty) = true) := by
    apply List.countP_mono_left
    intro name member holds
    have missed : one name = [] := by
      by_contra held
      exact apart ⟨name, member, held, by simpa using holds⟩
    simp [missed]
  have total := List.length_eq_countP_add_countP (l := names) (fun name => !(one name).isEmpty)
  unfold reach at *
  omega

end Holdings

namespace Space

variable {space next : Space} {taker : Taker}

theorem reserve_blocked {pattern : Pattern} {client : ClientId}
    (blocked : ∀ entry ∈ space.entries, pattern.hits entry.value = true →
      ∃ other, other ≠ client ∧ entry.holder = some other) :
    space.reserve pattern client = ([], space) := by
  have none : ∀ entry ∈ space.entries, entry.isReservable pattern client = false := by
    intro entry member
    by_contra reservable
    simp only [Entry.isReservable, Bool.not_eq_false, Bool.and_eq_true, Bool.or_eq_true,
      Option.isNone_iff_eq_none, beq_iff_eq] at reservable
    obtain ⟨other, different, held⟩ := blocked entry member reservable.2
    rcases reservable.1 with free | own
    · rw [free] at held
      cases held
    · rw [own] at held
      exact different (Option.some.inj held).symm
  obtain ⟨entries⟩ := space
  simp only [reserve, Prod.mk.injEq, List.map_eq_nil_iff, List.filter_eq_nil_iff, mk.injEq]
  refine ⟨fun entry member => by simp [none entry member], ?_⟩
  conv_rhs => rw [← List.map_id entries]
  refine List.map_congr_left fun entry member => ?_
  rw [none entry member]
  rfl

theorem Answers.entries_kept {request : Request} {reply : Reply}
    (answers : space.Answers taker request reply next) :
    ∀ entry ∈ next.entries, ∃ old ∈ space.entries, old.value = entry.value ∧
      ∀ client, client ≠ taker.client → old.holder = some client → entry.holder = some client := by
  have same : ∀ entry ∈ space.entries, ∃ old ∈ space.entries, old.value = entry.value ∧
      ∀ client, client ≠ taker.client → old.holder = some client → entry.holder = some client :=
    fun entry member => ⟨entry, member, rfl, fun _ _ held => held⟩
  have freed : ∀ (old : Entry) (client : ClientId), client ≠ taker.client →
      old.holder = some client → (old.freedFrom taker.client).holder = some client := by
    intro old client different held
    rw [Entry.freed_from_holder, held, if_neg (by simpa using different)]
  cases answers with
  | @reserved pattern _ =>
      intro entry member
      obtain ⟨old, inside, rfl⟩ := List.mem_map.mp member
      refine ⟨old, inside, ?_, ?_⟩
      · split <;> rfl
      · intro client different held
        rw [if_neg, held]
        simp [Entry.isReservable, held, different]
  | invalid _ => exact same
  | released =>
      intro entry member
      obtain ⟨old, inside, rfl⟩ := List.mem_map.mp member
      exact ⟨old, inside, (old.freed_from_value _).symm, freed old⟩
  | committed done =>
      obtain ⟨before, found, behind, split, rfl, _⟩ := commit_split done
      intro entry member
      obtain ⟨old, inside, rfl⟩ := List.mem_map.mp member
      refine ⟨old, ?_, (old.freed_from_value _).symm, freed old⟩
      rw [split]
      simp only [List.mem_append, List.mem_cons] at inside ⊢
      exact inside.imp_right Or.inr
  | unheld _ => exact same

end Space

namespace Taker

variable {taker : Taker} {names : List String} {held : String → List String} {racer : Racer}

theorem Waits.running (waits : taker.Waits names held racer) : racer.ending? = none := by
  obtain ⟨_, _, _, _, _, rfl | ⟨_, _, _, rfl⟩⟩ := waits <;> rfl

/-- Rounds that get nothing more come back to rest with the same locks. -/
theorem Waits.step (waits : taker.Waits names held racer) (distinct : names.Nodup)
    (outside : ∀ name, name ∉ names → held name = []) (idle : racer.outbox = []) :
    taker.Waits names held racer.step.1 := by
  obtain ⟨retries, locked, exact, most, short, rfl | ⟨pending, answered, asked, rfl⟩⟩ := waits
  · rw [taker.step_resting names held]
    exact ⟨retries, locked, exact, most, short, Or.inr ⟨_, [], by simp, rfl⟩⟩
  · have none : pending = [] := List.map_eq_nil_iff.mp idle
    subst pending
    have all : answered.Perm (names.filter fun name => !locked.has name) := asked
    have nothing : locked.noted (answered.map fun name => (name, held name)) = locked := by
      apply Holdings.noted_of_nothing
      intro offer member
      obtain ⟨name, inside, rfl⟩ := List.mem_map.mp member
      have unlocked := (List.mem_filter.mp (all.mem_iff.mp inside)).2
      exact exact.complete name (by simpa [Holdings.has] using unlocked)
    have quorum : Quorum.classify locked.length names.length = .partialMajority := by
      unfold Quorum.classify
      rw [if_neg (by omega), if_neg (by omega)]
    rw [taker.step_reserving names retries exact.toFaithful distinct outside all, nothing, settled,
      quorum]
    exact ⟨retries, locked, exact, most, short, Or.inl rfl⟩

theorem Waits.deliver {position : Nat} {name : String} {request : Request} {space next : Space}
    {reply : Reply} (waits : taker.Waits names held racer)
    (fits : ∀ other, ∀ tuple ∈ held other, taker.Fits tuple)
    (parcel : racer.outbox[position]? = some (name, request))
    (here : held name = space.holdings taker.client)
    (blocked : space.holdings taker.client = [] → ∀ entry ∈ space.entries,
      taker.Fits entry.value → ∃ other, other ≠ taker.client ∧ entry.holder = some other)
    (answered : space.answerTake request = some (reply, next)) :
    next = space ∧ taker.Waits names held (racer.receive position name reply) := by
  obtain ⟨retries, locked, exact, most, short, rfl | ⟨pending, heard, asked, rfl⟩⟩ := waits
  · simp [resting] at parcel
  · obtain ⟨rfl, taken⟩ := Phase.parcel_pending parcel
    have unlocked : locked.has name = false := by
      have inside := asked.subset
        (List.mem_append_left heard (taken.mem_iff.mpr List.mem_cons_self))
      simpa using (List.mem_filter.mp inside).2
    have nothing : held name = [] := exact.complete name (by simpa [Holdings.has] using unlocked)
    obtain ⟨other, tuple, got⟩ := exact.something (List.length_pos_iff.mp (by omega))
    obtain ⟨pattern, parsed, _⟩ := fits other tuple got
    have stuck : space.reserve pattern taker.client = ([], space) := by
      refine Space.reserve_blocked fun entry member hit => ?_
      exact blocked (here ▸ nothing) entry member ((fits_iff_hits parsed _).mpr hit)
    simp only [Space.answerTake, parsed, stuck, Option.some.injEq, Prod.mk.injEq] at answered
    obtain ⟨rfl, rfl⟩ := answered
    refine ⟨rfl, retries, locked, exact, most, short,
      Or.inr ⟨pending.eraseIdx position, heard ++ [name], Phase.pending_moved asked taken, ?_⟩⟩
    simp [Racer.receive, reserving, List.eraseIdx_map, nothing]

end Taker

namespace Race

/-! ## Standoffs last -/

/-- Several takes rest with locks at a majority of the replicas short of all, and wherever one of
them holds nothing, some of them hold whatever its pattern hits. -/
structure Standoff (takers : List Taker) (names : List String) (members : List Taker)
    (race : Race) : Prop where
  known : members ⊆ takers
  several : ∃ one ∈ members, ∃ other ∈ members, one ≠ other
  resting : ∀ {index : Nat} {taker : Taker} {racer : Racer}, takers[index]? = some taker →
    race.racers[index]? = some racer → taker ∈ members →
      ∃ retries locked, racer = taker.resting names retries locked ∧
        names.length < locked.length * 2 ∧ locked.length < names.length
  blocked : ∀ taker ∈ members, ∀ {name : String} {space : Space},
    race.replicas.lookup name = some space → space.holdings taker.client = [] →
      ∀ entry ∈ space.entries, taker.Fits entry.value →
        ∃ other ∈ members, entry.holder = some other.client

/-- What a standoff becomes while its members go on asking for what they lack. -/
structure Frozen (takers : List Taker) (names : List String) (members : List Taker)
    (race : Race) : Prop where
  known : members ⊆ takers
  waits : ∀ {index : Nat} {taker : Taker} {racer : Racer}, takers[index]? = some taker →
    race.racers[index]? = some racer → taker ∈ members →
      taker.Waits names (race.held taker.client) racer
  blocked : ∀ taker ∈ members, ∀ {name : String} {space : Space},
    race.replicas.lookup name = some space → space.holdings taker.client = [] →
      ∀ entry ∈ space.entries, taker.Fits entry.value →
        ∃ other ∈ members, entry.holder = some other.client

def lack (total : Nat) (race : Race) : Nat :=
  race.racers.foldr (fun racer rest => racer.lack total + rest) 0

def Starves (takers members : List Taker) (race : Race) : Prop :=
  ∀ later, race.Leads later → ∀ (index : Nat) (taker : Taker) (racer : Racer),
    takers[index]? = some taker → taker ∈ members → later.racers[index]? = some racer →
      racer.ending? = none

variable {takers members : List Taker} {names : List String} {race next : Race}

theorem Standoff.frozen (standoff : race.Standoff takers names members)
    (sound : race.Sound takers names) : race.Frozen takers names members := by
  refine ⟨standoff.known, ?_, standoff.blocked⟩
  intro index taker racer whose found member
  obtain ⟨retries, locked, rfl, most, short⟩ := standoff.resting whose found member
  exact ⟨retries, locked, (sound.phase whose found).exact_of_rest.1, most, short, Or.inl rfl⟩

theorem frozen_deliver_member {index position : Nat} {taker : Taker} {racer : Racer}
    {name : String} {request : Request} {space left : Space} {reply : Reply}
    (distinct : names.Nodup) (sound : race.Sound takers names)
    (frozen : race.Frozen takers names members) (whose : takers[index]? = some taker)
    (member : taker ∈ members) (found : race.racers[index]? = some racer)
    (parcel : racer.outbox[position]? = some (name, request))
    (target : race.replicas.lookup name = some space)
    (answered : space.answerTake request = some (reply, left)) :
    Frozen takers names members ⟨place name left race.replicas,
      race.racers.set index (racer.receive position name reply)⟩ := by
  have others : space.holdings taker.client = [] → ∀ entry ∈ space.entries,
      taker.Fits entry.value → ∃ other, other ≠ taker.client ∧ entry.holder = some other := by
    intro nothing entry stored fits
    obtain ⟨rival, _, held⟩ := frozen.blocked taker member target nothing entry stored fits
    refine ⟨rival.client, fun same => ?_, held⟩
    exact Space.not_held_of_nothing nothing stored (same ▸ held)
  obtain ⟨rfl, waits⟩ := (frozen.waits whose found member).deliver
    (sound.fits taker (List.mem_of_getElem? whose)) parcel (held_of_lookup target taker.client)
    others answered
  rw [place_found (sound.named ▸ distinct) target]
  refine ⟨frozen.known, ?_, frozen.blocked⟩
  intro other rival racing whose_ at_ among
  rcases racer_of_set whose whose_ at_ with ⟨rfl, rfl, rfl⟩ | ⟨_, at_⟩
  · exact waits
  · exact frozen.waits whose_ at_ among

theorem frozen_deliver_other {index position : Nat} {taker : Taker} {racer : Racer}
    {name : String} {request : Request} {space left : Space} {reply : Reply}
    (clients : (takers.map (·.client)).Nodup) (frozen : race.Frozen takers names members)
    (whose : takers[index]? = some taker) (member : taker ∉ members)
    (target : race.replicas.lookup name = some space)
    (answers : space.Answers taker request reply left) :
    Frozen takers names members ⟨place name left race.replicas,
      race.racers.set index (racer.receive position name reply)⟩ := by
  have inside := List.mem_of_getElem? whose
  have apart : ∀ rival ∈ members, taker.client ≠ rival.client := by
    intro rival among same
    have equal := List.inj_on_of_nodup_map clients inside (frozen.known among) same
    exact member (equal ▸ among)
  have view : ∀ rival ∈ members, held ⟨place name left race.replicas,
      race.racers.set index (racer.receive position name reply)⟩ rival.client =
        race.held rival.client := fun rival among =>
    held_place_same target _ (answers.holdings_other (apart rival among))
  refine ⟨frozen.known, ?_, ?_⟩
  · intro other rival racing whose_ at_ among
    rcases racer_of_set whose whose_ at_ with ⟨rfl, rfl, rfl⟩ | ⟨_, at_⟩
    · exact absurd among member
    · rw [view rival among]
      exact frozen.waits whose_ at_ among
  · intro rival among other stored there nothing entry inside_ fits
    rw [lookup_place] at there
    split at there
    · rename_i same
      subst other
      rw [target, Option.map_some, Option.some.injEq] at there
      subst stored
      rw [answers.holdings_other (apart rival among)] at nothing
      obtain ⟨old, before, value, kept⟩ := answers.entries_kept entry inside_
      obtain ⟨holder, amid, held⟩ :=
        frozen.blocked rival among target nothing old before (value ▸ fits)
      exact ⟨holder, amid, kept holder.client (apart holder amid).symm held⟩
    · exact frozen.blocked rival among there nothing entry inside_ fits

theorem frozen_moves {event : RaceEvent} {sight : RaceSight} (distinct : names.Nodup)
    (clients : (takers.map (·.client)).Nodup) (sound : race.Sound takers names)
    (frozen : race.Frozen takers names members)
    (outward : ∀ replica tuple, event ≠ .insert replica tuple)
    (moves : race.Moves event sight next) : next.Frozen takers names members := by
  cases moves with
  | @deliver index position racer name request space left reply found running parcel target
      answered =>
      obtain ⟨taker, whose⟩ := sound.taker_of_racer found
      by_cases member : taker ∈ members
      · exact frozen_deliver_member distinct sound frozen whose member found parcel target
          answered
      · have asks := (sound.phase whose found).asks running (List.mem_of_getElem? parcel)
        exact frozen_deliver_other clients frozen whose member target
          (Space.answers_of_answer asks answered)
  | @step index racer found running idle =>
      obtain ⟨taker, whose⟩ := sound.taker_of_racer found
      refine ⟨frozen.known, ?_, frozen.blocked⟩
      intro other rival racing whose_ at_ member
      rcases racer_of_set whose whose_ at_ with ⟨rfl, rfl, rfl⟩ | ⟨_, at_⟩
      · exact (frozen.waits whose found member).step distinct (sound.outside rival.client) idle
      · exact frozen.waits whose_ at_ member
  | insert _ => exact absurd rfl (outward _ _)

theorem Standoff.starves (standoff : race.Standoff takers names members) (distinct : names.Nodup)
    (clients : (takers.map (·.client)).Nodup) (sound : race.Sound takers names) :
    race.Starves takers members := by
  have lasts : ∀ later, race.Leads later → later.Frozen takers names members := by
    intro later leads
    induction leads with
    | refl => exact standoff.frozen sound
    | tail earlier advances frozen =>
        have sound_ := sound_leads distinct clients sound earlier
        obtain ⟨event, sight, outward, performed⟩ := advances
        exact frozen_moves distinct clients sound_ frozen outward
          (moves_of_perform (sound_.named ▸ distinct) performed)
  intro later leads index taker racer whose member found
  exact ((lasts later leads).waits whose found member).running

/-! ## What a standoff takes -/

theorem Standoff.locks {taker : Taker} (standoff : race.Standoff takers names members)
    (sound : race.Sound takers names) (member : taker ∈ members) :
    ∃ locked : Holdings, locked.Exact (race.held taker.client) ∧
      names.length < locked.length * 2 ∧ locked.length < names.length := by
  obtain ⟨index, whose⟩ := List.mem_iff_getElem?.mp (standoff.known member)
  obtain ⟨racer, found⟩ := sound.racer_of_taker whose
  obtain ⟨retries, locked, rfl, most, short⟩ := standoff.resting whose found member
  exact ⟨locked, (sound.phase whose found).exact_of_rest.1, most, short⟩

section

variable {tuples : List String} {taker : Taker} (distinct : names.Nodup)
  (clients : (takers.map (·.client)).Nodup)
  (reached : (level names tuples takers).Leads race)
include distinct clients reached

/-- Where a taker lacks a tuple that it holds elsewhere, another one holds it, if all that its
pattern hits is held there. -/
theorem rival_of_blocked (atRest : race.AtRest takers names) (known : taker ∈ takers)
    {locked : Holdings} (exact : locked.Exact (race.held taker.client))
    (short : locked.length < names.length) {name tuple : String}
    (holds : tuple ∈ race.held taker.client name)
    (blocked : ∀ {name : String} {space : Space}, race.replicas.lookup name = some space →
      space.holdings taker.client = [] → ∀ entry ∈ space.entries, taker.Fits entry.value →
        ∃ other ∈ members, entry.holder = some other.client) :
    ∃ rival ∈ members, rival ≠ taker ∧ ∃ other, tuple ∈ race.held rival.client other := by
  have sound := sound_of_reached distinct clients reached
  obtain ⟨other, inside, nothing⟩ :=
    exact.lacks_somewhere distinct (sound.outside taker.client) short
  obtain ⟨space, target⟩ := sound.space_of_name inside
  obtain ⟨source, there, stored⟩ := stored_of_held holds
  have here := stored_everywhere distinct clients reached atRest there target stored
  obtain ⟨entry, present, rfl⟩ := List.mem_map.mp here
  rw [held_of_lookup target] at nothing
  obtain ⟨rival, among, held⟩ := blocked target nothing entry present
    (sound.fits taker known name _ holds)
  refine ⟨rival, among, ?_, other, ?_⟩
  · rintro rfl
    exact Space.not_held_of_nothing nothing present held
  · rw [held_of_lookup target]
    exact Space.mem_holdings.mpr ⟨entry, present, held, rfl⟩

theorem Standoff.overlap (standoff : race.Standoff takers names members)
    (atRest : race.AtRest takers names) (member : taker ∈ members) {name tuple : String}
    (holds : tuple ∈ race.held taker.client name) :
    ∃ rival ∈ members, rival ≠ taker ∧ rival.Fits tuple := by
  have sound := sound_of_reached distinct clients reached
  have known := standoff.known member
  obtain ⟨locked, exact, _, short⟩ := standoff.locks sound member
  obtain ⟨rival, among, different, other, got⟩ := rival_of_blocked distinct clients reached atRest
    known exact short holds (standoff.blocked taker member)
  exact ⟨rival, among, different, sound.fits rival (standoff.known among) other tuple got⟩

theorem told_apart {one other : Taker} (among : one ∈ takers) (among_ : other ∈ takers)
    (different : other ≠ one) {name left right : String} (known : name ∈ names)
    (held : left ∈ race.held one.client name) (held_ : right ∈ race.held other.client name) :
    ∃ third ∈ takers, ¬(third.Fits left ↔ third.Fits right) := by
  have sound := sound_of_reached distinct clients reached
  by_contra confused
  obtain ⟨space, target⟩ := sound.space_of_name known
  rw [held_of_lookup target] at held held_
  obtain ⟨entry, inside, holder, rfl⟩ := Space.mem_holdings.mp held
  obtain ⟨entry_, inside_, holder_, rfl⟩ := Space.mem_holdings.mp held_
  have same := (tended_of_reached distinct clients reached target).alike entry inside entry_
    inside_ fun taker member => by_contra fun apart => confused ⟨taker, member, apart⟩
  rw [holder, holder_, Option.some.injEq] at same
  exact different (List.inj_on_of_nodup_map clients among among_ same).symm

theorem Standoff.three_or_more (standoff : race.Standoff takers names members)
    (atRest : race.AtRest takers names) {one other third : Taker} (first : one ∈ members)
    (second : other ∈ members) (different : other ≠ one) {name left right : String}
    (held : left ∈ race.held one.client name) (held_ : right ∈ race.held other.client name)
    (inside : third ∈ takers) (apart : ¬(third.Fits left ↔ third.Fits right)) :
    3 ≤ takers.length := by
  have sound := sound_of_reached distinct clients reached
  have among := standoff.known first
  have among_ := standoff.known second
  by_contra few
  have only : ∀ taker ∈ takers, taker = one ∨ taker = other := by
    intro taker member
    by_contra neither
    rw [not_or] at neither
    have three : [taker, one, other].Nodup := by simp [neither.1, neither.2, different.symm]
    have sub : [taker, one, other] ⊆ takers := by simp [member, among, among_]
    have size := (List.subperm_of_subset three sub).length_le
    simp only [List.length_cons, List.length_nil] at size
    omega
  -- With nobody else in the race, each holds only what the other's pattern hits too.
  obtain ⟨rival, amid, not_, fits⟩ := standoff.overlap distinct clients reached atRest first held
  obtain ⟨rival_, amid_, not', fits_⟩ :=
    standoff.overlap distinct clients reached atRest second held_
  have rivals : rival = other := (only rival (standoff.known amid)).resolve_left not_
  have rivals_ : rival_ = one := (only rival_ (standoff.known amid_)).resolve_right not'
  subst rival rival_
  rcases only third inside with rfl | rfl
  · exact apart ⟨fun _ => fits_, fun _ => sound.fits third among name left held⟩
  · exact apart ⟨fun _ => sound.fits third among_ name right held_, fun _ => fits⟩

/-- A standoff takes three takers, and two patterns that overlap without agreeing. -/
theorem Standoff.entangled (standoff : race.Standoff takers names members)
    (atRest : race.AtRest takers names) :
    3 ≤ takers.length ∧ Taker.Entangled takers tuples := by
  have sound := sound_of_reached distinct clients reached
  obtain ⟨one, first, _⟩ := standoff.several
  obtain ⟨locked, exact, most, short⟩ := standoff.locks sound first
  obtain ⟨name, shared, holds⟩ := exact.something (List.length_pos_iff.mp (by omega))
  obtain ⟨other, second, different, fitsShared⟩ :=
    standoff.overlap distinct clients reached atRest first holds
  obtain ⟨rivalLocked, exact_, more, _⟩ := standoff.locks sound second
  rw [exact.length_eq_reach distinct (sound.outside one.client)] at most
  rw [exact_.length_eq_reach distinct (sound.outside other.client)] at more
  -- The two majorities meet at a replica, where each of the two holds something of its own.
  obtain ⟨meet, known, mine, yours⟩ := Holdings.reaches_meet most more
  obtain ⟨left, held⟩ := List.exists_mem_of_ne_nil _ mine
  obtain ⟨right, held_⟩ := List.exists_mem_of_ne_nil _ yours
  have among := standoff.known first
  have among_ := standoff.known second
  have start : ∀ {client name tuple}, tuple ∈ race.held client name → tuple ∈ tuples := by
    intro client name tuple inside
    obtain ⟨space, target, stored⟩ := stored_of_held inside
    exact stored_from_start distinct clients reached atRest target stored
  obtain ⟨third, inside, apart⟩ :=
    told_apart distinct clients reached among among_ different known held held_
  exact ⟨standoff.three_or_more distinct clients reached atRest first second different held held_
    inside apart,
    Taker.entangled_of_apart among among_ inside (start holds) (start held) (start held_)
      (sound.fits one among name shared holds) fitsShared (sound.fits one among meet left held)
      (sound.fits other among_ meet right held_) apart⟩

/-! ## Getting on -/

omit distinct clients reached in
theorem lack_set {racers : List Racer} {index : Nat} {racer : Racer}
    (found : racers[index]? = some racer) (next : Racer) (total : Nat) :
    (racers.set index next).foldr (fun racer rest => racer.lack total + rest) 0 +
        racer.lack total =
      racers.foldr (fun racer rest => racer.lack total + rest) 0 + next.lack total := by
  induction racers generalizing index with
  | nil => simp at found
  | cons first rest induction =>
      cases index with
      | zero =>
          simp only [List.getElem?_cons_zero, Option.some.injEq] at found
          subst first
          simp only [List.set_cons_zero, List.foldr_cons]
          omega
      | succ index =>
          have later : rest[index]? = some racer := by simpa using found
          have tail := induction later
          simp only [List.set_cons_succ, List.foldr_cons]
          omega

/-- Where no take that holds something can have more, those that hold something stand off. -/
theorem standoff_of_stuck (atRest : race.AtRest takers names) {index retries : Nat}
    {locked : Holdings} (whose : takers[index]? = some taker)
    (found : race.racers[index]? = some (taker.resting names retries locked))
    (something : locked ≠ [])
    (stuck : ∀ {index : Nat} {taker : Taker} {retries : Nat} {locked : Holdings} {name : String}
      {space : Space}, takers[index]? = some taker →
        race.racers[index]? = some (taker.resting names retries locked) → locked ≠ [] →
          race.replicas.lookup name = some space → space.holdings taker.client = [] →
            ∀ entry ∈ space.entries, taker.Fits entry.value → entry.holder ≠ none) :
    ∃ members, race.Standoff takers names members := by
  have sound := sound_of_reached distinct clients reached
  -- The members are those that hold something anywhere.
  let members := takers.filter fun taker =>
    names.any fun name => !(race.held taker.client name).isEmpty
  have member_iff : ∀ taker, taker ∈ members ↔
      taker ∈ takers ∧ ∃ name ∈ names, race.held taker.client name ≠ [] := by
    simp [members]
  have rests : ∀ {index : Nat} {taker : Taker} {racer : Racer}, takers[index]? = some taker →
      race.racers[index]? = some racer → taker ∈ members →
        ∃ retries locked, racer = taker.resting names retries locked ∧ locked ≠ [] ∧
          names.length < locked.length * 2 ∧ locked.length < names.length := by
    intro index taker racer whose found member
    obtain ⟨_, name, _, holds⟩ := (member_iff taker).mp member
    exact rest_of_held sound atRest whose found holds
  have blocked : ∀ taker ∈ members, ∀ {name : String} {space : Space},
      race.replicas.lookup name = some space → space.holdings taker.client = [] →
        ∀ entry ∈ space.entries, taker.Fits entry.value →
          ∃ other ∈ members, entry.holder = some other.client := by
    intro taker member name space target nothing entry stored fits
    obtain ⟨index, whose⟩ := List.mem_iff_getElem?.mp ((member_iff taker).mp member).1
    obtain ⟨racer, found⟩ := sound.racer_of_taker whose
    obtain ⟨retries, locked, rfl, some_, _⟩ := rests whose found member
    obtain ⟨client, held⟩ := Option.ne_none_iff_exists'.mp
      (stuck whose found some_ target nothing entry stored fits)
    obtain ⟨rival, inside, rfl, _⟩ :=
      (tended_of_reached distinct clients reached target).known entry stored client held
    refine ⟨rival, (member_iff rival).mpr ⟨inside, name, ?_, ?_⟩, held⟩
    · exact sound.named ▸ lookup_isSome.mp (by simp [target])
    · rw [held_of_lookup target]
      exact List.ne_nil_of_mem (Space.mem_holdings.mpr ⟨entry, stored, held, rfl⟩)
  refine ⟨members, fun taker member => ((member_iff taker).mp member).1, ?_, ?_, blocked⟩
  · obtain ⟨exact, stable⟩ := (sound.phase whose found).exact_of_rest
    obtain ⟨name, tuple, holds⟩ := exact.something something
    obtain ⟨source, there, _⟩ := stored_of_held holds
    have known : name ∈ names := sound.named ▸ lookup_isSome.mp (by simp [there])
    have inside := List.mem_of_getElem? whose
    have member : taker ∈ members :=
      (member_iff taker).mpr ⟨inside, name, known, List.ne_nil_of_mem holds⟩
    obtain ⟨rival, among, different, _⟩ := rival_of_blocked distinct clients reached atRest inside
      exact (stable.resolve_left something).2 holds (blocked taker member)
    exact ⟨taker, member, rival, among, different.symm⟩
  · intro index taker racer whose found member
    obtain ⟨retries, locked, same, _, bounds⟩ := rests whose found member
    exact ⟨retries, locked, same, bounds⟩

theorem rest_gets_on (atRest : race.AtRest takers names)
    (unfinished : ∃ racer ∈ race.racers, racer.ending? = none) :
    race.Concludes takers ∨
      ∃ later members, race.Leads later ∧ later.AtRest takers names ∧
        later.Standoff takers names members := by
  -- On what the takes that hold something still lack in all.
  induction distance : race.lack names.length using Nat.strongRecOn generalizing race with
  | _ measure induction =>
      have sound := sound_of_reached distinct clients reached
      by_cases holder : ∃ (index : Nat) (taker : Taker) (retries : Nat) (locked : Holdings),
          takers[index]? = some taker ∧
            race.racers[index]? = some (taker.resting names retries locked) ∧ locked ≠ []
      -- Whoever can have more comes closer by a round; if none of them can, they stand off.
      · by_cases more : ∃ (index : Nat) (taker : Taker) (retries : Nat) (locked : Holdings)
            (name : String) (space : Space), takers[index]? = some taker ∧
              race.racers[index]? = some (taker.resting names retries locked) ∧ locked ≠ [] ∧
                race.replicas.lookup name = some space ∧ space.holdings taker.client = [] ∧
                  ∃ entry ∈ space.entries, taker.Fits entry.value ∧ entry.holder = none
        · obtain ⟨index, taker, retries, locked, name, space, whose, found, something, target,
            nothing, entry, member, fits, free⟩ := more
          obtain ⟨later, last, leads, changed, outcome⟩ := holder_round distinct clients reached
            whose found something target nothing member free fits
          rcases outcome with ended | ⟨⟨count, left, rfl⟩, closer⟩
          · exact Or.inl (concludes_of_attains distinct clients sound whose found rfl
              ⟨later, last, leads, changed, ended⟩)
          · have at_ : later.racers[index]? = some (taker.resting names count left) := by
              rw [changed, List.getElem?_set_self (List.getElem?_eq_some_iff.mp found).1]
            have rested : later.AtRest takers names := by
              intro other rival racer whose_ found_ running
              rw [changed] at found_
              rcases racer_of_set whose whose_ found_ with ⟨rfl, rfl, rfl⟩ | ⟨_, found_⟩
              · exact ⟨count, left, rfl⟩
              · exact atRest whose_ found_ running
            have less : later.lack names.length < measure := by
              have total := lack_set found (taker.resting names count left) names.length
              rw [← changed] at total
              unfold Race.lack at distance ⊢
              omega
            rcases induction _ less (reached.trans leads) rested
              ⟨_, List.mem_of_getElem? at_, rfl⟩ rfl with
              concludes | ⟨final, members, onward, standoff⟩
            · exact Or.inl (concludes_of_leads distinct clients sound leads concludes)
            · exact Or.inr ⟨final, members, leads.trans onward, standoff⟩
        · obtain ⟨index, taker, retries, locked, whose, found, something⟩ := holder
          obtain ⟨members, standoff⟩ := standoff_of_stuck distinct clients reached atRest whose
            found something fun whose found something target nothing entry member fits free =>
              more ⟨_, _, _, _, _, _, whose, found, something, target, nothing, entry, member, fits,
                free⟩
          exact Or.inr ⟨race, members, .refl, atRest, standoff⟩
      · have idle : race.Idle takers names := by
          intro index taker racer whose found running
          obtain ⟨retries, locked, rfl⟩ := atRest whose found running
          by_cases nothing : locked = []
          · exact ⟨retries, nothing ▸ rfl⟩
          · exact absurd ⟨index, taker, retries, locked, whose, found, nothing⟩ holder
        obtain ⟨racer, member, running⟩ := unfinished
        obtain ⟨index, found⟩ := List.mem_iff_getElem?.mp member
        obtain ⟨taker, whose⟩ := sound.taker_of_racer found
        obtain ⟨retries, rfl⟩ := idle whose found running
        exact Or.inl (concludes_of_attains distinct clients sound whose found rfl
          (lone_concludes distinct clients reached idle whose found))

/-- In a level race with a take that has not ended, some continuation ends a take, unless three
takers or more with entangled patterns are in it; then one may lead to a standoff instead, whose
members no continuation ends. -/
theorem gets_on_or_stands_off (unfinished : ∃ racer ∈ race.racers, racer.ending? = none) :
    race.Concludes takers ∨
      3 ≤ takers.length ∧ Taker.Entangled takers tuples ∧
        ∃ later members, race.Leads later ∧ later.Standoff takers names members ∧
          later.Starves takers members := by
  have sound := sound_of_reached distinct clients reached
  rcases rests_or_concludes distinct clients reached with concludes | ⟨later, leads, atRest⟩
  · exact Or.inl concludes
  · have reached_ := reached.trans leads
    have sound_ := sound_of_reached distinct clients reached_
    by_cases still : ∃ racer ∈ later.racers, racer.ending? = none
    · rcases rest_gets_on distinct clients reached_ atRest still with
        concludes | ⟨final, members, onward, resting, standoff⟩
      · exact Or.inl (concludes_of_leads distinct clients sound leads concludes)
      · have ended := reached_.trans onward
        obtain ⟨three, entangled⟩ := standoff.entangled distinct clients ended resting
        exact Or.inr ⟨three, entangled, final, members, leads.trans onward, standoff,
          standoff.starves distinct clients (sound_of_reached distinct clients ended)⟩
    · obtain ⟨racer, member, running⟩ := unfinished
      obtain ⟨index, found⟩ := List.mem_iff_getElem?.mp member
      obtain ⟨taker, whose⟩ := sound.taker_of_racer found
      obtain ⟨last, at_⟩ := sound_.racer_of_taker whose
      obtain ⟨ending, ended⟩ := Option.ne_none_iff_exists'.mp
        fun none => still ⟨last, List.mem_of_getElem? at_, none⟩
      exact Or.inl ⟨later, index, taker, racer, last, ending, leads, whose, found, running, at_, ended,
        (sound_.phase whose at_).ends_with ended⟩

end

/-- Two takers, each with part of the replicas locked, do not block one another for ever. -/
theorem gets_on_of_pair :
    ∃ race, (level ["A", "B", "C"] ["<a>", "<b>"]
        [⟨⟨1⟩, "<a>", ⟨5, false⟩⟩, ⟨⟨2⟩, "<.>", ⟨5, false⟩⟩]).Leads race ∧
      race.held ⟨1⟩ "A" = ["<a>"] ∧ race.held ⟨2⟩ "B" = ["<a>", "<b>"] ∧
        race.Concludes [⟨⟨1⟩, "<a>", ⟨5, false⟩⟩, ⟨⟨2⟩, "<.>", ⟨5, false⟩⟩] := by
  let pair : List Taker := [⟨⟨1⟩, "<a>", ⟨5, false⟩⟩, ⟨⟨2⟩, "<.>", ⟨5, false⟩⟩]
  have done : ((level ["A", "B", "C"] ["<a>", "<b>"] pair).replay?
      [.step 0, .step 1, .deliver 0 0, .deliver 1 1]).map (fun last =>
        (last.2.held ⟨1⟩ "A", last.2.held ⟨2⟩ "B", last.2.racers.map (·.ending?))) =
          some (["<a>"], ["<a>", "<b>"], [none, none]) := by
    decide +kernel
  obtain ⟨⟨log, race⟩, replayed, views⟩ := Option.map_eq_some_iff.mp done
  have reached : (level ["A", "B", "C"] ["<a>", "<b>"] pair).Leads race :=
    leads_of_replay (by simp) replayed
  simp only [Prod.mk.injEq] at views
  obtain ⟨first, second, running⟩ := views
  refine ⟨race, reached, first, second, ?_⟩
  have unfinished : ∃ racer ∈ race.racers, racer.ending? = none :=
    List.mem_map.mp (running ▸ List.mem_cons_self)
  rcases gets_on_or_stands_off (by decide) (by decide) reached unfinished with
    concludes | ⟨three, _⟩
  · exact concludes
  · exact absurd three (by decide)

/-- Three takers of two tuples at three replicas can each lock two replicas and block one another
for ever: no continuation ends any of them. -/
theorem stuck_of_three :
    ∃ race, (level ["A", "B", "C"] ["<a>", "<b>"]
        [⟨⟨1⟩, "<a>", ⟨1, false⟩⟩, ⟨⟨2⟩, "<b>", ⟨1, false⟩⟩, ⟨⟨3⟩, "<.>", ⟨1, false⟩⟩]).Leads race ∧
      (∃ racer ∈ race.racers, racer.ending? = none) ∧
        ¬race.Concludes
          [⟨⟨1⟩, "<a>", ⟨1, false⟩⟩, ⟨⟨2⟩, "<b>", ⟨1, false⟩⟩, ⟨⟨3⟩, "<.>", ⟨1, false⟩⟩] := by
  let takers : List Taker :=
    [⟨⟨1⟩, "<a>", ⟨1, false⟩⟩, ⟨⟨2⟩, "<b>", ⟨1, false⟩⟩, ⟨⟨3⟩, "<.>", ⟨1, false⟩⟩]
  let names := ["A", "B", "C"]
  let first := Taker.resting ⟨⟨1⟩, "<a>", ⟨1, false⟩⟩ names 0 [("A", ["<a>"]), ("C", ["<a>"])]
  let second := Taker.resting ⟨⟨2⟩, "<b>", ⟨1, false⟩⟩ names 0 [("A", ["<b>"]), ("B", ["<b>"])]
  let third := Taker.resting ⟨⟨3⟩, "<.>", ⟨1, false⟩⟩ names 0 [("B", ["<a>"]), ("C", ["<b>"])]
  let race : Race :=
    { replicas :=
        [("A", ⟨[⟨"<a>", some ⟨1⟩⟩, ⟨"<b>", some ⟨2⟩⟩]⟩),
          ("B", ⟨[⟨"<a>", some ⟨3⟩⟩, ⟨"<b>", some ⟨2⟩⟩]⟩),
          ("C", ⟨[⟨"<a>", some ⟨1⟩⟩, ⟨"<b>", some ⟨3⟩⟩]⟩)]
      racers := [first, second, third] }
  have done : ((level names ["<a>", "<b>"] takers).replay?
      [.step 0, .step 1, .step 2, .deliver 0 0, .deliver 1 0, .deliver 1 0, .deliver 2 1,
        .deliver 0 1, .deliver 2 1, .deliver 0 0, .deliver 1 0, .deliver 2 0, .step 0, .step 1,
        .step 2]).map (·.2) = some race := by
    decide +kernel
  obtain ⟨⟨log, last⟩, replayed, same⟩ := Option.map_eq_some_iff.mp done
  have reached : (level names ["<a>", "<b>"] takers).Leads race :=
    same ▸ leads_of_replay (by simp) replayed
  have distinct : names.Nodup := by decide
  have clients : (takers.map (·.client)).Nodup := by decide
  have standoff : race.Standoff takers names takers := by
    refine ⟨List.Subset.refl _, by decide, ?_, ?_⟩
    · intro index taker racer whose found _
      match index with
      | 0 | 1 | 2 =>
          cases whose
          cases found
          exact ⟨0, _, rfl, by decide, by decide⟩
      | _ + 3 => cases whose
    · have held : ∀ replica ∈ race.replicas, ∀ entry ∈ replica.2.entries,
          ∃ other ∈ takers, entry.holder = some other.client := by
        decide
      intro taker _ name space target _ entry stored _
      exact held (name, space) (mem_of_lookup target) entry stored
  have starves := standoff.starves distinct clients (sound_of_reached distinct clients reached)
  refine ⟨race, reached, ⟨first, by simp [race], rfl⟩, ?_⟩
  rintro ⟨later, index, taker, racer, rest, ending, leads, whose, _, _, at_, ended, _⟩
  rw [starves later leads index taker rest whose (List.mem_of_getElem? whose) at_] at ended
  cases ended

end Race

end TupleSpace
