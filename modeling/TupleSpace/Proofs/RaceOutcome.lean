import Mathlib.Data.List.Find
import TupleSpace.Proofs.LoneRace

/-!
# What a lone take comes to

What a take does while nobody else takes or puts anything is told by what is on offer at the
replicas. Whatever order its requests are delivered in, it makes the same number of moves, asks
each replica for the same things one after the other, and ends in the same way.
-/

namespace TupleSpace

open TupleSpace.Table

namespace Space

/-- The tuples that the pattern hits and nobody but the client holds, in store order. -/
def offered (space : Space) (pattern : Pattern) (client : ClientId) : List String :=
  (space.entries.filter fun entry =>
    pattern.hits entry.value && (entry.holder == none || entry.holder == some client)).map (·.value)

def without (space : Space) (tuple : String) : Space :=
  ⟨space.entries.eraseP fun entry => entry.holder == none && entry.value == tuple⟩

variable {space : Space} {pattern : Pattern} {client : ClientId} {tuple : String}

theorem reserve_offered (space : Space) (pattern : Pattern) (client : ClientId) :
    (space.reserve pattern client).1 = space.offered pattern client := by
  dsimp only [reserve, offered]
  congr 2
  funext entry
  cases held : entry.holder <;> simp [Entry.isReservable, held, Bool.and_comm]

theorem release_of_reserve (pattern : Pattern) (nothing : space.holdings client = []) :
    (space.reserve pattern client).2.release client = space := by
  obtain ⟨entries⟩ := space
  simp only [release, reserve, List.map_map, mk.injEq]
  conv_rhs => rw [← List.map_id entries]
  refine List.map_congr_left ?_
  intro entry member
  have unheld := not_held_of_nothing nothing member
  by_cases reservable : entry.isReservable pattern client = true
  · have free : entry.holder = none := by
      simp only [Entry.isReservable, Bool.and_eq_true, Bool.or_eq_true, beq_iff_eq] at reservable
      simpa [unheld] using reservable.1
    obtain ⟨value, holder⟩ := entry
    cases free
    simp [reservable, Entry.heldBy, Entry.freedFrom]
  · simp [reservable, Entry.freedFrom, unheld]

theorem reserve_of_nothing_offered (nothing : space.offered pattern client = []) :
    (space.reserve pattern client).2 = space := by
  rw [← reserve_offered] at nothing
  obtain ⟨entries⟩ := space
  simp only [reserve, mk.injEq]
  conv_rhs => rw [← List.map_id entries]
  refine List.map_congr_left ?_
  intro entry member
  have missed : ¬entry.isReservable pattern client = true := by
    intro reservable
    have inside : entry.value ∈ (reserve ⟨entries⟩ pattern client).1 :=
      List.mem_map.mpr ⟨entry, List.mem_filter.mpr ⟨member, reservable⟩, rfl⟩
    rw [nothing] at inside
    cases inside
  simp [missed]

/-- Among entries that a client has just had held, its first copy of a tuple is the copy that was
the first free one. -/
private theorem extract_reserved {entries : List Entry}
    (unheld : ∀ entry ∈ entries, entry.holder ≠ some client) (hit : pattern.hits tuple = true)
    (free : ∃ entry ∈ entries, entry.holder = none ∧ entry.value = tuple) :
    extract? (fun entry => entry.holder == some client && entry.value == tuple)
        (entries.map fun entry =>
          if entry.isReservable pattern client then entry.heldBy client else entry) =
      some (⟨tuple, some client⟩,
        (entries.eraseP fun entry => entry.holder == none && entry.value == tuple).map fun entry =>
          if entry.isReservable pattern client then entry.heldBy client else entry) := by
  induction entries with
  | nil => simp at free
  | cons entry rest induction =>
      have mine := unheld entry List.mem_cons_self
      rw [List.map_cons, extract?]
      by_cases here : entry.holder = none ∧ entry.value = tuple
      · obtain ⟨value, holder⟩ := entry
        obtain ⟨rfl, rfl⟩ := here
        simp [Entry.isReservable, Entry.heldBy, hit]
      · have later : ∃ entry ∈ rest, entry.holder = none ∧ entry.value = tuple := by
          obtain ⟨found, member, fits⟩ := free
          rcases List.mem_cons.mp member with rfl | inside
          · exact absurd fits here
          · exact ⟨found, inside, fits⟩
        have tail := induction (fun other member => unheld other (List.mem_cons_of_mem _ member))
          later
        have missed : ¬((if entry.isReservable pattern client then entry.heldBy client
            else entry).holder == some client && (if entry.isReservable pattern client
              then entry.heldBy client else entry).value == tuple) = true := by
          split
          · rename_i reservable
            simp only [Entry.isReservable, Bool.and_eq_true, Bool.or_eq_true, beq_iff_eq]
              at reservable
            have free : entry.holder = none := by simpa [mine] using reservable.1
            simpa [Entry.heldBy, free] using here
          · simp [mine]
        have kept : ¬(entry.holder == none && entry.value == tuple) = true := by simpa using here
        rw [if_neg missed, tail,
          List.eraseP_cons_of_neg (p := fun entry : Entry =>
            entry.holder == none && entry.value == tuple) kept]
        rfl

/-- A tuple that was on offer is removed by a commit, and nothing else is different from before
the reservation. -/
theorem commit_of_reserve (nothing : space.holdings client = [])
    (offered : tuple ∈ space.offered pattern client) :
    (space.reserve pattern client).2.commit tuple client = .ok (space.without tuple) := by
  obtain ⟨entry, fits, same⟩ := List.mem_map.mp offered
  obtain ⟨member, hit⟩ := List.mem_filter.mp fits
  have unheld : ∀ other ∈ space.entries, other.holder ≠ some client :=
    fun other inside => not_held_of_nothing nothing inside
  simp only [Bool.and_eq_true, Bool.or_eq_true, beq_iff_eq] at hit
  have free : entry.holder = none := hit.2.resolve_right (unheld entry member)
  have extracted : extract? (fun entry => entry.holder == some client && entry.value == tuple)
      (space.reserve pattern client).2.entries =
        some (⟨tuple, some client⟩, ((space.without tuple).reserve pattern client).2.entries) :=
    extract_reserved unheld (same ▸ hit.1) ⟨entry, member, free, same⟩
  have left : (space.without tuple).holdings client = [] := by
    simp only [holdings, without, List.map_eq_nil_iff, List.filter_eq_nil_iff, beq_iff_eq]
    exact fun other inside => unheld other (List.mem_of_mem_eraseP inside)
  rw [commit, extracted]
  exact congrArg Except.ok (release_of_reserve pattern left)

end Space

namespace Fanout

def reserving (taker : Taker) (pattern : Pattern) (names : List String)
    (offer : String → List String) (retries : Nat) : Fanout where
  request := .reserve taker.pattern taker.client
  racer := taker.reserving names offer retries []
  response := fun name => .reserved (offer name)
  before := id
  after := fun space => (space.reserve pattern taker.client).2

def releasing (taker : Taker) (pattern : Pattern) (names : List String) (retries : Nat)
    (isExhausted : Bool) (pause : Pause) (asked : List String) : Fanout where
  request := .release taker.client
  racer := taker.releasing names retries isExhausted pause asked
  response := fun _ => .released
  before := fun space => (space.reserve pattern taker.client).2
  after := id

def committing (taker : Taker) (pattern : Pattern) (names : List String) (retries : Nat)
    (noted : Holdings) (tuple : String) : Fanout where
  request := .commit tuple taker.client
  racer := taker.committing names retries noted tuple
  response := fun _ => .committed
  before := fun space => (space.reserve pattern taker.client).2
  after := fun space => space.without tuple

end Fanout

namespace Race

/-! ## The course of the take -/

/-- A taker by itself, whose client holds nothing, with a pattern that is one. -/
structure IsLone (replicas : List (String × Space)) (taker : Taker) (pattern : Pattern) :
    Prop where
  present : replicas ≠ []
  distinct : (replicas.map (·.1)).Nodup
  parsed : Pattern.parse taker.pattern = .ok pattern
  nothing : ∀ replica ∈ replicas, replica.2.holdings taker.client = []

def offerAt (replicas : List (String × Space)) (pattern : Pattern) (client : ClientId)
    (name : String) : List String :=
  ((replicas.lookup name).map (·.offered pattern client)).getD []

/-- The first tuple on offer at the first replica that is on offer everywhere. -/
def firstCommon? (replicas : List (String × Space)) (pattern : Pattern) (client : ClientId) :
    Option String :=
  replicas.head?.bind fun first =>
    (first.2.offered pattern client).find? fun tuple =>
      replicas.all fun replica => (replica.2.offered pattern client).contains tuple

def offering (replicas : List (String × Space)) (pattern : Pattern) (client : ClientId) : Nat :=
  replicas.countP fun replica => !(replica.2.offered pattern client).isEmpty

/-- A round that is lost: at most half of the replicas have anything on offer, or all do and
nothing is on offer everywhere, where that counts as a retry. -/
def IsLost (replicas : List (String × Space)) (taker : Taker) (pattern : Pattern) : Prop :=
  offering replicas pattern taker.client * 2 ≤ replicas.length ∨
    (∀ replica ∈ replicas, replica.2.offered pattern taker.client ≠ []) ∧
      (∀ tuple, ∃ replica ∈ replicas, tuple ∉ replica.2.offered pattern taker.client) ∧
        taker.policy.emptyCounts = true

namespace IsLone

variable {replicas : List (String × Space)} {taker : Taker} {pattern : Pattern}
  {result : List Happening → Race → Prop} {count : Nat} {log : List Happening}
  (lone : IsLone replicas taker pattern)
include lone

theorem offer_at {replica : String × Space} (member : replica ∈ replicas) :
    offerAt replicas pattern taker.client replica.1 =
      replica.2.offered pattern taker.client := by
  have stored : replicas.lookup replica.1 = some replica.2 := lookup_of_mem lone.distinct member
  rw [offerAt, stored]
  rfl

omit lone in
theorem offer_outside {name : String} (outside : name ∉ replicas.map (·.1)) :
    offerAt replicas pattern taker.client name = [] := by
  rw [offerAt, lookup_none.mpr outside]
  rfl

theorem offers : (replicas.map (·.1)).map (offerAt replicas pattern taker.client) =
    replicas.map fun replica => replica.2.offered pattern taker.client := by
  rw [List.map_map]
  exact List.map_congr_left fun replica member => lone.offer_at member

theorem reach_offers :
    Holdings.reach (replicas.map (·.1)) (offerAt replicas pattern taker.client) =
      offering replicas pattern taker.client := by
  unfold Holdings.reach offering
  rw [List.countP_map]
  refine List.countP_congr ?_
  intro replica member
  simp [lone.offer_at member]

theorem reserving_works (retries : Nat) :
    (Fanout.reserving taker pattern (replicas.map (·.1)) (offerAt replicas pattern taker.client)
      retries).Works replicas (replicas.map (·.1)) := by
  refine ⟨List.Sublist.refl _, fun _ _ => rfl, fun _ _ => rfl, ?_, ?_⟩
  · intro pending answered position name
    exact taker.receive_reserved _ retries [] pending position name fun _ _ => rfl
  · intro replica member _
    have offered : offerAt replicas pattern taker.client replica.1 =
        (replica.2.reserve pattern taker.client).1 := by
      rw [Space.reserve_offered]
      exact lone.offer_at member
    simp [Fanout.reserving, Space.answerTake, lone.parsed, offered]

theorem releasing_works (retries : Nat) (isExhausted : Bool) (pause : Pause)
    {asked : List String} (known : asked.Sublist (replicas.map (·.1))) :
    (Fanout.releasing taker pattern (replicas.map (·.1)) retries isExhausted pause asked).Works
      replicas asked := by
  refine ⟨known, fun _ _ => rfl, fun _ _ => rfl, ?_, ?_⟩
  · intro pending answered position name
    exact taker.receive_released _ retries isExhausted pause asked pending answered position name
  · intro replica member _
    have freed := Space.release_of_reserve pattern (lone.nothing replica member)
    simp [Fanout.releasing, Space.answerTake, freed]

theorem committing_works (retries : Nat) (noted : Holdings) {tuple : String}
    (common : ∀ replica ∈ replicas, tuple ∈ replica.2.offered pattern taker.client) :
    (Fanout.committing taker pattern (replicas.map (·.1)) retries noted tuple).Works replicas
      (replicas.map (·.1)) := by
  refine ⟨List.Sublist.refl _, fun _ _ => rfl, fun _ _ => rfl, ?_, ?_⟩
  · intro pending answered position name
    exact taker.receive_committed _ retries noted tuple pending answered position name
  · intro replica member _
    have removed := Space.commit_of_reserve (lone.nothing replica member) (common replica member)
    simp [Fanout.committing, Space.answerTake, removed]

theorem round {retries : Nat}
    (further : ∀ log' noted,
      Holdings.Exact (offerAt replicas pattern taker.client) noted →
      (∀ name ∈ replicas.map (·.1), requestsTo name log' =
        requestsTo name log ++ [.reserve taker.pattern taker.client]) →
      EndsAfter result count log'
        ⟨replicas.map fun replica => (replica.1, (replica.2.reserve pattern taker.client).2),
          [taker.settled (replicas.map (·.1)) (offerAt replicas pattern taker.client) retries
            noted]⟩) :
    EndsAfter result (count + replicas.length + 2) log
      ⟨replicas, [taker.resting (replicas.map (·.1)) retries []]⟩ := by
  let names := replicas.map (·.1)
  let offer := offerAt replicas pattern taker.client
  let fanout := Fanout.reserving taker pattern names offer retries
  have unlocked : (names.filter fun name => !Holdings.has [] name) = names := by
    simp [Holdings.has]
  refine .of_step lone.distinct rfl rfl ?_
  rw [taker.step_resting names offer, unlocked]
  have started : (⟨replicas, [taker.reserving names offer retries [] names []]⟩ : Race) =
      fanout.race replicas names [] := by
    simp [Fanout.race, Fanout.replicas, fanout, Fanout.reserving]
  rw [started, show count + replicas.length + 1 = (count + 1) + names.length by
    simp [names]; omega]
  refine fanout.ends (lone.reserving_works retries) lone.distinct ?_
  intro log' answered all told
  have reserved : fanout.replicas replicas answered =
      replicas.map fun replica => (replica.1, (replica.2.reserve pattern taker.client).2) :=
    Fanout.replicas_all fun replica member =>
      .inl (all.mem_iff.mpr (List.mem_map_of_mem member))
  have faithful := Holdings.faithful_nil offer
  have asked : answered.Perm (names.filter fun name => !Holdings.has [] name) := by
    rw [unlocked]
    exact all
  unfold Fanout.race
  rw [reserved]
  refine .of_step (by simpa [Function.comp_def] using lone.distinct) rfl rfl ?_
  rw [show (fanout.racer [] answered).step.1 = _ from
    taker.step_reserving names retries faithful lone.distinct
      (fun name outside => offer_outside outside) asked]
  refine further log' _ (faithful.exact_noted lone.distinct
    (fun name outside => offer_outside outside) asked) ?_
  intro name member
  rw [told name, if_pos member]
  rfl

section Noted

variable {noted : Holdings} (exact : noted.Exact (offerAt replicas pattern taker.client))
include exact

theorem noted_iff {replica : String × Space} (member : replica ∈ replicas) :
    replica.1 ∈ (replicas.map (·.1)).filter noted.has ↔
      replica.2.offered pattern taker.client ≠ [] := by
  rw [List.mem_filter, exact.has_iff_held, lone.offer_at member]
  exact ⟨fun both => both.2, fun some => ⟨List.mem_map_of_mem member, some⟩⟩

theorem noted_length : noted.length = offering replicas pattern taker.client := by
  rw [exact.length_eq_reach lone.distinct fun name outside => offer_outside outside,
    lone.reach_offers]

theorem length_asked : ((replicas.map (·.1)).filter noted.has).length =
    offering replicas pattern taker.client := by
  have locked := exact.locked_names lone.distinct fun name outside => offer_outside outside
  rw [← lone.noted_length exact, ← locked.length_eq, List.length_map]

theorem reserve_unnoted {replica : String × Space} (member : replica ∈ replicas)
    (absent : replica.1 ∉ (replicas.map (·.1)).filter noted.has) :
    (replica.2.reserve pattern taker.client).2 = replica.2 := by
  refine Space.reserve_of_nothing_offered ?_
  by_contra some
  exact absent ((lone.noted_iff exact member).mpr some)

theorem retreat {retries : Nat} {isExhausted : Bool} {pause : Pause}
    (further : ∀ log', (∀ replica ∈ replicas, requestsTo replica.1 log' =
        requestsTo replica.1 log ++
          if replica.2.offered pattern taker.client = [] then [] else [.release taker.client]) →
      EndsAfter result count log'
        ⟨replicas, [if isExhausted then taker.gaveUp (replicas.map (·.1)) retries pause
          else taker.resting (replicas.map (·.1)) retries []]⟩) :
    EndsAfter result
      (count + if offering replicas pattern taker.client = 0 then 0
        else offering replicas pattern taker.client + 1) log
      ⟨replicas.map fun replica => (replica.1, (replica.2.reserve pattern taker.client).2),
        [taker.retreat (replicas.map (·.1)) retries isExhausted noted pause]⟩ := by
  let names := replicas.map (·.1)
  let asked := names.filter noted.has
  have size : asked.length = offering replicas pattern taker.client := lone.length_asked exact
  unfold Taker.retreat
  -- Without an offer there is nothing to free, and the round is over at once.
  by_cases none : asked = []
  · have nobody : offering replicas pattern taker.client = 0 := by rw [← size, none]; rfl
    have same : (replicas.map fun replica =>
        (replica.1, (replica.2.reserve pattern taker.client).2)) = replicas := by
      conv_rhs => rw [← List.map_id replicas]
      refine List.map_congr_left fun replica member => ?_
      have absent : replica.1 ∉ asked := by simp [none]
      rw [lone.reserve_unnoted exact member absent]
      rfl
    rw [if_pos nobody, if_pos none, same]
    refine further log ?_
    intro replica member
    have empty : replica.2.offered pattern taker.client = [] := by
      by_contra some
      have inside : replica.1 ∈ asked := (lone.noted_iff exact member).mpr some
      simp [none] at inside
    simp [empty]
  · have somebody : offering replicas pattern taker.client ≠ 0 := by
      rw [← size]
      exact fun empty => none (List.eq_nil_of_length_eq_zero empty)
    let fanout := Fanout.releasing taker pattern names retries isExhausted pause asked
    have started : (⟨replicas.map fun replica =>
          (replica.1, (replica.2.reserve pattern taker.client).2),
        [taker.releasing names retries isExhausted pause asked asked []]⟩ : Race) =
          fanout.race replicas asked [] := by
      simp [Fanout.race, Fanout.replicas, fanout, Fanout.releasing]
    rw [if_neg somebody, if_neg none, started,
      show count + (offering replicas pattern taker.client + 1) = (count + 1) + asked.length by
        omega]
    refine fanout.ends (lone.releasing_works retries isExhausted pause List.filter_sublist)
      lone.distinct ?_
    intro log' answered all told
    have freed : fanout.replicas replicas answered = replicas := by
      rw [Fanout.replicas_all]
      · simp [fanout, Fanout.releasing]
      · intro replica member
        by_cases told : replica.1 ∈ asked
        · exact .inl (all.mem_iff.mpr told)
        · exact .inr (lone.reserve_unnoted exact member told)
    unfold Fanout.race
    rw [freed]
    refine .of_step lone.distinct rfl rfl ?_
    rw [show (fanout.racer [] answered).step.1 = _ from
      taker.step_releasing names retries isExhausted pause all]
    refine further log' ?_
    intro replica member
    rw [told replica.1, if_congr (lone.noted_iff exact member) rfl rfl, ite_not]
    rfl

end Noted

theorem removal {retries : Nat} {noted : Holdings} {tuple : String}
    (common : ∀ replica ∈ replicas, tuple ∈ replica.2.offered pattern taker.client)
    (further : ∀ log', (∀ name ∈ replicas.map (·.1), requestsTo name log' =
        requestsTo name log ++ [.commit tuple taker.client]) →
      EndsAfter result count log'
        ⟨replicas.map fun replica => (replica.1, replica.2.without tuple),
          [taker.took (replicas.map (·.1)) retries noted tuple]⟩) :
    EndsAfter result (count + replicas.length + 1) log
      ⟨replicas.map fun replica => (replica.1, (replica.2.reserve pattern taker.client).2),
        [taker.committing (replicas.map (·.1)) retries noted tuple (replicas.map (·.1)) []]⟩ := by
  let names := replicas.map (·.1)
  let fanout := Fanout.committing taker pattern names retries noted tuple
  have started : (⟨replicas.map fun replica =>
        (replica.1, (replica.2.reserve pattern taker.client).2),
      [taker.committing names retries noted tuple names []]⟩ : Race) =
        fanout.race replicas names [] := by
    simp [Fanout.race, Fanout.replicas, fanout, Fanout.committing]
  rw [started, show count + replicas.length + 1 = (count + 1) + names.length by
    simp [names]; omega]
  refine fanout.ends (lone.committing_works retries noted common) lone.distinct ?_
  intro log' answered all told
  have removed : fanout.replicas replicas answered =
      replicas.map fun replica => (replica.1, replica.2.without tuple) :=
    Fanout.replicas_all fun replica member =>
      .inl (all.mem_iff.mpr (List.mem_map_of_mem member))
  unfold Fanout.race
  rw [removed]
  refine .of_step (by simpa [Function.comp_def] using lone.distinct) rfl rfl ?_
  rw [show (fanout.racer [] answered).step.1 = _ from
    taker.step_committing names retries noted tuple all]
  refine further log' ?_
  intro name member
  rw [told name, if_pos member]
  rfl

/-! ## What a round leads to -/

theorem head_offered_by_all :
    (offeredByAll ((replicas.map (·.1)).map (offerAt replicas pattern taker.client))).head? =
      firstCommon? replicas pattern taker.client := by
  rw [lone.offers]
  cases replicas with
  | nil => rfl
  | cons first others =>
      rw [List.map_cons, offeredByAll, List.head?_filter]
      refine List.find?_congr ?_
      intro tuple inside
      simp [List.all_map, Function.comp_def, inside]

omit lone in
theorem everywhere_of_common {tuple : String}
    (common : firstCommon? replicas pattern taker.client = some tuple) :
    ∀ replica ∈ replicas, tuple ∈ replica.2.offered pattern taker.client := by
  obtain ⟨first, _, found⟩ := Option.bind_eq_some_iff.mp common
  simpa using List.find?_some found

theorem common_of_everywhere {tuple : String}
    (everywhere : ∀ replica ∈ replicas, tuple ∈ replica.2.offered pattern taker.client) :
    ∃ first, firstCommon? replicas pattern taker.client = some first := by
  obtain ⟨head, others, rfl⟩ := List.exists_cons_of_ne_nil lone.present
  refine Option.isSome_iff_exists.mp (List.find?_isSome.mpr ⟨tuple, ?_, ?_⟩)
  · exact everywhere head List.mem_cons_self
  · simpa using everywhere

variable {retries : Nat} {noted : Holdings}

theorem full_of_all (exact : noted.Exact (offerAt replicas pattern taker.client))
    (all : ∀ replica ∈ replicas, replica.2.offered pattern taker.client ≠ []) :
    Quorum.classify noted.length (replicas.map (·.1)).length = .full := by
  have whole : offering replicas pattern taker.client = replicas.length :=
    List.countP_eq_length.mpr fun replica member => by simpa using all replica member
  have positive := List.length_pos_iff.mpr lone.present
  simp [Quorum.classify, lone.noted_length exact, whole, positive]

theorem settled_common (exact : noted.Exact (offerAt replicas pattern taker.client))
    {tuple : String} (common : firstCommon? replicas pattern taker.client = some tuple) :
    taker.settled (replicas.map (·.1)) (offerAt replicas pattern taker.client) retries noted =
      taker.committing (replicas.map (·.1)) retries noted tuple (replicas.map (·.1)) [] := by
  have full := lone.full_of_all exact fun replica member =>
    List.ne_nil_of_mem (everywhere_of_common common replica member)
  obtain ⟨others, offered⟩ :=
    List.head?_eq_some_iff.mp (lone.head_offered_by_all.trans common)
  unfold Taker.settled
  rw [full, offered]

theorem settled_lost (retries : Nat) (exact : noted.Exact (offerAt replicas pattern taker.client))
    (lost : IsLost replicas taker pattern) :
    ∃ pause,
      taker.settled (replicas.map (·.1)) (offerAt replicas pattern taker.client) retries noted =
        taker.retreat (replicas.map (·.1)) (retries + 1)
          (taker.policy.maxRetries ≤ retries + 1) noted pause := by
  rcases lost with few | ⟨all, apart, counts⟩
  · have positive := List.length_pos_iff.mpr lone.present
    have minority : Quorum.classify noted.length (replicas.map (·.1)).length = .minority := by
      rw [lone.noted_length exact, List.length_map, Quorum.classify,
        if_neg (by omega), if_pos few]
    refine ⟨.backoff (retries + 1), ?_⟩
    unfold Taker.settled
    rw [minority]
  · have full := lone.full_of_all exact all
    have nothing : offeredByAll
        ((replicas.map (·.1)).map (offerAt replicas pattern taker.client)) = [] := by
      rw [← List.head?_eq_none_iff, lone.head_offered_by_all, Option.eq_none_iff_forall_ne_some]
      intro tuple common
      obtain ⟨replica, member, absent⟩ := apart tuple
      exact absent (everywhere_of_common common replica member)
    refine ⟨.settle, ?_⟩
    unfold Taker.settled
    rw [full, nothing]
    exact if_pos counts

end IsLone

/-! ## How the take ends -/

def lostRound (taker : Taker) (offered : List String) : List Request :=
  .reserve taker.pattern taker.client ::
    if offered = [] then [] else [.release taker.client]

/-- How many moves a round takes that is lost: two steps and a delivery to each replica, and if
anything is to be freed, one delivery for each replica concerned and one more step. -/
def lostMoves (replicas : List (String × Space)) (pattern : Pattern) (client : ClientId) : Nat :=
  (if offering replicas pattern client = 0 then 0 else offering replicas pattern client + 1) +
    replicas.length + 2

def GaveUp (replicas : List (String × Space)) (taker : Taker) (pattern : Pattern) (rounds : Nat)
    (log : List Happening) (last : Race) : Prop :=
  last.racers.map (·.ending?) = [some (.failed (.backoffExceeded rounds))] ∧
    last.replicas = replicas ∧
      ∀ replica ∈ replicas, requestsTo replica.1 log =
        (List.replicate rounds (lostRound taker (replica.2.offered pattern taker.client))).flatten

def Took (replicas : List (String × Space)) (taker : Taker) (tuple : String)
    (log : List Happening) (last : Race) : Prop :=
  last.racers.map (·.ending?) = [some (.taken tuple)] ∧
    last.replicas = replicas.map (fun replica => (replica.1, replica.2.without tuple)) ∧
      ∀ replica ∈ replicas, requestsTo replica.1 log =
        [.reserve taker.pattern taker.client, .commit tuple taker.client]

variable {replicas : List (String × Space)} {taker : Taker} {pattern : Pattern}

namespace IsLone

variable {result : List Happening → Race → Prop} {count : Nat} {log : List Happening}
  (lone : IsLone replicas taker pattern)
include lone

theorem lost_round (lost : IsLost replicas taker pattern) {retries : Nat}
    (further : ∀ log' pause, (∀ replica ∈ replicas, requestsTo replica.1 log' =
        requestsTo replica.1 log ++ lostRound taker (replica.2.offered pattern taker.client)) →
      EndsAfter result count log'
        ⟨replicas, [if decide (taker.policy.maxRetries ≤ retries + 1) = true
          then taker.gaveUp (replicas.map (·.1)) (retries + 1) pause
          else taker.resting (replicas.map (·.1)) (retries + 1) []]⟩) :
    EndsAfter result (count + lostMoves replicas pattern taker.client) log
      ⟨replicas, [taker.resting (replicas.map (·.1)) retries []]⟩ := by
  rw [lostMoves, ← Nat.add_assoc, ← Nat.add_assoc]
  refine lone.round ?_
  intro reserved noted exact asked
  obtain ⟨pause, settled⟩ := lone.settled_lost retries exact lost
  rw [settled]
  refine lone.retreat exact ?_
  intro freed told
  refine further freed pause ?_
  intro replica member
  rw [told replica member, asked replica.1 (List.mem_map_of_mem member), List.append_assoc]
  rfl

theorem gives_up (lost : IsLost replicas taker pattern) {rounds left : Nat}
    (budget : rounds + (left + 1) = max 1 taker.policy.maxRetries)
    (told : ∀ replica ∈ replicas, requestsTo replica.1 log =
      (List.replicate rounds (lostRound taker (replica.2.offered pattern taker.client))).flatten) :
    EndsAfter (GaveUp replicas taker pattern (max 1 taker.policy.maxRetries))
      ((left + 1) * lostMoves replicas pattern taker.client) log
      ⟨replicas, [taker.resting (replicas.map (·.1)) rounds []]⟩ := by
  have again : ∀ {log' : List Happening}, (∀ replica ∈ replicas, requestsTo replica.1 log' =
      requestsTo replica.1 log ++ lostRound taker (replica.2.offered pattern taker.client)) →
      ∀ replica ∈ replicas, requestsTo replica.1 log' = (List.replicate (rounds + 1)
        (lostRound taker (replica.2.offered pattern taker.client))).flatten := by
    intro log' more replica member
    rw [more replica member, told replica member, List.replicate_add, List.flatten_append]
    simp
  induction left generalizing rounds log with
  | zero =>
      have spent : taker.policy.maxRetries ≤ rounds + 1 := by omega
      rw [Nat.zero_add, Nat.one_mul, ← Nat.zero_add (lostMoves _ _ _)]
      refine lone.lost_round lost ?_
      intro last pause more
      rw [if_pos (by simpa using spent)]
      refine .of_ended lone.distinct (by simp [Taker.gaveUp]) ⟨?_, rfl, ?_⟩
      · simp [Taker.gaveUp, ← budget]
      · rw [← budget]
        exact again more
  | succ left induction =>
      have going : ¬taker.policy.maxRetries ≤ rounds + 1 := by omega
      rw [Nat.add_one_mul]
      refine lone.lost_round lost ?_
      intro last pause more
      rw [if_neg (by simpa using going)]
      refine induction (by omega) (again more) ?_
      intro later further replica member
      rw [further replica member, again more replica member,
        List.replicate_add (rounds + 1) 1, List.flatten_append]
      simp

theorem takes {tuple : String}
    (common : firstCommon? replicas pattern taker.client = some tuple) :
    EndsAfter (Took replicas taker tuple) (2 * replicas.length + 3) []
      ⟨replicas, [taker.resting (replicas.map (·.1)) 0 []]⟩ := by
  rw [show 2 * replicas.length + 3 = 0 + replicas.length + 1 + replicas.length + 2 by omega]
  refine lone.round ?_
  intro reserved noted exact asked
  rw [lone.settled_common exact common]
  refine lone.removal (everywhere_of_common common) ?_
  intro last removed
  refine .of_ended (by simpa [Function.comp_def] using lone.distinct) (by simp [Taker.took])
    ⟨rfl, rfl, ?_⟩
  intro replica member
  have inside := List.mem_map_of_mem (f := Prod.fst) member
  rw [removed _ inside, asked _ inside]
  rfl

end IsLone

/-- A take that nobody disturbs does what is on offer decides: it takes the first tuple that is
on offer everywhere, in one round of reservations and one of removals, or it gives up after as
many rounds as it has retries, and at least one. -/
theorem lone_take_computes (lone : IsLone replicas taker pattern) :
    (∀ tuple, (∀ replica ∈ replicas, tuple ∈ replica.2.offered pattern taker.client) →
      ∃ first, firstCommon? replicas pattern taker.client = some first ∧
        EndsAfter (Took replicas taker first) (2 * replicas.length + 3) []
          (start replicas [taker])) ∧
    (IsLost replicas taker pattern →
      EndsAfter (GaveUp replicas taker pattern (max 1 taker.policy.maxRetries))
        (max 1 taker.policy.maxRetries * lostMoves replicas pattern taker.client) []
        (start replicas [taker])) := by
  constructor
  · intro tuple everywhere
    obtain ⟨first, common⟩ := lone.common_of_everywhere everywhere
    exact ⟨first, common, lone.takes common⟩
  · intro lost
    obtain ⟨left, budget⟩ : ∃ left, left + 1 = max 1 taker.policy.maxRetries :=
      ⟨max 1 taker.policy.maxRetries - 1, by omega⟩
    have unspent : 0 + (left + 1) = max 1 taker.policy.maxRetries := by omega
    have gives : EndsAfter _ _ [] ⟨replicas, [taker.resting (replicas.map (·.1)) 0 []]⟩ :=
      lone.gives_up lost unspent fun _ _ => rfl
    rwa [budget] at gives

/-- Three replicas with several copies of tuples, some held by a client that does nothing. -/
private def laden : List (String × Space) :=
  [("A", ⟨[⟨"<a>", some ⟨9⟩⟩, ⟨"<c>", none⟩, ⟨"<b>", some ⟨9⟩⟩, ⟨"<b>", none⟩, ⟨"<b>", none⟩]⟩),
    ("B", ⟨[⟨"<b>", none⟩, ⟨"<a>", none⟩]⟩), ("C", ⟨[⟨"<d>", none⟩, ⟨"<b>", none⟩]⟩)]

/-- Three replicas of which only one has a tuple that nobody holds. -/
private def scarce : List (String × Space) :=
  [("A", ⟨[⟨"<a>", some ⟨9⟩⟩]⟩), ("B", ⟨[⟨"<b>", none⟩]⟩), ("C", ⟨[]⟩)]

private def eager : Taker := ⟨⟨1⟩, "<.>", {}⟩

private def hasty : Taker := ⟨⟨1⟩, "<.>", { maxRetries := 2 }⟩

theorem lone_take_computes_of_laden :
    ∃ pattern, Pattern.parse "<.>" = .ok pattern ∧
      EndsAfter (Took laden eager "<b>") 9 [] (start laden [eager]) ∧
        EndsAfter (GaveUp scarce hasty pattern 2) 14 [] (start scarce [hasty]) := by
  have offers : (Pattern.parse "<.>").toOption.map (fun pattern =>
      (firstCommon? laden pattern eager.client,
        laden.all fun replica => (replica.2.offered pattern eager.client).contains "<b>",
        offering scarce pattern hasty.client)) = some (some "<b>", true, 1) := by
    decide +kernel
  cases parsed : Pattern.parse "<.>" with
  | error cause =>
      rw [parsed] at offers
      cases offers
  | ok pattern =>
      rw [parsed] at offers
      simp only [Except.toOption, Option.map_some, Option.some.injEq, Prod.mk.injEq] at offers
      obtain ⟨common, everywhere, few⟩ := offers
      have plenty : IsLone laden eager pattern := ⟨by decide, by decide, parsed, by decide⟩
      have want : IsLone scarce hasty pattern := ⟨by decide, by decide, parsed, by decide⟩
      obtain ⟨first, found, takes⟩ :=
        (lone_take_computes plenty).1 "<b>" (by simpa using everywhere)
      cases common.symm.trans found
      have gives := (lone_take_computes want).2 (.inl (by rw [few]; decide))
      rw [lostMoves, few] at gives
      exact ⟨pattern, rfl, takes, gives⟩

end Race

end TupleSpace
