import TupleSpace.Proofs.RaceSafety

/-!
# The locks a take notes

With nothing of a take on its way, the replicas that its machine notes as locked are the ones where
the client holds something, with one exception. A release clears the notes, while a take that ends
with a tuple keeps the locks it had when it asked for the removal, although the removal has freed
everything.
-/

namespace TupleSpace

open TupleSpace.Table

namespace Space

theorem held_count_eq (space : Space) (client : ClientId) :
    space.heldCount client = (space.holdings client).length := by
  rw [heldCount, holdings, List.length_map, List.countP_eq_length_filter]

end Space

namespace Racer

variable {names : List String} {racer : Racer}

/-- Once a removal is asked for, a lock is noted at every replica. -/
def NotesAll (names : List String) (racer : Racer) : Prop :=
  racer.machine.stage = .committing ∨ racer.machine.stage = .finished →
    names ≠ [] ∧ ∀ name ∈ names, racer.machine.locked.has name = true

theorem notes_all_before (uncommitted : racer.machine.stage ≠ .committing)
    (unfinished : racer.machine.stage ≠ .finished) : racer.NotesAll names :=
  fun stage => stage.elim (absurd · uncommitted) (absurd · unfinished)

theorem NotesAll.receive (notes : racer.NotesAll names) (position : Nat) (name : String)
    (reply : Reply) : (racer.receive position name reply).NotesAll names := by
  unfold NotesAll
  rw [racer.receive_machine]
  exact notes

end Racer

namespace Taker

variable {names : List String} {held : String → List String} {retries : Nat} {locked : Holdings}

theorem notes_all_retreat (taker : Taker) (isExhausted : Bool) (pause : Pause) :
    (taker.retreat names retries isExhausted locked pause).NotesAll names := by
  unfold retreat
  dsimp only
  split
  · split
    · exact Racer.notes_all_before nofun nofun
    · exact Racer.notes_all_before nofun nofun
  · exact Racer.notes_all_before nofun nofun

/-- A removal is decided on only with a lock at every replica. -/
theorem notes_all_settled (taker : Taker) (exact : locked.Exact held) (distinct : names.Nodup)
    (outside : ∀ name, name ∉ names → held name = []) :
    (taker.settled names held retries locked).NotesAll names := by
  unfold settled
  cases quorum : Quorum.classify locked.length names.length with
  | minority => exact taker.notes_all_retreat _ _
  | partialMajority => exact Racer.notes_all_before nofun nofun
  | full =>
      obtain ⟨some_, whole⟩ := Quorum.length_of_full quorum
      dsimp only
      split
      · intro _
        exact ⟨List.length_pos_iff.mp some_, exact.locked_everywhere distinct outside whole⟩
      · split
        · exact taker.notes_all_retreat _ _
        · exact taker.notes_all_retreat _ _

end Taker

namespace Phase

variable {taker : Taker} {names : List String} {held : String → List String} {racer : Racer}

theorem notes_all_step (phase : Phase taker names held racer) (distinct : names.Nodup)
    (outside : ∀ name, name ∉ names → held name = []) (idle : racer.outbox = [])
    (running : racer.ending? = none) (notes : racer.NotesAll names) :
    racer.step.1.NotesAll names := by
  have turn := phase.turn distinct outside idle running
  generalize racer.step.1 = next at turn ⊢
  cases turn with
  | asks _ => exact Racer.notes_all_before nofun nofun
  | settles exact => exact taker.notes_all_settled exact distinct outside
  | @frees retries isExhausted pause asked answered freed =>
      cases isExhausted with
      | true => exact Racer.notes_all_before nofun nofun
      | false => exact Racer.notes_all_before nofun nofun
  | finishes _ => exact fun _ => notes (Or.inl rfl)

/-- With no request and no reply on its way, unless the take has ended with a tuple, a lock is noted
just where something is held. -/
theorem noted_iff_held (phase : Phase taker names held racer) (notes : racer.NotesAll names)
    (delivered : racer.outbox = []) (read : racer.inbox = [])
    (accepted : ∀ cause, racer.ending? ≠ some (.refused cause))
    (untaken : ∀ tuple, racer.ending? ≠ some (.taken tuple)) {name : String}
    (known : name ∈ names) :
    racer.machine.locked.has name = true ↔ held name ≠ [] := by
  cases phase with
  | resting exact _ => exact exact.has_iff_held name
  | @reserving retries locked pending answered faithful asked _ =>
      have sent : pending = [] := List.map_eq_nil_iff.mp delivered
      have heard : answered = [] := List.map_eq_nil_iff.mp read
      subst sent heard
      have everywhere := List.filter_eq_nil_iff.mp asked.nil_eq.symm name known
      have has : locked.has name = true := by simpa using everywhere
      obtain ⟨tuples, found⟩ := Option.isSome_iff_exists.mp has
      obtain ⟨something, told⟩ := faithful.told name tuples found
      exact ⟨fun _ => told ▸ something, fun _ => has⟩
  | @releasing retries isExhausted pause asked pending answered _ _ freed =>
      have sent : pending = [] := List.map_eq_nil_iff.mp delivered
      subst sent
      simp [Taker.releasing, Taker.machine, TakeMachine.start, Holdings.has, freed name]
  | @committing retries locked tuple pending answered split _ _ =>
      have sent : pending = [] := List.map_eq_nil_iff.mp delivered
      have heard : answered = [] := List.map_eq_nil_iff.mp read
      subst sent heard
      exact absurd split.nil_eq.symm (notes (Or.inl rfl)).1
  | took _ => exact absurd rfl (untaken _)
  | gaveUp freed =>
      simp [Taker.gaveUp, Taker.machine, TakeMachine.start, Holdings.has, freed name]
  | refused _ _ => exact absurd rfl (accepted _)

theorem noted_of_took {tuple : String} (phase : Phase taker names held racer)
    (notes : racer.NotesAll names) (took : racer.ending? = some (.taken tuple)) :
    names ≠ [] ∧ (∀ name ∈ names, racer.machine.locked.has name = true) ∧
      ∀ name, held name = [] := by
  cases phase with
  | took freed =>
      obtain ⟨inhabited, everywhere⟩ := notes (Or.inr rfl)
      exact ⟨inhabited, everywhere, freed⟩
  | resting _ _ => cases took
  | reserving _ _ _ => cases took
  | releasing _ _ _ => cases took
  | committing _ _ _ => cases took
  | gaveUp _ => cases took
  | refused _ _ => cases took

theorem machine_replicas (phase : Phase taker names held racer) :
    racer.machine.replicas = names := by
  cases phase <;> rfl

end Phase

namespace Race

variable {replicas : List (String × Space)} {takers : List Taker} {names : List String}
  {log : List Happening} {race : Race} {index : Nat} {taker : Taker} {racer : Racer}

def holdingAt (race : Race) (client : ClientId) : List String :=
  (race.replicas.filter fun replica => 0 < replica.2.heldCount client).map (·.1)

theorem Sound.holding_at_eq (sound : race.Sound takers names) (distinct : names.Nodup)
    (client : ClientId) :
    race.holdingAt client = names.filter fun name => race.held client name ≠ [] := by
  have there : race.replicas.filter (fun replica => 0 < replica.2.heldCount client) =
      race.replicas.filter fun replica => race.held client replica.1 ≠ [] := by
    refine List.filter_congr ?_
    rintro ⟨name, space⟩ member
    have target := lookup_of_mem (sound.named ▸ distinct) member
    simp only [held_of_lookup target, Space.held_count_eq, List.length_pos_iff]
  rw [holdingAt, there, ← sound.named, List.filter_map]
  rfl

theorem notes_all_run (fair : IsFair replicas takers)
    (run : Run (start replicas takers) log race) :
    ∀ racer ∈ race.racers, racer.NotesAll (replicas.map (·.1)) := by
  induction run with
  | start =>
      intro racer member
      obtain ⟨taker, _, rfl⟩ := List.mem_map.mp member
      exact Racer.notes_all_before nofun nofun
  | event earlier performed induction =>
      have sound := sound_run fair earlier
      cases moves_of_perform (sound.named ▸ fair.names) performed with
      | deliver found running parcel target answered =>
          intro racer member
          rcases List.mem_or_eq_of_mem_set member with before | rfl
          · exact induction racer before
          · exact (induction _ (List.mem_of_getElem? found)).receive _ _ _
      | step found running idle =>
          intro racer member
          rcases List.mem_or_eq_of_mem_set member with before | rfl
          · exact induction racer before
          · obtain ⟨taker, whose⟩ := sound.taker_of_racer found
            exact (sound.phase whose found).notes_all_step fair.names
              (sound.outside taker.client) idle running
              (induction _ (List.mem_of_getElem? found))
      | insert _ => exact induction

/-- Of a client with no request and no reply on its way the locks are told truly just if its take
has not ended with a tuple. After such an end they are noted at all replicas, and nothing is
held. -/
theorem locked_replicas_true_iff (fair : IsFair replicas takers)
    (run : Run (start replicas takers) log race) (whose : takers[index]? = some taker)
    (found : race.racers[index]? = some racer) (delivered : racer.outbox = [])
    (read : racer.inbox = []) (accepted : ∀ cause, racer.ending? ≠ some (.refused cause)) :
    (racer.machine.lockedReplicas = race.holdingAt taker.client ↔
        ∀ tuple, racer.ending? ≠ some (.taken tuple)) ∧
      ∀ tuple, racer.ending? = some (.taken tuple) →
        racer.machine.lockedReplicas = replicas.map (·.1) ∧ race.holdingAt taker.client = [] := by
  have sound := sound_run fair run
  have phase := sound.phase whose found
  have notes := notes_all_run fair run racer (List.mem_of_getElem? found)
  have holding := sound.holding_at_eq fair.names taker.client
  have ended : ∀ tuple, racer.ending? = some (.taken tuple) → replicas.map (·.1) ≠ [] ∧
      racer.machine.lockedReplicas = replicas.map (·.1) ∧ race.holdingAt taker.client = [] := by
    intro tuple took
    obtain ⟨inhabited, everywhere, freed⟩ := phase.noted_of_took notes took
    refine ⟨inhabited, ?_, ?_⟩
    · rw [TakeMachine.lockedReplicas, phase.machine_replicas]
      exact List.filter_eq_self.mpr everywhere
    · rw [holding]
      exact List.filter_eq_nil_iff.mpr fun name _ => by simp [freed name]
  refine ⟨⟨?_, ?_⟩, fun tuple took => (ended tuple took).2⟩
  · intro same tuple took
    obtain ⟨inhabited, noted, nothing⟩ := ended tuple took
    exact inhabited (noted.symm.trans (same.trans nothing))
  · intro untaken
    rw [TakeMachine.lockedReplicas, phase.machine_replicas, holding]
    refine List.filter_congr ?_
    intro name known
    rw [Bool.eq_iff_iff, phase.noted_iff_held notes delivered read accepted untaken known]
    simp

/-- The first of two takes gets the only copy. Two more are put then, of which the second take holds
each while it asks the third replica again. -/
theorem locked_replicas_true_iff_of_rivals :
    ∃ log race first second,
      Run (start [("A", ⟨[⟨"<a>", none⟩]⟩), ("B", ⟨[⟨"<a>", none⟩]⟩), ("C", ⟨[⟨"<a>", none⟩]⟩)]
        [⟨⟨1⟩, "<a>", ⟨5, false⟩⟩, ⟨⟨2⟩, "<.>", ⟨5, false⟩⟩]) log race ∧
      race.racers = [first, second] ∧ first.ending? = some (.taken "<a>") ∧
      first.machine.lockedReplicas = ["A", "B", "C"] ∧ race.holdingAt ⟨1⟩ = [] ∧
      second.ending? = none ∧ second.machine.lockedReplicas = race.holdingAt ⟨2⟩ ∧
      race.holdingAt ⟨2⟩ = ["A", "B"] := by
  let replicas : List (String × Space) :=
    [("A", ⟨[⟨"<a>", none⟩]⟩), ("B", ⟨[⟨"<a>", none⟩]⟩), ("C", ⟨[⟨"<a>", none⟩]⟩)]
  let rivals : List Taker := [⟨⟨1⟩, "<a>", ⟨5, false⟩⟩, ⟨⟨2⟩, "<.>", ⟨5, false⟩⟩]
  have fair : IsFair replicas rivals := ⟨by decide, by decide, by decide⟩
  have done : ((start replicas rivals).replay? [.step 0, .deliver 0 2, .deliver 0 0, .deliver 0 0,
      .step 0, .deliver 0 1, .deliver 0 1, .deliver 0 0, .step 0, .insert 0 "<a>", .insert 1 "<a>",
      .step 1, .deliver 1 1, .deliver 1 1, .deliver 1 0, .step 1]).map (fun last =>
        (last.2.racers.map fun racer =>
          (racer.outbox.isEmpty && racer.inbox.isEmpty, racer.ending?), last.2.holdingAt ⟨2⟩)) =
        some ([(true, some (.taken "<a>")), (true, none)], ["A", "B"]) := by
    decide +kernel
  obtain ⟨⟨log, race⟩, replayed, shown⟩ := Option.map_eq_some_iff.mp done
  have run : Run (start replicas rivals) log race := run_of_replay .start replayed
  obtain ⟨mail, holding⟩ := Prod.mk.inj shown
  obtain ⟨first, others, racers, took, rest⟩ := List.map_eq_cons_iff.mp mail
  obtain ⟨second, more, cons, waits, nobody⟩ := List.map_eq_cons_iff.mp rest
  cases List.map_eq_nil_iff.mp nobody
  subst cons
  simp only [Prod.mk.injEq, Bool.and_eq_true, List.isEmpty_iff] at took waits
  obtain ⟨⟨sent, read⟩, taken⟩ := took
  obtain ⟨⟨idle, heard⟩, runs⟩ := waits
  have foremost : race.racers[0]? = some first := by rw [racers]; rfl
  have behind : race.racers[1]? = some second := by rw [racers]; rfl
  have ended := (locked_replicas_true_iff fair run rfl foremost sent read (by simp [taken])).2
    "<a>" taken
  have noted := (locked_replicas_true_iff fair run rfl behind idle heard (by simp [runs])).1.mpr
    (by simp [runs])
  exact ⟨log, race, first, second, run, racers, taken, ended.1, ended.2, runs, noted, holding⟩

/-- A take that got the only tuple of the only replica goes on to note a lock there. -/
theorem lock_noted_after_take :
    ∃ log race racer,
      Run (start [("A", ⟨[⟨"<a>", none⟩]⟩)] [⟨⟨1⟩, "<a>", ⟨5, false⟩⟩]) log race ∧
      race.racers = [racer] ∧ racer.outbox = [] ∧ racer.inbox = [] ∧
      racer.ending? = some (.taken "<a>") ∧ racer.machine.lockedReplicas = ["A"] ∧
      race.holdingAt ⟨1⟩ = [] := by
  have done : ((start [("A", ⟨[⟨"<a>", none⟩]⟩)] [⟨⟨1⟩, "<a>", ⟨5, false⟩⟩]).replay?
      [.step 0, .deliver 0 0, .step 0, .deliver 0 0, .step 0]).map (fun last =>
        (last.2.racers.map fun racer =>
          (racer.outbox.isEmpty && racer.inbox.isEmpty, racer.ending?,
            racer.machine.lockedReplicas), last.2.holdingAt ⟨1⟩)) =
        some ([(true, some (.taken "<a>"), ["A"])], []) := by
    decide +kernel
  obtain ⟨⟨log, race⟩, replayed, shown⟩ := Option.map_eq_some_iff.mp done
  obtain ⟨mail, holding⟩ := Prod.mk.inj shown
  obtain ⟨racer, others, racers, took, rest⟩ := List.map_eq_cons_iff.mp mail
  cases List.map_eq_nil_iff.mp rest
  simp only [Prod.mk.injEq, Bool.and_eq_true, List.isEmpty_iff] at took
  obtain ⟨⟨sent, read⟩, taken, noted⟩ := took
  exact ⟨log, race, racer, run_of_replay .start replayed, racers, sent, read, taken, noted, holding⟩

end Race

end TupleSpace
