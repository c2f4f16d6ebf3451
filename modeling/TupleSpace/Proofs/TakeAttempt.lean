import TupleSpace.Client.Attempt
import TupleSpace.Proofs.Space
import TupleSpace.Proofs.TakeDecision
import TupleSpace.Replica.Task

/-!
# Attempts at a take

What an attempt asks its replicas for, what a replica does about it, and what the attempt goes on
to do. Reservations that an earlier attempt left behind are still held, so the notes of a machine
are only a lower bound on what its client holds.
-/

namespace TupleSpace

open TupleSpace.Table

namespace ReplicaSet

variable {set : ReplicaSet} {targets : List String} {handles : List Handle}

def table (set : ReplicaSet) : List (String × Nat) :=
  set.handles.map fun handle => (handle.qualifier, handle.node)

theorem qualifiers_eq (set : ReplicaSet) : set.qualifiers = set.table.map (·.1) := by
  simp [qualifiers, table, List.map_map, Function.comp_def]

theorem handle_found {name : String} {handle : Handle} (found : set.handle name = .ok handle) :
    handle.qualifier = name ∧ (handle.qualifier, handle.node) ∈ set.table := by
  unfold ReplicaSet.handle at found
  split at found
  · rename_i first named
    cases found
    exact ⟨by simpa using List.find?_some named,
      List.mem_map.mpr ⟨handle, List.mem_of_find?_eq_some named, rfl⟩⟩
  · cases found

theorem handles_found (found : set.handlesOf targets = .ok handles) :
    handles.map (·.qualifier) = targets ∧
      ∀ handle ∈ handles, (handle.qualifier, handle.node) ∈ set.table := by
  unfold handlesOf at found
  induction targets generalizing handles with
  | nil =>
      cases found
      simp
  | cons name rest induction =>
      rw [List.mapM_cons] at found
      cases first : set.handle name with
      | error cause =>
          rw [first] at found
          cases found
      | ok handle =>
          cases others : rest.mapM set.handle with
          | error cause =>
              rw [first, others] at found
              cases found
          | ok tail =>
              rw [first, others] at found
              cases found
              obtain ⟨named, inside⟩ := handle_found first
              obtain ⟨names, known⟩ := induction others
              refine ⟨by simp [named, names], ?_⟩
              intro other member
              rcases List.mem_cons.mp member with rfl | later
              · exact inside
              · exact known other later

theorem fan_out_asks {request : Request} {exchange : Exchange}
    (asked : set.fanOut targets request = .ok (exchange, handles)) :
    exchange = { request, wait := .tasks, collector := { outstanding := handles.length } } ∧
      handles.map (·.qualifier) = targets ∧
        ∀ handle ∈ handles, (handle.qualifier, handle.node) ∈ set.table := by
  unfold fanOut ask at asked
  cases found : set.handlesOf targets with
  | error cause =>
      rw [found] at asked
      cases asked
  | ok others =>
      rw [found] at asked
      cases asked
      obtain ⟨names, known⟩ := handles_found found
      have count : targets.length = handles.length := by simp [← names]
      exact ⟨by rw [count], names, known⟩

end ReplicaSet

/-! ## Requests at a replica -/

def Task.removed? : Task → Option String
  | .commit tuple _ => some tuple
  | _ => none

namespace Request

/-- A removal may be carried out where the tuple is held. With no earlier removal there it is
said to be clean. -/
inductive Ready (client : ClientId) (clean : Prop) (held removed : List String) : Request → Prop
  | reserve {pattern : String} : Ready client clean held removed (.reserve pattern client)
  | release : Ready client clean held removed (.release client)
  | commit {tuple : String} (present : tuple ∈ held) (fresh : clean → removed = []) :
      Ready client clean held removed (.commit tuple client)

inductive Leaves (client : ClientId) (clean : Prop) (held removed : List String) :
    Request → Except StoreError Answer → Prop
  | refused {pattern : String} {cause : StoreError} :
      Leaves client clean held removed (.reserve pattern client) (.error cause)
  | reserved {pattern : String} {tuples : List String} (kept : ∀ tuple ∈ tuples, tuple ∈ held) :
      Leaves client clean held removed (.reserve pattern client) (.ok (.tuples tuples))
  | released : Leaves client clean held removed (.release client) (.ok .done)
  | removed {tuple : String} {earlier : List String} (last : removed = earlier ++ [tuple])
      (fresh : clean → earlier = []) :
      Leaves client clean held removed (.commit tuple client) (.ok .done)

/-- A replica carries out what it is ready for, in one step that wakes nobody. -/
theorem Ready.carried_out {request : Request} {task : Task} {client : ClientId} {clean : Prop}
    {removed : List String} {replica : Replica}
    (ready : request.Ready client clean (replica.store.space.holdings client) removed)
    (made : request.task = .ok task) :
    ∃ result space, replica.step task = ⟨.finish result, replica.withSpace space, []⟩ ∧
      request.Leaves client clean (space.holdings client) (removed ++ task.removed?.toList)
        result ∧
      replica.store.space.values.Perm (task.removed?.toList ++ space.values) ∧
      (∀ pattern, request = .reserve pattern client →
        ∀ tuple ∈ replica.store.space.holdings client, tuple ∈ space.holdings client) := by
  cases ready with
  | @reserve source =>
      change (Pattern.parse source).map (.reserve · client) = .ok task at made
      cases parsed : Pattern.parse source with
      | error cause =>
          rw [parsed] at made
          cases made
      | ok pattern =>
          rw [parsed] at made
          cases made
          have grown := replica.store.space.mem_holdings_reserve pattern client
          refine ⟨_, (replica.store.space.reserve pattern client).2, rfl,
            .reserved fun tuple member => (grown tuple).mpr (Or.inr member), ?_, ?_⟩
          · rw [Space.values_reserve]
            exact List.Perm.refl _
          · exact fun _ _ tuple member => (grown tuple).mpr (Or.inl member)
  | release =>
      cases made
      refine ⟨_, _, rfl, .released, ?_, by simp⟩
      rw [Space.values_release]
      exact List.Perm.refl _
  | commit present fresh =>
      cases made
      obtain ⟨next, done⟩ := Space.commit_of_held present
      refine ⟨.ok .done, next, by simp [Replica.step, done], .removed rfl fresh, ?_, by simp⟩
      exact Space.values_commit done

end Request

/-! ## What a machine knows -/

namespace Holdings

/-- What is noted as locked at the replicas of a table is held there. -/
structure Backed (table : List (String × Nat)) (held : Nat → List String) (locked : Holdings) :
    Prop where
  distinct : (locked.map (·.1)).Nodup
  known : locked.map (·.1) ⊆ table.map (·.1)
  kept : ∀ {name : String} {node : Nat} {tuples : List String}, (name, node) ∈ table →
    locked.lookup name = some tuples → ∀ tuple ∈ tuples, tuple ∈ held node

variable {table : List (String × Nat)} {held later : Nat → List String} {locked : Holdings}

theorem backed_nil (table : List (String × Nat)) (held : Nat → List String) :
    Backed table held [] :=
  ⟨List.nodup_nil, by simp, fun _ found => by simp at found⟩

theorem Backed.kept_or_freed {other : Holdings} (backed : locked.Backed table held)
    (same : other = locked ∨ other = []) : other.Backed table held := by
  rcases same with rfl | rfl
  · exact backed
  · exact backed_nil table held

theorem Backed.mono (backed : locked.Backed table held)
    (grown : ∀ node, ∀ tuple ∈ held node, tuple ∈ later node) : locked.Backed table later :=
  ⟨backed.distinct, backed.known,
    fun row found tuple member => grown _ tuple (backed.kept row found tuple member)⟩

theorem Backed.noted (backed : locked.Backed table held) (names : (table.map (·.1)).Nodup)
    {offers : List (String × List String)}
    (asked : (offers.map (·.1)).Perm ((table.map (·.1)).filter fun name => !locked.has name))
    (offered : ∀ offer ∈ offers, ∀ node, (offer.1, node) ∈ table →
      ∀ tuple ∈ offer.2, tuple ∈ held node) :
    (locked.noted offers).Backed table held := by
  have fresh : (offers.map (·.1)).Nodup := asked.nodup_iff.mpr (names.filter _)
  have among : ∀ name ∈ offers.map (·.1), name ∈ table.map (·.1) ∧ locked.has name = false := by
    intro name member
    simpa using List.mem_filter.mp (asked.mem_iff.mp member)
  refine ⟨names_noted ?_, ?_, ?_⟩
  · refine List.nodup_append.mpr ⟨fresh, backed.distinct, ?_⟩
    rintro name member other inside rfl
    have unlocked := (among name member).2
    rw [has_iff.mpr inside] at unlocked
    cases unlocked
  · intro name member
    by_cases inside : name ∈ offers.map (·.1)
    · exact (among name inside).1
    · refine backed.known ?_
      rw [← lookup_isSome, lookup_noted_other locked inside] at member
      exact lookup_isSome.mp member
  · intro name node tuples row found
    by_cases inside : name ∈ offers.map (·.1)
    · obtain ⟨⟨_, given⟩, member, rfl⟩ := List.mem_map.mp inside
      rw [lookup_noted locked fresh member] at found
      split at found
      · exact backed.kept row found
      · cases found
        exact offered _ member node row
    · rw [lookup_noted_other locked inside] at found
      exact backed.kept row found

theorem Backed.held_everywhere (backed : locked.Backed table held)
    (full : locked.length = (table.map (·.1)).length) {tuple : String}
    (offered : tuple ∈ offeredByAll ((table.map (·.1)).filterMap fun name => locked.lookup name)) :
    ∀ row ∈ table, tuple ∈ held row.2 := by
  have all : (locked.map (·.1)).Perm (table.map (·.1)) :=
    (List.subperm_of_subset backed.distinct backed.known).perm_of_length_le (by simp [full])
  rintro ⟨name, node⟩ row
  have inside : name ∈ table.map (·.1) := List.mem_map.mpr ⟨_, row, rfl⟩
  obtain ⟨tuples, found⟩ :=
    Option.isSome_iff_exists.mp (lookup_isSome.mpr (all.mem_iff.mpr inside))
  exact backed.kept row found tuple
    (offered_by_each offered tuples (List.mem_filterMap.mpr ⟨name, inside, found⟩))

end Holdings

namespace TakeMachine

structure Rests (machine : TakeMachine) (taker : Taker) (table : List (String × Nat))
    (held : Nat → List String) : Prop where
  serves : machine.Serves taker (table.map (·.1))
  stage : machine.stage = .reserve
  backed : machine.locked.Backed table held

inductive Awaits (machine : TakeMachine) (taker : Taker) (table : List (String × Nat))
    (held : Nat → List String) : Request → Prop
  | reserving (serves : machine.Serves taker (table.map (·.1))) (stage : machine.stage = .reserving)
      (asked : machine.awaiting = (table.map (·.1)).filter fun name => !machine.locked.has name)
      (backed : machine.locked.Backed table held) :
      Awaits machine taker table held (.reserve taker.pattern taker.client)
  | releasing (serves : machine.Serves taker (table.map (·.1))) (stage : machine.stage = .releasing)
      (nothing : machine.locked = []) : Awaits machine taker table held (.release taker.client)
  | committing {tuple : String} (serves : machine.Serves taker (table.map (·.1)))
      (stage : machine.stage = .committing) (chosen : machine.chosen? = some tuple)
      (asked : machine.awaiting = table.map (·.1)) :
      Awaits machine taker table held (.commit tuple taker.client)

variable {machine : TakeMachine} {taker : Taker} {table : List (String × Nat)}
  {held later : Nat → List String} {request : Request}

/-- A machine does not mind if more is held, and after asking for reservations not if less is. -/
theorem Awaits.mono (awaits : machine.Awaits taker table held request)
    (grown : request = .reserve taker.pattern taker.client →
      ∀ node, ∀ tuple ∈ held node, tuple ∈ later node) :
    machine.Awaits taker table later request := by
  cases awaits with
  | reserving serves stage asked backed =>
      exact .reserving serves stage asked (backed.mono (grown rfl))
  | releasing serves stage nothing => exact .releasing serves stage nothing
  | committing serves stage chosen asked => exact .committing serves stage chosen asked

end TakeMachine

/-! ## Steps of an attempt -/

namespace AttemptStep

/-- An attempt is over, or frees what it may hold before it is. -/
inductive Retreats (set : ReplicaSet) (client : ClientId) : AttemptStep → Prop
  | fails {cause : ClientError} : Retreats set client (.ended (.error cause))
  | abandons {cause : ClientError} {exchange : Exchange} {handles : List Handle}
      (asked : set.fanOut set.qualifiers (.release client) = .ok (exchange, handles)) :
      Retreats set client (.post (.abandoning cause exchange) exchange.request handles)

inductive Proceeds (set : ReplicaSet) (taker : Taker) (held : Nat → List String) :
    AttemptStep → Prop
  | retreats {step : AttemptStep} (retreats : Retreats set taker.client step) :
      Proceeds set taker held step
  | pauses {machine : TakeMachine} {pause : Pause} (rests : machine.Rests taker set.table held) :
      Proceeds set taker held (.goOn (.pausing machine pause))
  | asks {machine : TakeMachine} {request : Request} {exchange : Exchange} {handles : List Handle}
      (awaits : machine.Awaits taker set.table held request)
      (distinct : machine.awaiting.Nodup)
      (ready : ∀ tuple, request = .commit tuple taker.client →
        ∀ row ∈ set.table, tuple ∈ held row.2)
      (asked : set.fanOut machine.awaiting request = .ok (exchange, handles)) :
      Proceeds set taker held (.post (.taking machine exchange) exchange.request handles)

variable {set : ReplicaSet} {taker : Taker} {held : Nat → List String} {machine : TakeMachine}
  {locked : Holdings} {replies : List (String × Response)}

theorem failing_retreats (set : ReplicaSet) (client : ClientId) (cause : ClientError) :
    Retreats set client (failingTake set client cause) := by
  unfold failingTake
  split
  · exact .fails
  · unfold abandoning
    split
    · rename_i exchange handles asked
      exact .abandons asked
    · exact .fails

theorem driving_proceeds (names : (set.table.map (·.1)).Nodup)
    (backed : locked.Backed set.table held)
    (decision : TakeMachine.Decision taker (set.table.map (·.1)) locked (machine.step replies)) :
    Proceeds set taker held (driving set machine replies) := by
  unfold driving
  generalize machine.step replies = decided at decision
  cases decision with
  | @reserves next serves stage kept asked =>
      dsimp only
      split
      · rename_i exchange handles posted
        refine .asks (.reserving serves stage asked (backed.kept_or_freed kept)) ?_ ?_ posted
        · exact asked ▸ names.filter _
        · exact fun tuple other => by cases other
      · exact .retreats (serves.client ▸ failing_retreats set _ _)
  | @frees next serves stage nothing known =>
      dsimp only
      split
      · rename_i exchange handles posted
        refine .asks (.releasing serves stage nothing) (known.nodup names) ?_ posted
        exact fun tuple other => by cases other
      · exact .retreats (serves.client ▸ failing_retreats set _ _)
  | pauses serves stage kept => exact .pauses ⟨serves, stage, backed.kept_or_freed kept⟩
  | @removes next tuple serves stage chosen asked full offered =>
      dsimp only
      split
      · rename_i exchange handles posted
        refine .asks (.committing serves stage chosen asked) (asked ▸ names) ?_ posted
        intro other same
        cases same
        exact backed.held_everywhere full offered
      · exact .retreats (serves.client ▸ failing_retreats set _ _)
  | fails whose =>
      dsimp only
      rw [whose]
      exact .retreats (failing_retreats set _ _)

theorem taking_proceeds (names : (set.table.map (·.1)).Nodup) :
    Proceeds set taker held (taking set taker.client taker.policy taker.pattern) := by
  unfold taking
  split
  · exact .retreats .fails
  · have serves : (taker.machine set.qualifiers).Serves taker (set.table.map (·.1)) :=
      ⟨rfl, rfl, set.qualifiers_eq, rfl⟩
    exact driving_proceeds names (Holdings.backed_nil _ _)
      (TakeMachine.step_from_reserve serves rfl)

theorem resting_proceeds (names : (set.table.map (·.1)).Nodup)
    (rests : machine.Rests taker set.table held) :
    Proceeds set taker held (driving set machine []) :=
  driving_proceeds names rests.backed (TakeMachine.step_from_reserve rests.serves rests.stage)

end AttemptStep

end TupleSpace
