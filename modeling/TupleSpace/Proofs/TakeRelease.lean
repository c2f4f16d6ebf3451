import TupleSpace.Proofs.ReplicaStep
import TupleSpace.Proofs.TakeAttempt

/-!
# What a take leaves held

A replica lists everything that it holds for a client when it is asked for reservations, what an
earlier attempt left behind included. So once a round of reservations is complete, nothing is held
where the machine has noted no lock. From there on a take that ends well, or that gives up after its
last retry, has freed all it held; and one that fails otherwise asks every replica to free it.
-/

namespace TupleSpace

open TupleSpace.Table

namespace Request

def client? : Request → Option ClientId
  | reserve _ client | release client | commit _ client => some client
  | _ => none

theorem client_of_task {request : Request} {task : Task} (made : request.task = .ok task) :
    task.client? = request.client? := by
  have parsed : ∀ {source : String} {make : Pattern → Task} {client? : Option ClientId},
      (∀ pattern, (make pattern).client? = client?) →
        (Pattern.parse source).map make = .ok task → task.client? = client? := by
    intro source make client? same made
    cases result : Pattern.parse source with
    | error cause =>
        rw [result] at made
        cases made
    | ok pattern =>
        rw [result] at made
        cases made
        exact same pattern
  cases request with
  | read pattern => exact parsed (fun _ => rfl) made
  | reserve pattern client => exact parsed (fun _ => rfl) made
  | _ =>
      cases made
      rfl

/-- What a request of a take leaves behind at a replica that has answered it. -/
inductive Settles (client : ClientId) (held : List String) :
    Request → Except StoreError Answer → Prop
  | refused {request : Request} {cause : StoreError} (may : request ≠ .release client) :
      Settles client held request (.error cause)
  | reserved {pattern : String} {tuples : List String} (all : held = tuples) :
      Settles client held (.reserve pattern client) (.ok (.tuples tuples))
  | released (nothing : held = []) : Settles client held (.release client) (.ok .done)
  | removed {tuple : String} (nothing : held = []) :
      Settles client held (.commit tuple client) (.ok .done)

inductive Belongs (client : ClientId) (source : String) : Request → Prop
  | reserve : Belongs client source (.reserve source client)
  | release : Belongs client source (.release client)
  | commit {tuple : String} : Belongs client source (.commit tuple client)

theorem Belongs.client {client : ClientId} {source : String} {request : Request}
    (belongs : request.Belongs client source) : request.client? = some client := by
  cases belongs <;> rfl

/-- A replica carries a request of a take out in one step that wakes nobody. What is held goes on
to be what the pattern hits. -/
theorem Belongs.carried_out {client : ClientId} {source : String} {request : Request} {task : Task}
    {replica : Replica} (belongs : request.Belongs client source) (made : request.task = .ok task)
    (hits : ∀ pattern, Pattern.parse source = .ok pattern →
      ∀ tuple ∈ replica.store.space.holdings client, pattern.hits tuple = true) :
    ∃ result space, replica.step task = ⟨.finish result, replica.withSpace space, []⟩ ∧
      request.Settles client (space.holdings client) result ∧
      ∀ pattern, Pattern.parse source = .ok pattern →
        ∀ tuple ∈ space.holdings client, pattern.hits tuple = true := by
  cases belongs with
  | reserve =>
      change (Pattern.parse source).map (.reserve · client) = .ok task at made
      cases parsed : Pattern.parse source with
      | error cause =>
          rw [parsed] at made
          cases made
      | ok pattern =>
          rw [parsed] at made
          cases made
          have hit := hits pattern parsed
          refine ⟨_, (replica.store.space.reserve pattern client).2, rfl,
            .reserved (Space.holdings_reserve_own _ pattern client hit), ?_⟩
          intro other same tuple member
          cases same
          rcases (Space.mem_holdings_reserve _ _ _ tuple).mp member with old | given
          · exact hit tuple old
          · exact Space.hits_of_reserved given
  | release =>
      cases made
      exact ⟨_, _, rfl, .released (Space.holdings_release_own _ _), by simp⟩
  | @commit tuple =>
      cases made
      cases done : replica.store.space.commit tuple client with
      | error cause =>
          exact ⟨.error cause, replica.store.space,
            by simp [Replica.step, done, Replica.withSpace], .refused (by simp), hits⟩
      | ok next =>
          have nothing := Space.holdings_commit_own done
          exact ⟨.ok .done, next, by simp [Replica.step, done], .removed nothing,
            by simp [nothing]⟩

end Request

/-! ## What a round leads to -/

namespace TakeMachine

variable {machine next : TakeMachine} {targets : List String} {client : ClientId} {retries : Nat}

theorem ask_pause_asks (machine : TakeMachine) :
    (∀ next targets client, machine.askPause ≠ (next, .ok (.send targets (.release client)))) ∧
      ∀ next retries, machine.askPause ≠ (next, .error (.backoffExceeded retries)) := by
  unfold askPause askReservations ask
  dsimp only
  split <;> simp

/-- A machine frees what it has noted as locked, and does not give up before it has. -/
theorem ask_release_asks (machine : TakeMachine) :
    (∀ next targets client, machine.askRelease = (next, .ok (.send targets (.release client))) →
        targets = machine.lockedReplicas) ∧
      ∀ next retries, machine.askRelease = (next, .error (.backoffExceeded retries)) →
        machine.lockedReplicas = [] := by
  unfold askRelease
  dsimp only
  split
  · rename_i nothing
    have none : machine.lockedReplicas = [] := by simpa using nothing
    refine ⟨?_, fun _ _ _ => none⟩
    intro next targets client
    split
    · simp [giveUp]
    · exact fun same => absurd same ((ask_pause_asks _).1 next targets client)
  · constructor
    · intro next targets client same
      simp only [ask, Prod.mk.injEq, Except.ok.injEq, TakeAction.send.injEq] at same
      exact same.2.1.symm
    · intro next retries same
      simp [ask] at same

theorem settled_asks (machine : TakeMachine) :
    (∀ next targets client,
        machine.settleRound.act = (next, .ok (.send targets (.release client))) →
          targets = machine.lockedReplicas) ∧
      ∀ next retries, machine.settleRound.act = (next, .error (.backoffExceeded retries)) →
        machine.lockedReplicas = [] := by
  cases quorum : Quorum.classify machine.locked.length machine.replicas.length with
  | minority =>
      rw [settle_minority quorum]
      exact ask_release_asks _
  | partialMajority =>
      rw [settle_partial quorum]
      have asks := ask_pause_asks { machine with pending? := some .settle, stage := .pause }
      exact ⟨fun next targets client same => absurd same (asks.1 next targets client),
        fun next retries same => absurd same (asks.2 next retries)⟩
  | full =>
      rw [settle_full quorum]
      cases offeredByAll machine.offers with
      | nil =>
          dsimp only
          split
          · exact ask_release_asks _
          · exact ask_release_asks _
      | cons tuple others => simp [act, askCommit, ask]

/-! ## What the machine waits for -/

/-- A machine that waits for replies to a request. Where it does not ask to free anything, nothing
is held. -/
inductive Asks (machine : TakeMachine) (taker : Taker) (table : List (String × Nat))
    (held : Nat → List String) : Request → Prop
  | reservations (serves : machine.Serves taker (table.map (·.1)))
      (stage : machine.stage = .reserving)
      (asked : machine.awaiting = (table.map (·.1)).filter fun name => !machine.locked.has name) :
      Asks machine taker table held (.reserve taker.pattern taker.client)
  | release (serves : machine.Serves taker (table.map (·.1))) (stage : machine.stage = .releasing)
      (nothing : machine.locked = [])
      (others : ∀ row ∈ table, row.1 ∉ machine.awaiting → held row.2 = []) :
      Asks machine taker table held (.release taker.client)
  | removal {tuple : String} (serves : machine.Serves taker (table.map (·.1)))
      (stage : machine.stage = .committing) (chosen : machine.chosen? = some tuple)
      (asked : machine.awaiting = table.map (·.1)) :
      Asks machine taker table held (.commit tuple taker.client)

variable {taker : Taker} {table : List (String × Nat)} {held later : Nat → List String}
  {request : Request}

theorem Asks.belongs (asks : machine.Asks taker table held request) :
    request.Belongs taker.client taker.pattern := by
  cases asks with
  | reservations => exact .reserve
  | release => exact .release
  | removal => exact .commit

theorem Asks.mono (asks : machine.Asks taker table held request)
    (same : ∀ row ∈ table, row.1 ∉ machine.awaiting → later row.2 = held row.2) :
    machine.Asks taker table later request := by
  cases asks with
  | reservations serves stage asked => exact .reservations serves stage asked
  | release serves stage nothing others =>
      exact .release serves stage nothing fun row member unasked =>
        (same row member unasked).trans (others row member unasked)
  | removal serves stage chosen asked => exact .removal serves stage chosen asked

end TakeMachine

namespace Holdings

theorem nothing_unlocked {locked : Holdings} {table : List (String × Nat)}
    {held : Nat → List String} {offers : List (String × List String)}
    (names : (table.map (·.1)).Nodup)
    (asked : (offers.map (·.1)).Perm ((table.map (·.1)).filter fun name => !locked.has name))
    (offered : ∀ offer ∈ offers, ∀ place, (offer.1, place) ∈ table → held place = offer.2) :
    ∀ row ∈ table, (locked.noted offers).has row.1 = false → held row.2 = [] := by
  rintro ⟨name, place⟩ row unlocked
  have fresh : (offers.map (·.1)).Nodup := asked.nodup_iff.mpr (names.filter _)
  by_cases inside : name ∈ offers.map (·.1)
  · obtain ⟨⟨_, tuples⟩, member, rfl⟩ := List.mem_map.mp inside
    rw [offered _ member place row]
    by_contra some
    rw [has, lookup_noted locked fresh member, if_neg some] at unlocked
    cases unlocked
  · have known : name ∈ table.map (·.1) := List.mem_map.mpr ⟨_, row, rfl⟩
    rw [has, lookup_noted_other locked inside] at unlocked
    refine absurd (asked.mem_iff.mpr (List.mem_filter.mpr ⟨known, ?_⟩)) inside
    simpa [has] using unlocked

end Holdings

/-! ## What an attempt goes on with -/

namespace ReplicaSet

theorem handle_of_mem {set : ReplicaSet} {handle : Handle} (names : set.qualifiers.Nodup)
    (member : handle ∈ set.handles) : set.handle handle.qualifier = .ok handle := by
  unfold ReplicaSet.handle
  cases found : set.handles.find? (fun other => other.qualifier == handle.qualifier) with
  | none =>
      have missing := List.find?_eq_none.mp found handle member
      simp at missing
  | some other =>
      have same : other.qualifier = handle.qualifier := by simpa using List.find?_some found
      have inside := List.mem_of_find?_eq_some found
      rw [List.inj_on_of_nodup_map names inside member same]

theorem handles_of_all {set : ReplicaSet} (names : set.qualifiers.Nodup) :
    set.handlesOf set.qualifiers = .ok set.handles := by
  have each : ∀ handles : List Handle, (∀ handle ∈ handles, handle ∈ set.handles) →
      (handles.map (·.qualifier)).mapM set.handle = .ok handles := by
    intro handles known
    induction handles with
    | nil => rfl
    | cons handle rest induction =>
        rw [List.map_cons, List.mapM_cons, handle_of_mem names (known handle (by simp)),
          induction fun other member => known other (List.mem_cons_of_mem _ member)]
        rfl
  exact each set.handles fun _ member => member

theorem fan_out_all {set : ReplicaSet} (names : set.qualifiers.Nodup) (request : Request) :
    ∃ exchange, set.fanOut set.qualifiers request = .ok (exchange, set.handles) :=
  ⟨_, by rw [fanOut, ask, handles_of_all names]; rfl⟩

end ReplicaSet

namespace AttemptStep

/-- What an attempt goes on with that is to leave nothing held. -/
inductive Tends (set : ReplicaSet) (taker : Taker) (held : Nat → List String) :
    AttemptStep → Prop
  | abandons {cause : ClientError} {exchange : Exchange}
      (other : ∀ retries, cause ≠ .backoffExceeded retries)
      (asked : set.fanOut set.qualifiers (.release taker.client) = .ok (exchange, set.handles)) :
      Tends set taker held (.post (.abandoning cause exchange) exchange.request set.handles)
  | exhausted {retries : Nat} (nothing : ∀ row ∈ set.table, held row.2 = []) :
      Tends set taker held (.ended (.error (.backoffExceeded retries)))
  | takes {tuple : String} (nothing : ∀ row ∈ set.table, held row.2 = []) :
      Tends set taker held (.ended (.ok (.tuple tuple)))
  | pauses {machine : TakeMachine} {pause : Pause}
      (serves : machine.Serves taker (set.table.map (·.1))) (stage : machine.stage = .reserve) :
      Tends set taker held (.goOn (.pausing machine pause))
  | asks {machine : TakeMachine} {request : Request} {exchange : Exchange} {handles : List Handle}
      (asks : machine.Asks taker set.table held request) (distinct : machine.awaiting.Nodup)
      (asked : set.fanOut machine.awaiting request = .ok (exchange, handles)) :
      Tends set taker held (.post (.taking machine exchange) exchange.request handles)

variable {set : ReplicaSet} {taker : Taker} {held : Nat → List String} {machine : TakeMachine}
  {locked : Holdings} {replies : List (String × Response)}

theorem failing_tends (names : (set.table.map (·.1)).Nodup) {cause : ClientError}
    (spent : ∀ retries, cause = .backoffExceeded retries → ∀ row ∈ set.table, held row.2 = []) :
    Tends set taker held (failingTake set taker.client cause) := by
  unfold failingTake
  split
  · exact .exhausted (spent _ rfl)
  · rename_i other
    obtain ⟨exchange, asked⟩ :=
      set.fan_out_all (set.qualifiers_eq ▸ names) (.release taker.client)
    unfold abandoning
    rw [asked]
    exact .abandons other asked

theorem fan_out_fails {targets : List String} {request : Request} {cause : ClientError}
    (failed : set.fanOut targets request = .error cause) :
    ∀ retries, cause ≠ .backoffExceeded retries := by
  have each : ∀ names : List String, ∀ cause, names.mapM set.handle = .error cause →
      ∀ retries, cause ≠ .backoffExceeded retries := by
    intro names
    induction names with
    | nil => intro cause failed; cases failed
    | cons name rest induction =>
        intro cause failed
        rw [List.mapM_cons] at failed
        cases first : set.handle name with
        | error other =>
            rw [first] at failed
            cases failed
            unfold ReplicaSet.handle at first
            split at first
            · cases first
            · cases first
              simp
        | ok handle =>
            cases others : rest.mapM set.handle with
            | error other =>
                rw [first, others] at failed
                cases failed
                exact induction _ others
            | ok tail =>
                rw [first, others] at failed
                cases failed
  unfold ReplicaSet.fanOut ReplicaSet.ask at failed
  cases found : set.handlesOf targets with
  | error other =>
      rw [found] at failed
      cases failed
      exact each _ _ found
  | ok handles =>
      rw [found] at failed
      cases failed

/-- A decision of the machine is carried out so that nothing is left held, if the machine frees
everything before it gives up. -/
theorem driving_tends (names : (set.table.map (·.1)).Nodup)
    (decision : TakeMachine.Decision taker (set.table.map (·.1)) locked (machine.step replies))
    (freed : ∀ next targets client,
      machine.step replies = (next, .ok (.send targets (.release client))) →
        ∀ row ∈ set.table, row.1 ∉ targets → held row.2 = [])
    (spent : ∀ next retries, machine.step replies = (next, .error (.backoffExceeded retries)) →
      ∀ row ∈ set.table, held row.2 = []) :
    Tends set taker held (driving set machine replies) := by
  have failed : ∀ {client : ClientId} {cause : ClientError}, client = taker.client →
      (∀ retries, cause ≠ .backoffExceeded retries) →
        Tends set taker held (failingTake set client cause) := by
    rintro client cause rfl other
    exact failing_tends names fun retries same => absurd same (other retries)
  unfold driving
  generalize machine.step replies = decided at decision freed spent
  cases decision with
  | @reserves next serves stage kept asked =>
      dsimp only
      split
      · rename_i exchange handles posted
        exact .asks (.reservations serves stage asked) (asked ▸ names.filter _) posted
      · rename_i cause unposted
        exact failed serves.client (fan_out_fails unposted)
  | @frees next serves stage nothing known =>
      dsimp only
      split
      · rename_i exchange handles posted
        exact .asks (.release serves stage nothing (freed _ _ _ rfl)) (known.nodup names) posted
      · rename_i cause unposted
        exact failed serves.client (fan_out_fails unposted)
  | pauses serves stage kept => exact .pauses serves stage
  | @removes next tuple serves stage chosen asked full offered =>
      dsimp only
      split
      · rename_i exchange handles posted
        exact .asks (.removal serves stage chosen asked) (asked ▸ names) posted
      · rename_i cause unposted
        exact failed serves.client (fan_out_fails unposted)
  | @fails next cause whose =>
      dsimp only
      rw [whose]
      exact failing_tends names fun retries same => spent next retries (by rw [same])

theorem resting_tends (names : (set.table.map (·.1)).Nodup)
    (serves : machine.Serves taker (set.table.map (·.1))) (stage : machine.stage = .reserve) :
    Tends set taker held (driving set machine []) := by
  have step : machine.step [] = machine.askReservations := by
    rw [TakeMachine.step_idle (by rw [stage]; rfl), TakeMachine.act, stage]
  refine driving_tends names (TakeMachine.step_from_reserve serves stage) ?_ ?_ <;> rw [step] <;>
    simp [TakeMachine.askReservations, TakeMachine.ask]

theorem taking_tends (names : (set.table.map (·.1)).Nodup) :
    (∃ cause, taking set taker.client taker.policy taker.pattern = .failing (.invalid cause)) ∨
      Tends set taker held (taking set taker.client taker.policy taker.pattern) := by
  unfold taking
  split
  · exact Or.inl ⟨_, rfl⟩
  · have serves : (taker.machine set.qualifiers).Serves taker (set.table.map (·.1)) :=
      ⟨rfl, rfl, set.qualifiers_eq, rfl⟩
    exact Or.inr (resting_tends names serves rfl)

def Answered (set : ReplicaSet) (taker : Taker) (held : Nat → List String) (request : Request)
    (replies : List (String × Response)) : Prop :=
  ∀ reply ∈ replies, ∃ place answer, (reply.1, place) ∈ set.table ∧
    reply.2 = request.response answer ∧ request.Settles taker.client (held place) (.ok answer)

theorem Answered.nothing {request : Request} {targets : List String}
    (names : (set.table.map (·.1)).Nodup)
    (settled : Answered set taker held request replies)
    (other : ∀ pattern, request ≠ .reserve pattern taker.client)
    (answered : (replies.map (·.1)).Perm targets) :
    (∀ reply ∈ replies, reply.2.isAcknowledgement = true) ∧
      ∀ row ∈ set.table, row.1 ∈ targets → held row.2 = [] := by
  constructor
  · intro reply member
    obtain ⟨place, answer, row, same, settles⟩ := settled reply member
    rw [same]
    cases settles with
    | reserved _ => exact absurd rfl (other _)
    | released _ => rfl
    | removed _ => rfl
  · intro row member asked
    obtain ⟨⟨name, response⟩, inside, same⟩ := List.mem_map.mp (answered.mem_iff.mpr asked)
    obtain ⟨place, answer, known, _, settles⟩ := settled _ inside
    have here : place = row.2 :=
      congrArg Prod.snd (List.inj_on_of_nodup_map names known member same)
    subst here
    cases settles with
    | reserved _ => exact absurd rfl (other _)
    | released nothing => exact nothing
    | removed nothing => exact nothing

theorem Answered.offers {pattern : String} (names : (set.table.map (·.1)).Nodup)
    (settled : Answered set taker held (.reserve pattern taker.client) replies) :
    ∃ offers : List (String × List String),
      replies = offers.map (fun offer => (offer.1, .reserved offer.2)) ∧
      ∀ offer ∈ offers, ∀ place, (offer.1, place) ∈ set.table → held place = offer.2 := by
  have given : ∀ reply ∈ replies, ∃ tuples, reply.2 = .reserved tuples ∧
      ∀ place, (reply.1, place) ∈ set.table → held place = tuples := by
    intro reply member
    obtain ⟨place, answer, row, same, settles⟩ := settled reply member
    cases settles with
    | @reserved _ tuples all =>
        refine ⟨tuples, same, fun other known => ?_⟩
        have here : other = place :=
          congrArg Prod.snd (List.inj_on_of_nodup_map names known row rfl)
        rw [here, all]
  refine ⟨replies.map fun reply => (reply.1, reply.2.reserved?.getD []), ?_, ?_⟩
  · rw [List.map_map]
    conv_lhs => rw [← List.map_id replies]
    apply List.map_congr_left
    rintro ⟨name, response⟩ member
    obtain ⟨tuples, same, _⟩ := given _ member
    change response = .reserved tuples at same
    subst same
    rfl
  · intro offer member
    obtain ⟨⟨name, response⟩, inside, rfl⟩ := List.mem_map.mp member
    obtain ⟨tuples, same, held⟩ := given _ inside
    change response = .reserved tuples at same
    subst same
    exact held

/-- With all replies in, nothing is held but what the machine goes on to free or to remove. -/
theorem answered_tends (names : (set.table.map (·.1)).Nodup) {request : Request}
    (asks : machine.Asks taker set.table held request)
    (answered : (replies.map (·.1)).Perm machine.awaiting)
    (settled : Answered set taker held request replies) :
    Tends set taker held (driving set machine replies) := by
  cases asks with
  | reservations serves stage asked =>
      obtain ⟨offers, same, offered⟩ := settled.offers names
      subst same
      have given : (offers.map (·.1)).Perm machine.awaiting := by
        simpa [List.map_map, Function.comp_def] using answered
      have unlocked := Holdings.nothing_unlocked names (asked ▸ given) offered
      have step := TakeMachine.step_reserving stage given
      obtain ⟨frees, spends⟩ := TakeMachine.settled_asks
        { machine with awaiting := [], locked := machine.locked.noted offers }
      refine driving_tends names (TakeMachine.step_from_reserving serves stage given) ?_ ?_
      · intro next targets client decided row member unasked
        rw [step] at decided
        rw [frees next targets client decided] at unasked
        refine unlocked row member ?_
        have known : row.1 ∈ machine.replicas :=
          serves.replicas ▸ List.mem_map.mpr ⟨row, member, rfl⟩
        simpa [TakeMachine.lockedReplicas, known] using unasked
      · intro next retries decided row member
        rw [step] at decided
        have none := spends next retries decided
        refine unlocked row member ?_
        have known : row.1 ∈ machine.replicas :=
          serves.replicas ▸ List.mem_map.mpr ⟨row, member, rfl⟩
        simpa using List.filter_eq_nil_iff.mp none row.1 known
  | release serves stage nothing others =>
      obtain ⟨acknowledged, freed⟩ := settled.nothing names (by simp) answered
      have empty : ∀ row ∈ set.table, held row.2 = [] := by
        intro row member
        by_cases asked : row.1 ∈ machine.awaiting
        · exact freed row member asked
        · exact others row member asked
      exact driving_tends names
        (TakeMachine.step_from_releasing serves stage nothing answered acknowledged)
        (fun _ _ _ _ row member _ => empty row member) (fun _ _ _ => empty)
  | @removal tuple serves stage chosen asked =>
      obtain ⟨acknowledged, freed⟩ := settled.nothing names (by simp) answered
      have taken := TakeMachine.step_from_committing stage chosen answered acknowledged
      unfold driving
      rw [show machine.step replies = ((machine.step replies).1, .ok (.taken tuple)) from
        Prod.ext rfl taken]
      refine .takes fun row member => freed row member ?_
      rw [asked]
      exact List.mem_map.mpr ⟨row, member, rfl⟩

end AttemptStep

end TupleSpace
