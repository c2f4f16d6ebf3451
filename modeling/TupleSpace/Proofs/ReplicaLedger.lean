import TupleSpace.Proofs.NetworkHistory
import TupleSpace.Proofs.NumberedTakes

/-!
# Ledgers of the replicas

What a history tells of one replica: the calls that were made there, the operations that had their
turn, and what the steps under a number took out of the store. If all calls put and take under
numbers, each number always with the same operation, then the services bear out what is told.
-/

namespace TupleSpace

def Operation.numbered? : Operation → Option (Nat × SequencedOp)
  | .query (.sequencedPut number tuple) => some (number, .put tuple)
  | .query (.sequencedTake number pattern) => some (number, .take pattern)
  | _ => none

namespace Deed

def place? : Deed → Option Nat
  | reaches _ place _ | works place _ _ => some place
  | _ => none

def issued? : Deed → Option (Nat × SequencedOp)
  | begins _ _ _ operation? => operation?.bind (·.numbered?)
  | posts _ _ _ | reaches _ _ _ | works _ _ _ => none

variable (place : Nat)

def made? : Deed → Option (Except StoreError Task)
  | reaches _ other request => if other = place then some request.task else none
  | _ => none

/-- An operation that a replica applies, which changes the replica, and what comes of it. -/
def turn? : Deed → Option (Nat × SequencedOp × Except StoreError Applied)
  | works other replica (.turn number op goal) =>
      if other = place ∧ (replica.step (.turn number op goal)).replica ≠ replica then
        some (number, op, (op.apply replica.store).1)
      else none
  | _ => none

def collected? : Deed → Option (Nat × String)
  | works other replica (.handoff ticket _) =>
      if other = place then
        (replica.store.collect? ticket).map fun pair => (ticket, pair.1)
      else none
  | _ => none

def removed (number : Nat) : Deed → List String
  | works other replica task =>
      if other = place ∧ task.number? = some number then replica.removed task else []
  | _ => []

end Deed

def turnsAt (place : Nat) (record : List Deed) :
    List (Nat × SequencedOp × Except StoreError Applied) :=
  record.filterMap (·.turn? place)

def removedAt (place number : Nat) (record : List Deed) : List String :=
  record.flatMap (·.removed place number)

def issued (record : List Deed) : List (Nat × SequencedOp) :=
  record.filterMap (·.issued?)

def ledgerAt (place : Nat) (record : List Deed) : Ledger where
  made := record.filterMap (·.made? place)
  turns := (turnsAt place record).map fun turn => (turn.1, turn.2.2)
  collected := record.filterMap (·.collected? place)

section

variable {place : Nat} {record : List Deed} {deed : Deed} {replica : Replica} {task : Task}

/-! ## One more deed -/

theorem filter_map_noted {α : Type} (note? : Deed → Option α) :
    (record ++ [deed]).filterMap note? = record.filterMap note? ++ (note? deed).toList := by
  rw [List.filterMap_append]
  rfl

theorem turns_noted : turnsAt place (record ++ [deed]) =
    turnsAt place record ++ (deed.turn? place).toList :=
  filter_map_noted _

theorem removed_noted (number : Nat) : removedAt place number (record ++ [deed]) =
    removedAt place number record ++ deed.removed place number := by
  rw [removedAt, List.flatMap_append, List.flatMap_singleton, removedAt]

theorem ledger_noted : ledgerAt place (record ++ [deed]) =
    { made := (ledgerAt place record).made ++ (deed.made? place).toList
      turns := (ledgerAt place record).turns ++
        (deed.turn? place).toList.map fun turn => (turn.1, turn.2.2)
      collected := (ledgerAt place record).collected ++ (deed.collected? place).toList } := by
  simp only [ledgerAt, turns_noted, filter_map_noted, List.map_append]

theorem ledger_reached (exchange : Nat) (request : Request) :
    ledgerAt place (record ++ [.reaches exchange place request]) =
      { ledgerAt place record with made := (ledgerAt place record).made ++ [request.task] } := by
  simp [ledger_noted, Deed.made?, Deed.turn?, Deed.collected?]

theorem ledger_worked :
    ledgerAt place (record ++ [.works place replica task]) =
      (ledgerAt place record).after replica task := by
  rw [ledger_noted]
  cases task with
  | turn number op goal =>
      by_cases now : number = replica.gate.next
      · simp [Deed.made?, Deed.turn?, Deed.collected?, Ledger.after, now, replica.turn_changes]
      · simp [Deed.made?, Deed.turn?, Deed.collected?, Ledger.after, now,
          replica.step_out_of_turn now]
  | handoff ticket number? =>
      cases collected : replica.store.collect? ticket <;>
        simp [Deed.made?, Deed.turn?, Deed.collected?, Ledger.after, collected]
  | _ => simp [Deed.made?, Deed.turn?, Deed.collected?, Ledger.after]

theorem Deed.reaches_of_made {made : Except StoreError Task}
    (makes : deed.made? place = some made) :
    ∃ exchange request, deed = .reaches exchange place request ∧ request.task = made := by
  cases deed with
  | reaches exchange other request =>
      obtain ⟨rfl, same⟩ := Option.ite_none_right_eq_some.mp makes
      exact ⟨exchange, request, rfl, Option.some.inj same⟩
  | _ => cases makes

theorem Deed.silent (elsewhere : deed.place? ≠ some place) :
    deed.made? place = none ∧ deed.turn? place = none ∧ deed.collected? place = none ∧
      ∀ number, deed.removed place number = [] := by
  cases deed with
  | begins _ _ _ _ => exact ⟨rfl, rfl, rfl, fun _ => rfl⟩
  | posts _ _ _ => exact ⟨rfl, rfl, rfl, fun _ => rfl⟩
  | reaches exchange other request =>
      have apart : other ≠ place := fun same => elsewhere (congrArg some same)
      simp [made?, turn?, collected?, removed, apart]
  | works other replica task =>
      have apart : other ≠ place := fun same => elsewhere (congrArg some same)
      cases task <;> simp [made?, turn?, collected?, removed, apart]

theorem told_elsewhere (record : List Deed) (elsewhere : deed.place? ≠ some place) :
    ledgerAt place (record ++ [deed]) = ledgerAt place record ∧
      turnsAt place (record ++ [deed]) = turnsAt place record ∧
      ∀ number, removedAt place number (record ++ [deed]) = removedAt place number record := by
  obtain ⟨made, turn, collected, removed⟩ := Deed.silent elsewhere
  simp [ledger_noted, turns_noted, removed_noted, made, turn, collected, removed]

end

/-! ## Services that bear a history out -/

/-- A replica has done what is told of it, and that were numbered operations only. -/
structure Attested (op : Nat → SequencedOp) (first : Nat) (record : List Deed) (place : Nat)
    (service : Service) : Prop where
  run : Service.Run first op (ledgerAt place record) service
  turns : ∀ turn ∈ turnsAt place record, turn.2.1 = op turn.1 ∧
    ∃ asked, .ok asked ∈ (ledgerAt place record).made ∧ asked.number? = some turn.1
  removed : ∀ number, removedAt place number record = (ledgerAt place record).obtained number

namespace Attested

variable {op : Nat → SequencedOp} {first place : Nat} {record : List Deed} {service next : Service}

theorem start (op : Nat → SequencedOp) (first place : Nat) :
    Attested op first [] place (.start first) :=
  ⟨.start, by simp [turnsAt], fun _ => rfl⟩

theorem still (attested : Attested op first record place service) {deeds : List Deed}
    (elsewhere : ∀ deed ∈ deeds, deed.place? ≠ some place) :
    Attested op first (record ++ deeds) place service := by
  induction deeds generalizing record with
  | nil => rwa [List.append_nil]
  | cons deed rest induction =>
      obtain ⟨ledger, turns, removed⟩ :=
        told_elsewhere record (elsewhere deed (List.mem_cons_self ..))
      rw [List.append_cons]
      refine induction ⟨?_, ?_, fun number => ?_⟩ fun later member =>
        elsewhere later (List.mem_cons_of_mem deed member)
      · rw [ledger]
        exact attested.run
      · rw [ledger, turns]
        exact attested.turns
      · rw [ledger, removed]
        exact attested.removed number

theorem called (attested : Attested op first record place service) (exchange : Nat)
    {request : Request} (admitted : (ledgerAt place record).Admits op request.task) :
    Attested op first (record ++ [.reaches exchange place request]) place
      (service.call request.task) := by
  refine ⟨?_, ?_, fun number => ?_⟩
  · rw [ledger_reached]
    exact .call attested.run admitted
  · simp only [turns_noted, Deed.turn?, Option.toList_none, List.append_nil, ledger_reached]
    intro turn member
    obtain ⟨same, asked, made, number⟩ := attested.turns turn member
    exact ⟨same, asked, List.mem_append_left _ made, number⟩
  · simp only [removed_noted, Deed.removed, List.append_nil, ledger_reached]
    exact attested.removed number

/-- What a call works on belongs to the number that it was made with. -/
theorem running (attested : Attested op first record place service) {call : Nat} {task : Task}
    (running : service.calls[call]? = some (.running task)) :
    (ledgerAt place record).Allows op task ∧
      ∃ asked, .ok asked ∈ (ledgerAt place record).made ∧ task.number? = asked.number? := by
  have sound := Service.sound_run attested.run
  have count : call < (ledgerAt place record).made.length :=
    sound.count ▸ (List.getElem?_eq_some_iff.mp running).1
  obtain ⟨allows, asked, made, number⟩ :=
    sound.calls (List.getElem?_eq_getElem count) running
  exact ⟨allows, asked, made ▸ List.getElem_mem count, number⟩

theorem worked (attested : Attested op first record place service) {call : Nat} {task : Task}
    (running : service.calls[call]? = some (.running task))
    (stepped : service.step? call = some next) :
    Attested op first (record ++ [.works place service.replica task]) place next := by
  obtain ⟨allows, asked, made, number⟩ := attested.running running
  have follows := (Service.sound_run attested.run).follows
  refine ⟨?_, ?_, fun other => ?_⟩
  · rw [ledger_worked]
    exact .step attested.run running stepped
  · rw [turns_noted, ledger_worked, Service.made_after]
    intro turn member
    rcases List.mem_append.mp member with earlier | now
    · exact attested.turns turn earlier
    · cases task with
      | turn own op goal =>
          simp only [Deed.turn?, true_and] at now
          split at now
          · rw [Option.toList_some, List.mem_singleton] at now
            subst now
            exact ⟨allows.1, asked, made, number.symm⟩
          · cases now
      | _ => cases now
  · rw [ledger_worked, removed_noted, follows.obtains allows, attested.removed other]
    simp only [Deed.removed, true_and]

end Attested

namespace Cluster

variable {cluster : Cluster} {first place : Nat} {node : Node}

/-- The service of a replica. Where there is no replica, nothing ever happens. -/
def serviceAt (cluster : Cluster) (first place : Nat) : Service :=
  (cluster.nodes[place]?).elim (.start first) (·.service)

theorem service_at (target : cluster.nodes[place]? = some node) :
    cluster.serviceAt first place = node.service := by
  rw [serviceAt, target, Option.elim_some]

theorem service_fresh (fresh : ∀ node ∈ cluster.nodes, node.service = .start first)
    (place : Nat) : cluster.serviceAt first place = .start first := by
  unfold serviceAt
  cases found : cluster.nodes[place]? with
  | none => rfl
  | some node => exact fresh node (List.mem_of_getElem? found)

theorem attested_set {op : Nat → SequencedOp} {record : List Deed} {deed : Deed} {next : Node}
    (attested : ∀ place, Attested op first record place (cluster.serviceAt first place))
    (target : cluster.nodes[place]? = some node) (here : deed.place? = some place)
    (now : Attested op first (record ++ [deed]) place next.service) (other : Nat) :
    Attested op first (record ++ [deed]) other
      ((cluster.setNode place next).serviceAt first other) := by
  unfold serviceAt
  rw [node_set target]
  split
  · rename_i same
    subst other
    exact now
  · rename_i apart
    refine (attested other).still fun later member => ?_
    rw [List.mem_singleton.mp member, here]
    exact fun same => apart (Option.some.inj same)

end Cluster

end TupleSpace
