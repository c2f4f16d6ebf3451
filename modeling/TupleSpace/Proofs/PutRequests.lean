import TupleSpace.Proofs.Dispatch
import TupleSpace.Proofs.RepeatedPuts
import TupleSpace.Proofs.SharedNames

/-!
# The requests of a put

A put by quorum asks every replica to take its tuple. Of each replica it is known how often it was
asked to in vain, by attempts that have failed, and how the request of the attempt under way fares:
a request that was answered had the tuple put once more.
-/

namespace TupleSpace

namespace Cluster

def replica? (cluster : Cluster) (place : Nat) : Option Replica :=
  (cluster.nodes[place]?).map (·.service.replica)

variable {cluster : Cluster} {place : Nat} {node : Node}

theorem replica_at (target : cluster.nodes[place]? = some node) :
    cluster.replica? place = some node.service.replica := by
  rw [replica?, target, Option.map_some]

theorem replica_set (target : cluster.nodes[place]? = some node) (next : Node) (other : Nat) :
    (cluster.setNode place next).replica? other =
      if place = other then some next.service.replica else cluster.replica? other := by
  unfold replica?
  rw [node_set target]
  split <;> rfl

theorem reaches_serving (target : cluster.nodes[place]? = some node) (service : Service)
    (other : Nat) :
    (cluster.setNode place { node with service }).Reaches other ↔ cluster.Reaches other := by
  refine ⟨fun ⟨reached, there, up⟩ => ?_, reaches_set target rfl⟩
  rw [node_set target] at there
  split at there
  · rename_i here
    subst here
    cases there
    exact ⟨node, target, up⟩
  · exact ⟨reached, there, up⟩

end Cluster

/-! ## A put and its requests -/

structure Deposit where
  first : Network
  session : Session
  index : Nat
  job : Nat
  tuple : String
  table : List (String × Nat)

namespace Deposit

def puts (deposit : Deposit) (log : List (Nat × Task)) (place : Nat) : Nat :=
  log.count (place, .put deposit.tuple)

/-- Nothing can keep a request from being answered. -/
def Safe (deposit : Deposit) : Prop :=
  (∀ fault ∈ deposit.first.faults, fault.procedure ≠ "put") ∧
    ∀ row ∈ deposit.table, deposit.first.cluster.Reaches row.2

def Clean (deposit : Deposit) : Prop := deposit.session.config.callRetries = 0 ∨ deposit.Safe

structure Fair (deposit : Deposit) : Prop where
  there : deposit.first.sessions[deposit.index]? = some deposit.session
  finds : deposit.first.Finds deposit.session deposit.table
  names : (deposit.table.map (·.1)).Nodup
  places : (deposit.table.map (·.2)).Nodup
  honest : ∀ fault ∈ deposit.first.faults, fault.effect = .drop ∨ fault.effect = .loseReply

structure Own (deposit : Deposit) (errand : Errand) : Prop where
  session : errand.session = deposit.index
  operation : errand.operation = .query (.put deposit.tuple)

/-- A replica took the tuple once more than it had before the attempt. -/
def Served (deposit : Deposit) (log : List (Nat × Task)) (base : Nat → Nat) (place : Nat) : Prop :=
  deposit.puts log place = base place + 1 ∧ deposit.first.cluster.Reaches place

def Fares (deposit : Deposit) (log : List (Nat × Task)) (cluster : Cluster) (base : Nat → Nat)
    (parcel : Parcel) : Prop :=
  parcel.Bides cluster (fun place => deposit.puts log place = base place)
    fun place result => result = .ok .done ∧ deposit.Served log base place

/-- The replicas and their calls. Every replica is what the puts have made of it, and every call
stands by or carries a request out. -/
structure Stocks (deposit : Deposit) (log : List (Nat × Task)) (cluster : Cluster)
    (parcels : List Parcel) : Prop where
  replicas : ∀ place, cluster.replica? place =
    (deposit.first.cluster.replica? place).map (·.afterPuts deposit.tuple (deposit.puts log place))
  elsewhere : ∀ place, place ∉ deposit.table.map (·.2) → deposit.puts log place = 0
  reaches : ∀ place, cluster.Reaches place ↔ deposit.first.cluster.Reaches place
  calls : ∀ {place call : Nat} {node : Node} {state : CallState},
    cluster.nodes[place]? = some node → node.service.calls[call]? = some state →
      state.StandsBy node.service.replica.store deposit.tuple ∨
        state = .running (.put deposit.tuple) ∧ ∃ parcel ∈ parcels, parcel.IsAt place call

structure Gathers (deposit : Deposit) (log : List (Nat × Task)) (cluster : Cluster)
    (parcels : List Parcel) (base : Nat → Nat) (exchange : Exchange) : Prop where
  valid : checkTuple deposit.tuple = .ok ()
  request : exchange.request = .put deposit.tuple
  expected : exchange.expected? = some .acknowledgement
  dispatch : Dispatch deposit.table (deposit.Fares log cluster base)
    (fun place _ => deposit.Served log base place) parcels (deposit.table.map (·.1)) exchange
  reached : ∀ parcel ∈ parcels, parcel.state ≠ .unsent →
    deposit.first.cluster.Reaches parcel.handle.node
  kept : deposit.Safe → exchange.collector.failures = [] ∧
    ∀ parcel ∈ parcels, ∀ call, parcel.state ≠ .delivered call true
  fresh : deposit.Clean → ∀ place, base place = 0

variable {deposit : Deposit} {log : List (Nat × Task)} {cluster next : Cluster}
  {parcels rest : List Parcel} {base : Nat → Nat} {exchange : Exchange} {parcel : Parcel}

theorem puts_now (deposit : Deposit) (log : List (Nat × Task)) (place : Nat) :
    deposit.puts (log ++ [(place, .put deposit.tuple)]) place = deposit.puts log place + 1 := by
  simp [puts]

theorem puts_elsewhere (deposit : Deposit) {place other : Nat} (apart : other ≠ place)
    (log : List (Nat × Task)) (task : Task) :
    deposit.puts (log ++ [(place, task)]) other = deposit.puts log other := by
  simp [puts, Ne.symm apart]

theorem puts_unchanged (deposit : Deposit) {task : Task} (different : task ≠ .put deposit.tuple)
    (log : List (Nat × Task)) (place other : Nat) :
    deposit.puts (log ++ [(place, task)]) other = deposit.puts log other := by
  simp [puts, different]

namespace Gathers

theorem perm (gathers : deposit.Gathers log cluster parcels base exchange)
    (same : parcels.Perm rest) : deposit.Gathers log cluster rest base exchange where
  valid := gathers.valid
  request := gathers.request
  expected := gathers.expected
  dispatch := gathers.dispatch.perm same
  reached := fun parcel member => gathers.reached parcel (same.mem_iff.mpr member)
  kept := fun safe => ⟨(gathers.kept safe).1,
    fun parcel member => (gathers.kept safe).2 parcel (same.mem_iff.mpr member)⟩
  fresh := gathers.fresh

theorem spared {later : List (Nat × Task)}
    (gathers : deposit.Gathers log cluster parcels base exchange)
    (spares : cluster.Spares next parcels)
    (same : ∀ place, deposit.puts later place = deposit.puts log place) :
    deposit.Gathers later next parcels base exchange := by
  have served : ∀ place, deposit.Served log base place → deposit.Served later base place :=
    fun place => by
      unfold Served
      rw [same]
      exact id
  refine { gathers with dispatch := gathers.dispatch.mono ?_ fun _ _ place _ _ => served place }
  intro parcel member bides
  exact bides.mono spares member (same parcel.handle.node ▸ id)
    fun result settled => ⟨settled.1, served _ settled.2⟩

theorem delivered (gathers : deposit.Gathers log cluster (parcel :: rest) base exchange)
    {node : Node} {isReplyLost : Bool} (unsent : parcel.state = .unsent)
    (target : cluster.nodes[parcel.handle.node]? = some node)
    (reached : deposit.first.cluster.Reaches parcel.handle.node)
    (safe : deposit.Safe → isReplyLost = false) :
    deposit.Gathers log
      (cluster.setNode parcel.handle.node
        { node with service := node.service.call parcel.request.task })
      ({ parcel with state := .delivered node.service.calls.length isReplyLost } :: rest) base
      exchange := by
  have spared := gathers.spared (Cluster.spares_called target parcel.request.task (parcel :: rest))
    fun _ => rfl
  obtain ⟨request, _, bides⟩ := gathers.dispatch.posted parcel List.mem_cons_self
  have made := Cluster.call_made target parcel.request.task
  have asked : parcel.request.task = .ok (.put deposit.tuple) := by
    rw [request, gathers.request]
    rfl
  refine { spared with
    dispatch := spared.dispatch.changed _ (bides.delivered unsent made fun cause refused _ => ?_)
    reached := ?_
    kept := ?_ }
  · rw [asked] at refused
    cases refused
  · intro other member sent
    rcases List.mem_cons.mp member with rfl | old
    · exact reached
    · exact gathers.reached other (List.mem_cons_of_mem _ old) sent
  · intro spares
    refine ⟨(gathers.kept spares).1, fun other member call => ?_⟩
    rcases List.mem_cons.mp member with rfl | old
    · simp [safe spares]
    · exact (gathers.kept spares).2 other (List.mem_cons_of_mem _ old) call

theorem worked (gathers : deposit.Gathers log cluster (parcel :: rest) base exchange)
    (fair : deposit.Fair) {call : Nat} {node : Node} {service : Service}
    (here : parcel.IsAt parcel.handle.node call)
    (target : cluster.nodes[parcel.handle.node]? = some node)
    (running : node.service.calls[call]? = some (.running (.put deposit.tuple)))
    (stepped : node.service.step? call = some service) :
    deposit.Gathers (log ++ [(parcel.handle.node, .put deposit.tuple)])
      (cluster.setNode parcel.handle.node { node with service }) (parcel :: rest) base
      exchange := by
  obtain ⟨_, _, bides⟩ := gathers.dispatch.posted parcel List.mem_cons_self
  have waits := (bides.of_running here.2 ((Cluster.call_at target).trans running)).2
  have reached := gathers.reached parcel List.mem_cons_self fun unsent => by
    simp [Parcel.IsAt, unsent, ParcelState.call?] at here
  have served : deposit.Served (log ++ [(parcel.handle.node, .put deposit.tuple)]) base
      parcel.handle.node := ⟨by rw [puts_now, waits], reached⟩
  have finished : (cluster.setNode parcel.handle.node { node with service }).call?
      parcel.handle.node call = some (.finished (.ok .done)) := by
    rw [Cluster.call_set target, if_pos rfl]
    change service.calls[call]? = _
    rw [(Cluster.worked_calls running stepped).2 call, if_pos rfl,
      (node.service.replica.put_accepted gathers.valid).1]
    rfl
  have others : ∀ other ∈ rest, other.handle.node ≠ parcel.handle.node := fun other member =>
    gathers.dispatch.apart fair.places member
  have spares := Cluster.spares_worked rest target running stepped fun other member placed =>
    others other member placed.1
  refine { gathers with dispatch := gathers.dispatch.mono ?_ ?_ }
  · intro other member bides
    rcases List.mem_cons.mp member with rfl | old
    · exact .finished here.2 finished ⟨rfl, served⟩
    · have same := deposit.puts_elsewhere (others other old) log (.put deposit.tuple)
      refine bides.mono spares old (fun waits => same.trans waits) fun result settled => ?_
      exact ⟨settled.1, same.trans settled.2.1, settled.2.2⟩
  · intro reply member place _ row settled
    have apart := gathers.dispatch.replied_apart fair.places member row
    exact ⟨(deposit.puts_elsewhere apart log _).trans settled.1, settled.2⟩

/-- An answer is recorded. It is an acknowledgement if nothing can keep a request from being
answered. -/
theorem answered (gathers : deposit.Gathers log cluster (parcel :: rest) base exchange)
    {answer : Except TransportError Reply}
    (told : ∀ reply, answer = .ok reply →
      reply = .ok .put ∧ deposit.Served log base parcel.handle.node)
    (safe : deposit.Safe → ∃ reply, answer = .ok reply) :
    deposit.Gathers log cluster rest base (exchange.record parcel.handle.qualifier answer) := by
  have request := (gathers.dispatch.posted parcel List.mem_cons_self).1.trans gathers.request
  have recorded := gathers.dispatch.record fun response (ok : answer = .ok (.ok response)) => by
    obtain ⟨same, served⟩ := told _ ok
    cases same
    exact ⟨.done, by rw [request]; rfl, served⟩
  refine ⟨gathers.valid, gathers.request, gathers.expected, recorded,
    fun other member => gathers.reached other (List.mem_cons_of_mem _ member), ?_, gathers.fresh⟩
  intro spares
  obtain ⟨unfailed, sound⟩ := gathers.kept spares
  refine ⟨?_, fun other member => sound other (List.mem_cons_of_mem _ member)⟩
  obtain ⟨reply, rfl⟩ := safe spares
  obtain ⟨rfl, _⟩ := told reply rfl
  have outcome : exchange.outcome parcel.handle.qualifier (.ok (.ok .put)) =
      .ok (parcel.handle.qualifier, .put) := by
    simp [Exchange.outcome, gathers.expected, Response.meets, Response.isAcknowledgement]
  rw [Exchange.record, outcome]
  exact unfailed

theorem looks (gathers : deposit.Gathers log cluster parcels base exchange) (fair : deposit.Fair)
    {progress : Exchange.Progress} (looked : exchange.look? = some progress) :
    parcels = [] ∧
      ((∃ next, progress = .goOn { exchange with next } ∧
          deposit.Gathers log cluster parcels base { exchange with next }) ∨
        (∃ cause, progress = .finished (.error cause) ∧ ¬deposit.Safe) ∨
        ∃ replies, progress = .finished (.ok replies) ∧
          ∀ row ∈ deposit.table, deposit.Served log base row.2) := by
  obtain ⟨nothing, ⟨later, goes, dispatch⟩ | ⟨cause, failed, _⟩ | ⟨done, all⟩⟩ :=
    gathers.dispatch.looks looked
  · refine ⟨nothing, Or.inl ⟨later, goes, ?_⟩⟩
    exact ⟨gathers.valid, gathers.request, gathers.expected, dispatch, gathers.reached,
      gathers.kept, gathers.fresh⟩
  · refine ⟨nothing, Or.inr (Or.inl ⟨cause, failed, fun spares => ?_⟩)⟩
    have unfailed := (gathers.kept spares).1
    subst failed
    unfold Exchange.look? at looked
    split at looked
    · split at looked <;> cases looked
    · rw [Collector.firstFailure?, unfailed] at looked
      cases looked
    · cases looked
  · refine ⟨nothing, Or.inr (Or.inr ⟨_, done, fun row member => ?_⟩)⟩
    obtain ⟨reply, inside, name⟩ := List.mem_map.mp (all.mem_iff.mpr (List.mem_map_of_mem member))
    obtain ⟨_, place, _, there, _, served⟩ := gathers.dispatch.answers reply inside
    have same := List.inj_on_of_nodup_map fair.names there member name
    rw [← same]
    exact served

end Gathers

/-! ## Events at the replicas -/

theorem apart_perm {index : Nat} (found : parcels[index]? = some parcel) :
    parcels.Perm (parcel :: parcels.eraseIdx index) := by
  obtain ⟨bound, rfl⟩ := List.getElem?_eq_some_iff.mp found
  exact (List.getElem_cons_eraseIdx_perm bound).symm

theorem moved_perm {index : Nat} (found : parcels[index]? = some parcel) (moved : Parcel) :
    (parcels.set index moved).Perm (moved :: parcels.eraseIdx index) :=
  List.set_perm_cons_eraseIdx (List.getElem?_eq_some_iff.mp found).1 moved

namespace Stocks

variable {index call : Nat} {node : Node}

theorem recorded (stocks : deposit.Stocks log cluster parcels)
    (found : parcels[index]? = some parcel)
    (ended : ∀ call, parcel.state.call? = some call → ∀ task,
      cluster.call? parcel.handle.node call ≠ some (.running task)) :
    deposit.Stocks log cluster (parcels.eraseIdx index) := by
  refine { stocks with calls := fun {place call node state} target made => ?_ }
  obtain stands | ⟨rfl, other, inside, placed⟩ := stocks.calls target made
  · exact Or.inl stands
  · refine Or.inr ⟨rfl, other, ?_, placed⟩
    refine (mem_answered found inside).resolve_left ?_
    rintro rfl
    obtain ⟨rfl, state⟩ := placed
    exact ended call state _ ((Cluster.call_at target).trans made)

theorem delivered (stocks : deposit.Stocks log cluster parcels)
    (found : parcels[index]? = some parcel) (unsent : parcel.state = .unsent)
    (asked : parcel.request.task = .ok (.put deposit.tuple))
    (target : cluster.nodes[parcel.handle.node]? = some node) (isReplyLost : Bool) :
    deposit.Stocks log
      (cluster.setNode parcel.handle.node
        { node with service := node.service.call parcel.request.task })
      (parcels.set index
        { parcel with state := .delivered node.service.calls.length isReplyLost }) := by
  have kept : ∀ old ∈ parcels, old.state ≠ .unsent → old ∈ parcels.set index
      { parcel with state := .delivered node.service.calls.length isReplyLost } := by
    intro old inside sent
    refine (mem_moved found).mpr (Or.inr ((mem_answered found inside).resolve_left ?_))
    rintro rfl
    exact sent unsent
  have earlier : ∀ {place call : Nat} {other : Node} {state : CallState},
      cluster.nodes[place]? = some other → other.service.calls[call]? = some state →
        state.StandsBy other.service.replica.store deposit.tuple ∨
          state = .running (.put deposit.tuple) ∧ ∃ old ∈ parcels.set index
            { parcel with state := .delivered node.service.calls.length isReplyLost },
            old.IsAt place call := by
    intro place call other state there made
    refine (stocks.calls there made).imp id fun ⟨same, old, inside, placed⟩ => ?_
    refine ⟨same, old, kept old inside fun unsent => ?_, placed⟩
    simp [Parcel.IsAt, unsent, ParcelState.call?] at placed
  refine ⟨fun place => ?_, stocks.elsewhere, fun place => ?_, fun {place call other state} => ?_⟩
  · rw [Cluster.replica_set target]
    split
    · rename_i here
      subst here
      exact (Cluster.replica_at target).symm.trans (stocks.replicas _)
    · exact stocks.replicas place
  · exact (Cluster.reaches_serving target _ place).trans (stocks.reaches place)
  · intro there made
    rw [Cluster.node_set target] at there
    split at there
    · rename_i here
      subst here
      cases there
      by_cases old : call < node.service.calls.length
      · simp only [Service.call, List.getElem?_append_left old] at made
        have before := earlier target made
        exact before
      · have last : call = node.service.calls.length := by
          have bound := (List.getElem?_eq_some_iff.mp made).1
          simp only [Service.call, List.length_append, List.length_singleton] at bound
          omega
        subst last
        simp only [Service.call, asked, List.getElem?_concat_length, Option.some.injEq] at made
        exact Or.inr ⟨made.symm, _, (mem_moved found).mpr (Or.inl rfl), rfl, rfl⟩
    · exact earlier there made

theorem stood_by (stocks : deposit.Stocks log cluster parcels) {place : Nat} {task : Task}
    {service : Service} (target : cluster.nodes[place]? = some node)
    (running : node.service.calls[call]? = some (.running task))
    (stepped : node.service.step? call = some service)
    (stands : task.StandsBy node.service.replica.store deposit.tuple) :
    deposit.Stocks (log ++ [(place, task)])
      (cluster.setNode place { node with service }) parcels := by
  obtain ⟨same, silent, still⟩ := stands.step
  obtain ⟨replica, calls⟩ := Cluster.worked_calls running stepped
  rw [same] at replica
  have different : task ≠ .put deposit.tuple := by
    rintro rfl
    exact stands
  have puts := deposit.puts_unchanged different log place
  refine ⟨fun other => ?_, fun other out => (puts other).trans (stocks.elsewhere other out),
    fun other => (Cluster.reaches_serving target service other).trans (stocks.reaches other),
    fun {other index there state} => ?_⟩
  · rw [puts, Cluster.replica_set target]
    split
    · rename_i here
      subst here
      dsimp only
      rw [replica]
      exact (Cluster.replica_at target).symm.trans (stocks.replicas _)
    · exact stocks.replicas other
  · intro found made
    rw [Cluster.node_set target] at found
    split at found
    · rename_i here
      subst here
      cases found
      dsimp only at made ⊢
      rw [replica]
      rw [calls, silent] at made
      obtain ⟨before, there, rfl⟩ := Option.map_eq_some_iff.mp made
      have quiet : before.woken [] = before := by cases before <;> rfl
      rw [quiet]
      split at there
      · cases there
        exact Or.inl still
      · exact stocks.calls target there
    · exact stocks.calls found made

theorem worked (stocks : deposit.Stocks log cluster parcels)
    (valid : checkTuple deposit.tuple = .ok ()) {service : Service}
    (row : (parcel.handle.qualifier, parcel.handle.node) ∈ deposit.table)
    (target : cluster.nodes[parcel.handle.node]? = some node)
    (running : node.service.calls[call]? = some (.running (.put deposit.tuple)))
    (stepped : node.service.step? call = some service) :
    deposit.Stocks (log ++ [(parcel.handle.node, .put deposit.tuple)])
      (cluster.setNode parcel.handle.node { node with service }) parcels := by
  obtain ⟨replica, calls⟩ := Cluster.worked_calls running stepped
  obtain ⟨store, put⟩ := node.service.replica.store.put_of_valid valid
  have step : node.service.replica.step (.put deposit.tuple) =
      ⟨.finish (.ok .done), { node.service.replica with store }, [.changed]⟩ := by
    simp [Replica.step, put]
  refine ⟨fun other => ?_, fun other out => ?_,
    fun other => (Cluster.reaches_serving target service other).trans (stocks.reaches other),
    fun {other index there state} => ?_⟩
  · rw [Cluster.replica_set target]
    split
    · rename_i here
      subst here
      have before := (Cluster.replica_at target).symm.trans (stocks.replicas _)
      obtain ⟨origin, there, same⟩ := Option.map_eq_some_iff.mp before.symm
      rw [there, Option.map_some, deposit.puts_now, Replica.after_one_more, same, replica]
    · rename_i apart
      rw [deposit.puts_elsewhere (Ne.symm apart)]
      exact stocks.replicas other
  · have apart : other ≠ parcel.handle.node := by
      rintro rfl
      exact out (List.mem_map_of_mem row)
    rw [deposit.puts_elsewhere apart]
    exact stocks.elsewhere other out
  · intro found made
    rw [Cluster.node_set target] at found
    split at found
    · rename_i here
      subst here
      cases found
      dsimp only at made ⊢
      rw [replica, step]
      rw [calls, step] at made
      obtain ⟨before, there, rfl⟩ := Option.map_eq_some_iff.mp made
      split at there
      · cases there
        exact Or.inl trivial
      · obtain stands | ⟨rfl, own⟩ := stocks.calls target there
        · exact Or.inl (stands.woken.put put)
        · exact Or.inr ⟨rfl, own⟩
    · exact stocks.calls found made

end Stocks

end Deposit

end TupleSpace
