import TupleSpace.Proofs.NetworkRun
import TupleSpace.Proofs.TakeAttempt

/-!
# Histories of a network

Sessions begin commands at any time while a network goes on. A history notes what the networks
forget: which commands were begun, which exchanges were posted, which requests have reached a
replica, and which tasks replicas have worked on. Whatever happens, the replicas that sessions find
stay the same; and a step of a job changes that job alone, apart from the parcels that it posts.
-/

namespace TupleSpace

inductive Deed
  /-- A session begins a command as a job, with the operation that the job is to carry out. -/
  | begins (job session : Nat) (command : Command) (operation? : Option Operation)
  | posts (job exchange : Nat) (requests : List (Nat × Request))
  | reaches (exchange place : Nat) (request : Request)
  | works (place : Nat) (replica : Replica) (task : Task)
deriving DecidableEq

def ClientError.isOutage : ClientError → Bool
  | nameService _ | noReplicas _ | transport _ => true
  | _ => false

inductive Occurrence
  | event (event : NetworkEvent)
  | begin (session : Nat) (command : Command)
deriving DecidableEq

namespace Errand

variable {errand : Errand} (exchange : Nat) (replica : String)
  (answer : Except TransportError Reply)

theorem record_eq :
    errand.record exchange replica answer =
      { errand with attempt? := (errand.record exchange replica answer).attempt? } := by
  unfold record
  split <;> rfl

theorem attempt_record :
    (errand.record exchange replica answer).attempt? =
      if exchange = errand.exchange then errand.attempt?.map (·.record replica answer)
      else errand.attempt? := by
  unfold record
  by_cases same : errand.exchange = exchange
  · rw [if_pos same, if_pos same.symm]
  · rw [if_neg same, if_neg (Ne.symm same)]

end Errand

namespace Job

def operation? : Job → Option Operation
  | running errand => some errand.operation
  | _ => none

theorem running_of_record {job : Job} {exchange : Nat} {replica : String}
    {answer : Except TransportError Reply} {errand : Errand}
    (running : job.record exchange replica answer = .running errand) :
    ∃ before, job = .running before ∧ before.operation = errand.operation := by
  cases job with
  | running before =>
      cases running
      refine ⟨before, rfl, ?_⟩
      rw [Errand.record_eq]
  | sleeping wake => cases running
  | finished result => cases running

end Job

namespace Network

/-- What an event that leads to the next network is noted as. A parcel that reaches its replica
stays in transit until it is answered. -/
def deeds (network next : Network) : NetworkEvent → List Deed
  | .send index =>
      match network.parcels[index]? with
      | some parcel =>
          if next.parcels.length = network.parcels.length then
            [.reaches parcel.exchange parcel.handle.node parcel.request]
          else []
      | none => []
  | .work place call =>
      match network.cluster.nodes[place]? with
      | some node =>
          match node.service.calls[call]? with
          | some (.running task) => [.works place node.service.replica task]
          | _ => []
      | none => []
  | .advance job =>
      if next.exchanges = network.exchanges then []
      else
        [.posts job network.exchanges
          ((next.parcels.drop network.parcels.length).map fun parcel =>
            (parcel.handle.node, parcel.request))]
  | .receive _ | .pass _ => []

def undergo? (network : Network) : Occurrence → Option (List Deed × Network)
  | .event event =>
      (network.perform? event).map fun next => (network.deeds next event, next)
  | .begin session command =>
      let next := network.begin session command
      let job := network.jobs.length
      some ([.begins job session command (next.jobs[job]?.bind (·.operation?))], next)

inductive History (first : Network) : List Deed → Network → Prop
  | start : History first [] first
  | step {record deeds : List Deed} {network next : Network} {occurrence : Occurrence}
      (earlier : History first record network)
      (undergone : network.undergo? occurrence = some (deeds, next)) :
      History first (record ++ deeds) next

def retrace? (network : Network) : List Occurrence → Option (List Deed × Network)
  | [] => some ([], network)
  | occurrence :: rest =>
      (network.undergo? occurrence).bind fun step =>
        (step.2.retrace? rest).map fun last => (step.1 ++ last.1, last.2)

theorem history_of_retrace {first network last : Network} {occurrences : List Occurrence}
    {record more : List Deed} (earlier : History first record network)
    (retraced : network.retrace? occurrences = some (more, last)) :
    History first (record ++ more) last := by
  induction occurrences generalizing network record more with
  | nil =>
      cases retraced
      simpa using earlier
  | cons occurrence rest induction =>
      obtain ⟨⟨deeds, next⟩, undergone, later⟩ := Option.bind_eq_some_iff.mp retraced
      obtain ⟨⟨tail, reached⟩, continued, same⟩ := Option.map_eq_some_iff.mp later
      cases same
      rw [← List.append_assoc]
      exact induction (.step earlier undergone) continued

/-! ## The replicas that sessions find -/

theorem look_up_eq {network other : Network} (registry : network.registry = other.registry)
    (listeners : network.cluster.listeners = other.cluster.listeners) (config : Config) :
    network.lookUp config = other.lookUp config := by
  have connected : ∀ found, connectAll network.cluster found = connectAll other.cluster found := by
    intro found
    induction found with
    | nil => rfl
    | cons descriptor rest induction =>
        have same : network.cluster.connect descriptor = other.cluster.connect descriptor := by
          unfold Cluster.connect Cluster.listener?
          rw [listeners]
        rw [connectAll, connectAll, same, induction]
  unfold lookUp
  rw [registry]
  split
  · rfl
  · rw [connected]

structure Finds (network : Network) (session : Session) (table : List (String × Nat)) :
    Prop where
  kept : ∀ set, session.replicas? = some set → set.table = table
  found : ∀ set, network.lookUp session.config = .ok set → set.table = table

/-- Whichever way a session comes by its replicas, they are those of a table, which are told apart
by name and by place. -/
structure IsFixed (network : Network) (session : Session) (table : List (String × Nat)) :
    Prop where
  names : (table.map (·.1)).Nodup
  places : (table.map (·.2)).Nodup
  kept : ∀ set, session.replicas? = some set → set.table = table
  found : ∀ set, network.lookUp session.config = .ok set → set.table = table

/-- A session may have come by its replicas or given them up, but it would find the same ones. -/
structure Continues (network next : Network) (session later : Session) : Prop where
  config : later.config = session.config
  client : later.client = session.client
  finds : ∀ table, network.Finds session table → next.Finds later table

structure Upholds (network next : Network) : Prop where
  registry : next.registry = network.registry
  listeners : next.cluster.listeners = network.cluster.listeners
  count : next.sessions.length = network.sessions.length
  sessions : ∀ (index : Nat) (session : Session), network.sessions[index]? = some session →
    ∃ later, next.sessions[index]? = some later ∧ Continues network next session later

variable {network next last : Network}

theorem session_set {index : Nat} {session next : Session}
    (found : network.sessions[index]? = some session) :
    (network.setSession index next).sessions[index]? = some next := by
  have bound := (List.getElem?_eq_some_iff.mp found).1
  simp [setSession, bound]

theorem job_set {index : Nat} {job : Job} (found : network.jobs[index]? = some job) (next : Job)
    (other : Nat) :
    (network.setJob index next).jobs[other]? =
      if index = other then some next else network.jobs[other]? := by
  have bound := (List.getElem?_eq_some_iff.mp found).1
  simp [setJob, List.getElem?_set, bound]

theorem IsFixed.finds {session : Session} {table : List (String × Nat)}
    (fixed : network.IsFixed session table) : network.Finds session table :=
  ⟨fixed.kept, fixed.found⟩

theorem Continues.fixed {session later : Session} (continues : Continues network next session later)
    (table : List (String × Nat)) (fixed : network.IsFixed session table) :
    next.IsFixed later table :=
  have finds := continues.finds table fixed.finds
  ⟨fixed.names, fixed.places, finds.kept, finds.found⟩

theorem Finds.transport {session : Session} {table : List (String × Nat)}
    (finds : network.Finds session table) (registry : next.registry = network.registry)
    (listeners : next.cluster.listeners = network.cluster.listeners) :
    next.Finds session table :=
  ⟨finds.kept,
    fun set found => finds.found set (look_up_eq registry listeners session.config ▸ found)⟩

theorem upholds_same (registry : next.registry = network.registry)
    (listeners : next.cluster.listeners = network.cluster.listeners)
    (sessions : next.sessions = network.sessions) : network.Upholds next := by
  refine ⟨registry, listeners, by rw [sessions], fun index session found => ?_⟩
  rw [sessions]
  exact ⟨session, found, rfl, rfl, fun table finds => finds.transport registry listeners⟩

theorem Upholds.refl (network : Network) : network.Upholds network := upholds_same rfl rfl rfl

theorem Upholds.trans (first : network.Upholds next) (second : next.Upholds last) :
    network.Upholds last := by
  refine ⟨second.registry.trans first.registry, second.listeners.trans first.listeners,
    second.count.trans first.count, fun index session found => ?_⟩
  obtain ⟨middle, there, continues⟩ := first.sessions index session found
  obtain ⟨later, reached, continued⟩ := second.sessions index middle there
  exact ⟨later, reached, continued.config.trans continues.config,
    continued.client.trans continues.client,
    fun table finds => continued.finds table (continues.finds table finds)⟩

theorem Upholds.session_before (upholds : network.Upholds next) {index : Nat} {later : Session}
    (found : next.sessions[index]? = some later) :
    ∃ session, network.sessions[index]? = some session ∧ Continues network next session later := by
  have bound := (List.getElem?_eq_some_iff.mp found).1
  rw [upholds.count] at bound
  obtain ⟨other, there, continues⟩ := upholds.sessions index _ (List.getElem?_eq_getElem bound)
  rw [found] at there
  cases there
  exact ⟨_, List.getElem?_eq_getElem bound, continues⟩

/-- A network that differs in what sessions do not depend on. -/
structure Alters (network next : Network) : Prop where
  upholds : network.Upholds next
  cluster : next.cluster = network.cluster
  faults : next.faults = network.faults
  jobs : next.jobs = network.jobs
  parcels : next.parcels = network.parcels
  exchanges : next.exchanges = network.exchanges
  sequencer : next.sequencer = network.sequencer
  clock : next.clock = network.clock

theorem Alters.refl (network : Network) : network.Alters network :=
  ⟨.refl network, rfl, rfl, rfl, rfl, rfl, rfl, rfl⟩

theorem Alters.set_session (alters : network.Alters next) {index : Nat} {session later : Session}
    (found : next.sessions[index]? = some session) (config : later.config = session.config)
    (client : later.client = session.client)
    (replicas : ∀ before table, network.sessions[index]? = some before →
      network.Finds before table → ∀ set, later.replicas? = some set → set.table = table) :
    network.Alters (next.setSession index later) := by
  have upholds : network.Upholds (next.setSession index later) := by
    refine ⟨alters.upholds.registry, alters.upholds.listeners,
      by simpa [setSession] using alters.upholds.count, fun other before there => ?_⟩
    obtain ⟨old, known, continues⟩ := alters.upholds.sessions other before there
    by_cases same : index = other
    · subst other
      rw [found] at known
      cases known
      refine ⟨later, session_set found, config.trans continues.config,
        client.trans continues.client, fun table finds => ?_⟩
      exact ⟨replicas before table there finds, fun set looked =>
        (continues.finds table finds).found set (by rw [← config]; exact looked)⟩
    · refine ⟨old, ?_, continues.config, continues.client, fun table finds =>
        (continues.finds table finds).transport rfl rfl⟩
      rw [setSession, List.getElem?_set_ne same]
      exact known
  exact ⟨upholds, alters.cluster, alters.faults, alters.jobs, alters.parcels, alters.exchanges,
    alters.sequencer, alters.clock⟩

theorem forget_alters (network : Network) (index : Nat) :
    network.Alters (network.forgetReplicas index) := by
  unfold forgetReplicas
  split
  · rename_i session found
    exact (Alters.refl network).set_session found rfl rfl fun _ _ _ _ set none => by cases none
  · exact .refl network

theorem resolve_alters (network : Network) (index : Nat) :
    network.Alters (network.resolve index).2 ∧
      ∀ set, (network.resolve index).1 = .ok set →
        ∃ session, network.sessions[index]? = some session ∧
          ∀ table, network.Finds session table → set.table = table := by
  unfold resolve
  cases found : network.sessions[index]? with
  | none => exact ⟨.refl network, fun set missing => by cases missing⟩
  | some session =>
      dsimp only
      cases kept : session.replicas? with
      | some set =>
          refine ⟨.refl network, fun other same => ⟨session, rfl, fun table finds => ?_⟩⟩
          cases same
          exact finds.kept set kept
      | none =>
          dsimp only
          cases looked : network.lookUp session.config with
          | error cause => exact ⟨.refl network, fun set missing => by cases missing⟩
          | ok set =>
              refine ⟨(Alters.refl network).set_session found rfl rfl ?_,
                fun other same => ⟨session, rfl, fun table finds => ?_⟩⟩
              · intro before table there finds other same
                rw [found] at there
                cases there
                cases same
                exact finds.found set looked
              · cases same
                exact finds.found set looked

theorem table_update {test : Handle → Bool} (handles : List Handle) (delay : Nat) :
    (ReplicaSet.updateFirst test (fun handle => { handle with delay }) handles).map
        (fun handle => (handle.qualifier, handle.node)) =
      handles.map fun handle => (handle.qualifier, handle.node) := by
  induction handles with
  | nil => rfl
  | cons handle rest induction =>
      unfold ReplicaSet.updateFirst
      split
      · rfl
      · rw [List.map_cons, List.map_cons, induction]

theorem set_delay_alters (network : Network) (index : Nat) (qualifier : String) (delay : Nat) :
    network.Alters (network.setDelay index qualifier delay).2 := by
  obtain ⟨alters, resolved⟩ := network.resolve_alters index
  unfold setDelay
  generalize network.resolve index = resolution at alters resolved
  obtain ⟨replicas, middle⟩ := resolution
  dsimp only at alters resolved ⊢
  cases replicas with
  | error cause => exact alters
  | ok set =>
      cases named : set.handle qualifier with
      | error cause =>
          simp only [Except.bind, ReplicaSet.setDelay, named, Except.map]
          exact alters
      | ok handle =>
          simp only [Except.bind, ReplicaSet.setDelay, named, Except.map]
          cases found : middle.sessions[index]? with
          | none => exact alters
          | some session =>
              refine alters.set_session found rfl rfl ?_
              intro before table there finds later same
              cases same
              obtain ⟨old, known, table⟩ := resolved set rfl
              rw [there] at known
              cases known
              rw [ReplicaSet.table, table_update]
              exact table _ finds

/-! ## Steps of a job -/

inductive Ends (errand : Errand) : Except ClientError Outcome → Job → Prop
  | finished {result : Except ClientError Outcome} : Ends errand result (.finished result)
  | retried {cause : ClientError} (retries : Nat) (transport : cause.isTransport = true) :
      Ends errand (.error cause) (.running { errand with attempt? := none, retries })

/-- What a step of an attempt makes of its job, and the parcels of an exchange that it starts. -/
inductive Installs (network : Network) (errand : Errand) (replicas : ReplicaSet)
    (client : ClientId) : AttemptStep → Job → Option (List Parcel) → Prop
  | ended {result : Except ClientError Outcome} {job : Job} (ends : Ends errand result job) :
      Installs network errand replicas client (.ended result) job none
  | wentOn {stage : AttemptStage} {wake : Nat} :
      Installs network errand replicas client (.goOn stage)
        (.running { errand with attempt? := some ⟨replicas, client, stage⟩, wake }) none
  | posted {stage : AttemptStage} {request : Request} {handles : List Handle} :
      Installs network errand replicas client (.post stage request handles)
        (.running
          { errand with
            attempt? := some ⟨replicas, client, stage⟩
            exchange := network.exchanges })
        (some (handles.map fun handle =>
          { exchange := network.exchanges, handle, request, due := network.clock + handle.delay }))

inductive Advances (network : Network) (index : Nat) : Job → Option (List Parcel) → Prop
  | woke {wake : Nat} (found : network.jobs[index]? = some (.sleeping wake)) :
      Advances network index (.finished (.ok .done)) none
  | unresolved {errand : Errand} {cause : ClientError} {job : Job}
      (found : network.jobs[index]? = some (.running errand)) (idle : errand.attempt? = none)
      (other : ∀ retries, cause ≠ .backoffExceeded retries)
      (ends : Ends errand (.error cause) job) : Advances network index job none
  | began {errand : Errand} {session : Session} {replicas : ReplicaSet} {job : Job}
      {posted? : Option (List Parcel)} (found : network.jobs[index]? = some (.running errand))
      (idle : errand.attempt? = none)
      (there : network.sessions[errand.session]? = some session)
      (table : ∀ table, network.Finds session table → replicas.table = table)
      (installs : Installs network errand replicas session.client
        (Attempt.start replicas session.client session.config.take.policy errand.operation) job
        posted?) :
      Advances network index job posted?
  | advanced {errand : Errand} {attempt : Attempt} {step : AttemptStep} {job : Job}
      {posted? : Option (List Parcel)} (found : network.jobs[index]? = some (.running errand))
      (under : errand.attempt? = some attempt) (stepped : attempt.advance? = some step)
      (installs : Installs network errand attempt.replicas attempt.client step job posted?) :
      Advances network index job posted?

structure Changes (network next : Network) (index : Nat) (job : Job)
    (posted? : Option (List Parcel)) : Prop where
  upholds : network.Upholds next
  cluster : next.cluster = network.cluster
  faults : next.faults = network.faults
  jobs : next.jobs = network.jobs.set index job
  parcels : next.parcels = network.parcels ++ posted?.getD []
  exchanges : next.exchanges = network.exchanges + if posted?.isSome then 1 else 0
  sequencer : next.sequencer = network.sequencer

variable {index : Nat} {errand : Errand} {job : Job}

theorem changes_set_job (network : Network) (index : Nat) (job : Job) :
    network.Changes (network.setJob index job) index job none :=
  ⟨upholds_same rfl rfl rfl, rfl, rfl, rfl, (List.append_nil _).symm, rfl, rfl⟩

theorem Changes.alters {posted? : Option (List Parcel)}
    (changes : network.Changes next index job posted?) (alters : next.Alters last) :
    network.Changes last index job posted? :=
  ⟨changes.upholds.trans alters.upholds, alters.cluster.trans changes.cluster,
    alters.faults.trans changes.faults, alters.jobs.trans changes.jobs,
    alters.parcels.trans changes.parcels, alters.exchanges.trans changes.exchanges,
    alters.sequencer.trans changes.sequencer⟩

theorem Changes.job_at {posted? : Option (List Parcel)}
    (changes : network.Changes next index job posted?) (other : Nat) :
    next.jobs[other]? =
      if index = other then (network.jobs[other]?).map fun _ => job else network.jobs[other]? := by
  rw [changes.jobs, List.getElem?_set']
  rfl

theorem conclude_changes (network : Network) (index : Nat) (errand : Errand)
    (result : Except ClientError Outcome) :
    ∃ job, Ends errand result job ∧
      network.Changes (network.conclude index errand result) index job none := by
  unfold conclude
  dsimp only
  cases result with
  | ok outcome => exact ⟨_, .finished, changes_set_job network index _⟩
  | error cause =>
      dsimp only
      split
      · rename_i failed
        split
        · refine ⟨_, .retried (errand.retries + 1) (Bool.and_eq_true_iff.mp failed).2, ?_⟩
          exact (changes_set_job network index _).alters (forget_alters _ _)
        · exact ⟨_, .finished, (changes_set_job network index _).alters (forget_alters _ _)⟩
      · exact ⟨_, .finished, changes_set_job network index _⟩

theorem install_changes (network : Network) (index : Nat) (errand : Errand)
    (replicas : ReplicaSet) (client : ClientId) (step : AttemptStep) :
    ∃ job posted?, Installs network errand replicas client step job posted? ∧
      network.Changes (network.install index errand replicas client step) index job posted? := by
  cases step with
  | ended result =>
      obtain ⟨job, ends, changes⟩ := network.conclude_changes index errand result
      exact ⟨job, none, .ended ends, changes⟩
  | goOn stage => exact ⟨_, none, .wentOn, changes_set_job network index _⟩
  | post stage request handles =>
      exact ⟨_, _, .posted, upholds_same rfl rfl rfl, rfl, rfl, rfl, rfl, rfl, rfl⟩

/-- What is installed after the replicas were resolved might have been installed before. -/
theorem Installs.before {replicas : ReplicaSet} {client : ClientId} {step : AttemptStep}
    {posted? : Option (List Parcel)} (alters : network.Alters next)
    (installs : Installs next errand replicas client step job posted?) :
    Installs network errand replicas client step job posted? := by
  cases installs with
  | ended ends => exact .ended ends
  | wentOn => exact .wentOn
  | posted =>
      rw [alters.exchanges, alters.clock]
      exact .posted

theorem Alters.changes {posted? : Option (List Parcel)} (alters : network.Alters next)
    (changes : next.Changes last index job posted?) : network.Changes last index job posted? :=
  ⟨alters.upholds.trans changes.upholds, changes.cluster.trans alters.cluster,
    changes.faults.trans alters.faults, by rw [changes.jobs, alters.jobs],
    by rw [changes.parcels, alters.parcels], by rw [changes.exchanges, alters.exchanges],
    changes.sequencer.trans alters.sequencer⟩

theorem connect_outage {cluster : Cluster} {found : List Descriptor} {cause : ClientError}
    (failed : connectAll cluster found = .error cause) : cause.isOutage = true := by
  induction found generalizing cause with
  | nil => cases failed
  | cons descriptor rest induction =>
      unfold connectAll at failed
      split at failed
      · cases failed
        rfl
      · cases others : connectAll cluster rest with
        | error other =>
            rw [others] at failed
            cases failed
            exact induction others
        | ok handles =>
            rw [others] at failed
            cases failed

theorem look_up_outage {config : Config} {cause : ClientError}
    (failed : network.lookUp config = .error cause) : cause.isOutage = true := by
  unfold lookUp at failed
  cases found : network.registry.lookup config.serviceName config.qualifier? with
  | nil =>
      rw [found] at failed
      cases failed
      rfl
  | cons first rest =>
      rw [found] at failed
      cases connected : connectAll network.cluster (first :: rest) with
      | error other =>
          simp only [connected, Except.map] at failed
          cases failed
          exact connect_outage connected
      | ok handles =>
          simp only [connected, Except.map] at failed
          cases failed

theorem resolve_outage {index : Nat} {cause : ClientError}
    (failed : (network.resolve index).1 = .error cause) : cause.isOutage = true := by
  unfold resolve at failed
  split at failed
  · cases failed
    rfl
  · split at failed
    · cases failed
    · split at failed
      · cases failed
      · rename_i other missing
        cases failed
        exact look_up_outage missing

theorem begin_attempt_cases (network : Network) (index : Nat) (errand : Errand) :
    (∃ cause job, cause.isOutage = true ∧ Ends errand (.error cause) job ∧
        network.Changes (network.beginAttempt index errand) index job none) ∨
      ∃ session replicas job posted?, network.sessions[errand.session]? = some session ∧
        (∀ table, network.Finds session table → replicas.table = table) ∧
        Installs network errand replicas session.client
          (Attempt.start replicas session.client session.config.take.policy errand.operation) job
          posted? ∧
        network.Changes (network.beginAttempt index errand) index job posted? := by
  obtain ⟨alters, resolved⟩ := network.resolve_alters errand.session
  have fails : ∀ cause, (network.resolve errand.session).1 = .error cause →
      cause.isOutage = true := fun _ => resolve_outage
  unfold beginAttempt
  generalize network.resolve errand.session = resolution at alters resolved fails
  obtain ⟨replicas, middle⟩ := resolution
  dsimp only at alters resolved fails
  cases replicas with
  | error cause =>
      obtain ⟨job, ends, changes⟩ := middle.conclude_changes index errand (.error cause)
      exact Or.inl ⟨cause, job, fails cause rfl, ends, alters.changes changes⟩
  | ok set =>
      obtain ⟨session, there, table⟩ := resolved set rfl
      obtain ⟨later, known, continues⟩ := alters.upholds.sessions _ session there
      dsimp only
      rw [known]
      dsimp only
      obtain ⟨job, posted?, installs, changes⟩ := middle.install_changes index errand set
        later.client (Attempt.start set later.client later.config.take.policy errand.operation)
      rw [continues.client, continues.config] at installs changes ⊢
      exact Or.inr ⟨session, set, job, posted?, there, table, installs.before alters,
        alters.changes changes⟩

theorem begin_attempt_changes (found : network.jobs[index]? = some (.running errand))
    (idle : errand.attempt? = none) :
    ∃ job posted?, Advances network index job posted? ∧
      network.Changes (network.beginAttempt index errand) index job posted? := by
  obtain ⟨cause, job, outage, ends, changes⟩ |
    ⟨session, replicas, job, posted?, there, table, installs, changes⟩ :=
    network.begin_attempt_cases index errand
  · have other : ∀ retries, cause ≠ .backoffExceeded retries := by
      rintro retries rfl
      cases outage
    exact ⟨job, none, .unresolved found idle other ends, changes⟩
  · exact ⟨job, posted?, .began found idle there table installs, changes⟩

/-- A job that goes on does one of a few things, and nothing else happens. -/
theorem advance_changes (performed : network.advance? index = some next) :
    ∃ job posted?, Advances network index job posted? ∧
      network.Changes next index job posted? := by
  have moves : network.Moves (.advance index) next := moves_of_perform performed
  cases moves with
  | began found idle => exact begin_attempt_changes found idle
  | @advanced _ errand attempt step found under stepped =>
      obtain ⟨job, posted?, installs, changes⟩ :=
        network.install_changes index errand attempt.replicas attempt.client step
      exact ⟨job, posted?, .advanced found under stepped installs, changes⟩
  | woke found => exact ⟨_, none, .woke found, changes_set_job network index _⟩

/-! ## Commands -/

inductive Begins (network : Network) (index : Nat) : Command → Job → Sequencer → Prop
  | ended {command : Command} {result : Except ClientError Outcome}
      (delays : ∀ outcome, result = .ok outcome →
        ∃ qualifier seconds, command = .setDelay qualifier seconds) :
      Begins network index command (.finished result) network.sequencer
  | sleeps {seconds wake : Nat} :
      Begins network index (.sleep seconds) (.sleeping wake) network.sequencer
  | reads {pattern : String} :
      Begins network index (.read pattern)
        (.running { session := index, operation := .query (.read pattern) }) network.sequencer
  | looks {qualifier : String} :
      Begins network index (.state qualifier)
        (.running { session := index, operation := .query (.state qualifier) }) network.sequencer
  | puts {session : Session} {tuple : String} (there : network.sessions[index]? = some session)
      (quorum : session.config.takeMode = .quorum) :
      Begins network index (.put tuple)
        (.running { session := index, operation := .query (.put tuple) }) network.sequencer
  | takes {session : Session} {pattern : String}
      (there : network.sessions[index]? = some session)
      (quorum : session.config.takeMode = .quorum) :
      Begins network index (.take pattern)
        (.running { session := index, operation := .take pattern }) network.sequencer
  | putsInOrder {session : Session} {tuple : String}
      (there : network.sessions[index]? = some session)
      (sequenced : session.config.takeMode = .sequenced) :
      Begins network index (.put tuple)
        (.running
          { session := index
            operation := .query (.sequencedPut network.sequencer.next tuple) })
        network.sequencer.issue.2
  | takesInOrder {session : Session} {pattern : String}
      (there : network.sessions[index]? = some session)
      (sequenced : session.config.takeMode = .sequenced) :
      Begins network index (.take pattern)
        (.running
          { session := index
            operation := .query (.sequencedTake network.sequencer.next pattern) })
        network.sequencer.issue.2

structure Adds (network next : Network) (job : Job) (sequencer : Sequencer) : Prop where
  upholds : network.Upholds next
  cluster : next.cluster = network.cluster
  faults : next.faults = network.faults
  jobs : next.jobs = network.jobs ++ [job]
  parcels : next.parcels = network.parcels
  exchanges : next.exchanges = network.exchanges
  sequencer : next.sequencer = sequencer

theorem Adds.job_before {sequencer : Sequencer} (adds : network.Adds next job sequencer)
    {before : Job} (there : network.jobs[index]? = some before) :
    next.jobs[index]? = some before := by
  rw [adds.jobs, List.getElem?_append_left (List.getElem?_eq_some_iff.mp there).1]
  exact there

theorem Adds.job_cases {sequencer : Sequencer} (adds : network.Adds next job sequencer)
    {found : Job} (there : next.jobs[index]? = some found) :
    network.jobs[index]? = some found ∨ index = network.jobs.length ∧ found = job := by
  rw [adds.jobs] at there
  by_cases before : index < network.jobs.length
  · rw [List.getElem?_append_left before] at there
    exact Or.inl there
  · have bound := (List.getElem?_eq_some_iff.mp there).1
    simp only [List.length_append, List.length_singleton] at bound
    have last : index = network.jobs.length := by omega
    subst last
    rw [List.getElem?_concat_length] at there
    exact Or.inr ⟨rfl, (Option.some.inj there).symm⟩

theorem Alters.adds (alters : network.Alters next) (job : Job) :
    network.Adds (next.addJob job) job network.sequencer :=
  ⟨alters.upholds.trans (upholds_same rfl rfl rfl), alters.cluster, alters.faults,
    by rw [addJob, alters.jobs], alters.parcels, alters.exchanges, alters.sequencer⟩

theorem drawn_adds (network : Network) (sequencer : Sequencer) (job : Job) :
    network.Adds ({ network with sequencer }.addJob job) job sequencer :=
  ⟨upholds_same rfl rfl rfl, rfl, rfl, rfl, rfl, rfl, rfl⟩

/-- What a session makes of an operation: itself, or a query under the next number. -/
theorem ordered_cases (session : Session) (sequencer : Sequencer) (operation : Operation)
    (numbered : Nat → Query) :
    session.config.takeMode = .quorum ∧
        session.ordered sequencer operation numbered = (.ok operation, sequencer) ∨
      session.config.takeMode = .sequenced ∧
        session.ordered sequencer operation numbered =
          (.ok (.query (numbered sequencer.next)), sequencer.issue.2) ∨
      ∃ cause, session.ordered sequencer operation numbered = (.error cause, sequencer) := by
  unfold Session.ordered Session.issue
  cases mode : session.config.takeMode with
  | quorum => exact Or.inl ⟨rfl, rfl⟩
  | sequenced =>
      cases session.isSequenced with
      | true => exact Or.inr (Or.inl ⟨rfl, rfl⟩)
      | false => exact Or.inr (Or.inr ⟨_, rfl⟩)

theorem begin_adds (network : Network) (index : Nat) (command : Command) :
    ∃ job sequencer, Begins network index command job sequencer ∧
      network.Adds (network.begin index command) job sequencer := by
  have same := Alters.refl network
  unfold begin
  cases there : network.sessions[index]? with
  | none => exact ⟨_, _, .ended (by simp), same.adds _⟩
  | some session =>
      cases command with
      | put tuple =>
          dsimp only
          unfold Session.put
          split
          · exact ⟨_, _, .ended (by simp), drawn_adds network _ _⟩
          · obtain ⟨mode, drawn⟩ | ⟨mode, drawn⟩ | ⟨cause, drawn⟩ := ordered_cases session
              network.sequencer (.query (.put tuple)) (.sequencedPut · tuple) <;> rw [drawn]
            · exact ⟨_, _, .puts there mode, drawn_adds network _ _⟩
            · exact ⟨_, _, .putsInOrder there mode, drawn_adds network _ _⟩
            · exact ⟨_, _, .ended (by simp), drawn_adds network _ _⟩
      | take pattern =>
          dsimp only
          unfold Session.take
          split
          · exact ⟨_, _, .ended (by simp), drawn_adds network _ _⟩
          · obtain ⟨mode, drawn⟩ | ⟨mode, drawn⟩ | ⟨cause, drawn⟩ := ordered_cases session
              network.sequencer (.take pattern) (.sequencedTake · pattern) <;> rw [drawn]
            · exact ⟨_, _, .takes there mode, drawn_adds network _ _⟩
            · exact ⟨_, _, .takesInOrder there mode, drawn_adds network _ _⟩
            · exact ⟨_, _, .ended (by simp), drawn_adds network _ _⟩
      | read pattern =>
          dsimp only
          unfold Session.read
          split
          · exact ⟨_, _, .ended (by simp), same.adds _⟩
          · exact ⟨_, _, .reads, same.adds _⟩
      | state qualifier => exact ⟨_, _, .looks, same.adds _⟩
      | sleep seconds => exact ⟨_, _, .sleeps, same.adds _⟩
      | setDelay qualifier seconds =>
          exact ⟨_, _, .ended fun _ _ => ⟨_, _, rfl⟩,
            (network.set_delay_alters index qualifier (seconds * 1000)).adds _⟩

/-! ## Whatever happens -/

def posting (network : Network) (index : Nat) : Option (List Parcel) → List Deed
  | none => []
  | some posted =>
      [.posts index network.exchanges
        (posted.map fun parcel => (parcel.handle.node, parcel.request))]

theorem posts_of_posting {posted? : Option (List Parcel)} {deed : Deed}
    (member : deed ∈ network.posting index posted?) :
    ∃ exchange requests, deed = .posts index exchange requests := by
  cases posted? with
  | none => cases member
  | some posted => exact ⟨_, _, List.mem_singleton.mp member⟩

/-- What may happen next, with what made it possible and what it is noted as. -/
inductive Happens (network : Network) : List Deed → Network → Prop
  | failed {index : Nat} {parcel : Parcel} {sent : List (String × Request)} {faults : List Fault}
      {cause : TransportError} (found : network.parcels[index]? = some parcel)
      (unsent : parcel.state = .unsent) (left : faults ⊆ network.faults) :
      Happens network [] ({ network with sent, faults }.record index parcel (.error cause))
  | forged {index : Nat} {parcel : Parcel} {sent : List (String × Request)} {faults : List Fault}
      {reply : Reply} (found : network.parcels[index]? = some parcel)
      (unsent : parcel.state = .unsent) (left : faults ⊆ network.faults)
      (why : network.Threatens (.answer reply) parcel.request.procedure) :
      Happens network [] ({ network with sent, faults }.record index parcel (.ok reply))
  | delivered {index : Nat} {parcel : Parcel} {sent : List (String × Request)}
      {faults : List Fault} {node : Node} {isReplyLost : Bool}
      (found : network.parcels[index]? = some parcel) (unsent : parcel.state = .unsent)
      (left : faults ⊆ network.faults)
      (target : network.cluster.nodes[parcel.handle.node]? = some node) :
      Happens network [.reaches parcel.exchange parcel.handle.node parcel.request]
        { network with
          sent
          faults
          cluster := network.cluster.setNode parcel.handle.node
            { node with service := node.service.call parcel.request.task }
          parcels := network.parcels.set index
            { parcel with state := .delivered node.service.calls.length isReplyLost } }
  | worked {place call : Nat} {node : Node} {task : Task} {service : Service}
      (target : network.cluster.nodes[place]? = some node)
      (running : node.service.calls[call]? = some (.running task))
      (stepped : node.service.step? call = some service) :
      Happens network [.works place node.service.replica task]
        { network with cluster := network.cluster.setNode place { node with service } }
  | received {index : Nat} {parcel : Parcel} {answer : Except TransportError Reply}
      (found : network.parcels[index]? = some parcel)
      (answered : network.answer? parcel = some answer) :
      Happens network [] (network.record index parcel answer)
  | advanced {index : Nat} {job : Job} {posted? : Option (List Parcel)} {next : Network}
      (advances : Advances network index job posted?)
      (changes : network.Changes next index job posted?) :
      Happens network (network.posting index posted?) next
  | passed {milliseconds : Nat} : Happens network [] (network.pass milliseconds)
  | begun {session : Nat} {command : Command} {job : Job} {sequencer : Sequencer}
      {next : Network} (begins : Begins network session command job sequencer)
      (adds : network.Adds next job sequencer) :
      Happens network [.begins network.jobs.length session command job.operation?] next

theorem deeds_recorded {index : Nat} {parcel : Parcel}
    (found : network.parcels[index]? = some parcel) (sent : List (String × Request))
    (faults : List Fault) (answer : Except TransportError Reply) :
    network.deeds ({ network with sent, faults }.record index parcel answer) (.send index) =
      [] := by
  have bound := (List.getElem?_eq_some_iff.mp found).1
  have fewer : (network.parcels.eraseIdx index).length ≠ network.parcels.length := by
    rw [List.length_eraseIdx_of_lt bound]
    omega
  simp [deeds, found, record, fewer]

theorem Changes.deeds {posted? : Option (List Parcel)}
    (changes : network.Changes next index job posted?) :
    network.deeds next (.advance index) = network.posting index posted? := by
  unfold Network.deeds
  dsimp only
  rw [changes.exchanges, changes.parcels]
  cases posted? with
  | none => simp [posting]
  | some posted => simp [posting]

theorem happens_of_event {event : NetworkEvent} (performed : network.perform? event = some next) :
    network.Happens (network.deeds next event) next := by
  cases event with
  | send index =>
      cases moves_of_send performed with
      | failed found unsent left _ =>
          rw [deeds_recorded found]
          exact .failed found unsent left
      | forged found unsent left why =>
          rw [deeds_recorded found]
          exact .forged found unsent left why
      | delivered found unsent left target up why =>
          simp only [deeds, found, List.length_set, if_true]
          exact .delivered found unsent left target
  | work place call =>
      obtain ⟨node, target, rest⟩ := Option.bind_eq_some_iff.mp performed
      obtain ⟨service, stepped, same⟩ := Option.bind_eq_some_iff.mp rest
      cases same
      have running := stepped
      unfold Service.step? at running
      split at running
      · rename_i task entry
        simp only [deeds, target, entry]
        exact .worked target entry stepped
      · cases running
  | receive index =>
      cases moves_of_perform performed with
      | received found answered => exact .received found answered
  | advance index =>
      obtain ⟨job, posted?, advances, changes⟩ := advance_changes performed
      rw [changes.deeds]
      exact .advanced advances changes
  | pass milliseconds =>
      cases performed
      exact .passed

theorem happens_of_undergo {occurrence : Occurrence} {deeds : List Deed}
    (undergone : network.undergo? occurrence = some (deeds, next)) :
    network.Happens deeds next := by
  cases occurrence with
  | event event =>
      obtain ⟨last, performed, same⟩ := Option.map_eq_some_iff.mp undergone
      cases same
      exact happens_of_event performed
  | begin session command =>
      obtain ⟨job, sequencer, begins, adds⟩ := network.begin_adds session command
      cases undergone
      have last : (network.begin session command).jobs[network.jobs.length]? = some job := by
        simp [adds.jobs]
      rw [last]
      exact .begun begins adds

variable {deeds : List Deed}

theorem Happens.upholds (happens : network.Happens deeds next) : network.Upholds next := by
  cases happens with
  | advanced _ changes => exact changes.upholds
  | begun _ adds => exact adds.upholds
  | _ => exact upholds_same rfl rfl rfl

theorem Happens.faults (happens : network.Happens deeds next) : next.faults ⊆ network.faults := by
  cases happens with
  | failed _ _ left => exact left
  | forged _ _ left => exact left
  | delivered _ _ left => exact left
  | advanced _ changes => rw [changes.faults]; exact List.Subset.refl _
  | begun _ adds => rw [adds.faults]; exact List.Subset.refl _
  | _ => exact List.Subset.refl _

def Numbered (network : Network) : Prop :=
  ∀ parcel ∈ network.parcels, parcel.exchange < network.exchanges

theorem Installs.posted_fresh {replicas : ReplicaSet} {client : ClientId} {step : AttemptStep}
    {posted? : Option (List Parcel)}
    (installs : Installs network errand replicas client step job posted?) :
    ∀ parcel ∈ posted?.getD [], parcel.exchange = network.exchanges ∧ parcel.state = .unsent := by
  cases installs with
  | ended _ => simp
  | wentOn => simp
  | posted =>
      intro parcel member
      obtain ⟨handle, _, rfl⟩ := List.mem_map.mp member
      exact ⟨rfl, rfl⟩

theorem Advances.from_running {job : Job} {posted? : Option (List Parcel)}
    (advances : Advances network index job posted?) :
    (∃ errand, network.jobs[index]? = some (.running errand)) ∨
      (∃ result, job = .finished result) ∧ posted? = none := by
  cases advances with
  | woke _ => exact Or.inr ⟨⟨_, rfl⟩, rfl⟩
  | unresolved found _ _ _ => exact Or.inl ⟨_, found⟩
  | began found _ _ _ _ => exact Or.inl ⟨_, found⟩
  | advanced found _ _ _ => exact Or.inl ⟨_, found⟩

theorem Advances.posted_fresh {posted? : Option (List Parcel)}
    (advances : Advances network index job posted?) :
    ∀ parcel ∈ posted?.getD [], parcel.exchange = network.exchanges ∧ parcel.state = .unsent := by
  cases advances with
  | woke _ => simp
  | unresolved _ _ _ _ => simp
  | began _ _ _ _ installs => exact installs.posted_fresh
  | advanced _ _ _ installs => exact installs.posted_fresh

theorem Happens.numbered (happens : network.Happens deeds next) (numbered : network.Numbered) :
    next.Numbered := by
  cases happens with
  | failed => exact fun other member => numbered other (List.mem_of_mem_eraseIdx member)
  | forged => exact fun other member => numbered other (List.mem_of_mem_eraseIdx member)
  | received => exact fun other member => numbered other (List.mem_of_mem_eraseIdx member)
  | @delivered _ parcel _ _ _ _ found =>
      intro other member
      rcases List.mem_or_eq_of_mem_set member with old | rfl
      · exact numbered other old
      · exact numbered parcel (List.mem_of_getElem? found)
  | worked => exact numbered
  | passed => exact numbered
  | begun _ adds =>
      intro other member
      rw [adds.parcels] at member
      rw [adds.exchanges]
      exact numbered other member
  | @advanced _ _ posted? _ advances changes =>
      intro other member
      rw [changes.parcels] at member
      rw [changes.exchanges]
      rcases List.mem_append.mp member with old | fresh
      · exact Nat.lt_add_right _ (numbered other old)
      · rw [(advances.posted_fresh other fresh).1]
        cases posted? with
        | none => cases fresh
        | some posted => simp

/-- Whatever has happened since, a network is set up as it was, its faults have only run out, and
what is in transit belongs to exchanges that were started. -/
structure Descends (first network : Network) : Prop where
  upholds : first.Upholds network
  faults : network.faults ⊆ first.faults
  numbered : network.Numbered

theorem Descends.refl (numbered : network.Numbered) : network.Descends network :=
  ⟨.refl network, List.Subset.refl _, numbered⟩

theorem Descends.happens {first : Network} (descends : first.Descends network)
    (happens : network.Happens deeds next) : first.Descends next :=
  ⟨descends.upholds.trans happens.upholds, List.Subset.trans happens.faults descends.faults,
    happens.numbered descends.numbered⟩

theorem Descends.history {first : Network} {record : List Deed} (descends : first.Descends network)
    (history : History network record next) : first.Descends next := by
  induction history with
  | start => exact descends
  | step _ undergone induction => exact induction.happens (happens_of_undergo undergone)

end Network

end TupleSpace
