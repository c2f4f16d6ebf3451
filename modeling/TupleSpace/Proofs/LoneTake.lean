import TupleSpace.Proofs.LoneExchange
import TupleSpace.Proofs.NetworkHistory

/-!
# A take on its own

A take by quorum in a network in which nothing else goes on, under faults that drop requests or
lose replies. What it removes from a replica is what its requests for removal tell; a take that
succeeds has removed its tuple last, and whatever attempts before its last one had removed.
-/

namespace TupleSpace

open TupleSpace.Table

namespace Quest

variable {quest : Quest} {log : List (Nat × Task)} {cluster : Cluster} {parcels : List Parcel}
  {network next : Network}

structure Setting (quest : Quest) (network : Network) : Prop where
  session : ∃ session, network.sessions[quest.index]? = some session ∧
    session.config = quest.session.config ∧ session.client = quest.session.client ∧
    ∀ set, session.replicas? = some set → set.table = quest.table
  registry : network.registry = quest.first.registry
  listeners : network.cluster.listeners = quest.first.cluster.listeners
  faults : network.faults ⊆ quest.first.faults
  others : ∀ index errand, network.jobs[index]? = some (.running errand) → index = quest.job

def Fresh (log : List (Nat × Task)) : Prop := ∀ place, removals place log = []

/-- How far the take has come. A take that may have removed something and start over is not
clean. -/
inductive Course (quest : Quest) (log : List (Nat × Task)) (cluster : Cluster)
    (parcels : List Parcel) : Job → Prop
  | begins {errand : Errand} (own : quest.Own errand) (idle : errand.attempt? = none)
      (quiet : parcels = []) (fresh : quest.Clean → Fresh log) :
      Course quest log cluster parcels (.running errand)
  | pauses {errand : Errand} {set : ReplicaSet} {machine : TakeMachine} {pause : Pause}
      (own : quest.Own errand)
      (attempt : errand.attempt? = some ⟨set, quest.taker.client, .pausing machine pause⟩)
      (table : set.table = quest.table)
      (rests : machine.Rests quest.taker quest.table (cluster.held quest.taker.client))
      (quiet : parcels = []) (fresh : quest.Clean → Fresh log) :
      Course quest log cluster parcels (.running errand)
  | takes {errand : Errand} {set : ReplicaSet} {machine : TakeMachine} {exchange : Exchange}
      (own : quest.Own errand)
      (attempt : errand.attempt? = some ⟨set, quest.taker.client, .taking machine exchange⟩)
      (table : set.table = quest.table)
      (awaits : machine.Awaits quest.taker quest.table (cluster.held quest.taker.client)
        exchange.request)
      (flight : quest.Flight log cluster parcels errand.exchange machine.awaiting exchange)
      (fresh : (∀ tuple client, exchange.request ≠ .commit tuple client) →
        quest.Clean → Fresh log) :
      Course quest log cluster parcels (.running errand)
  | abandons {errand : Errand} {set : ReplicaSet} {cause : ClientError} {exchange : Exchange}
      (own : quest.Own errand)
      (attempt : errand.attempt? = some ⟨set, quest.taker.client, .abandoning cause exchange⟩)
      (flight : quest.Flight log cluster parcels errand.exchange set.qualifiers exchange)
      (asks : exchange.request = .release quest.taker.client)
      (fresh : quest.Spared → Fresh log) :
      Course quest log cluster parcels (.running errand)
  | failed {cause : ClientError} (quiet : parcels = []) :
      Course quest log cluster parcels (.finished (.error cause))
  | took {tuple : String} (quiet : parcels = [])
      (removed : ∀ row ∈ quest.table, ∃ earlier,
        removals row.2 log = earlier ++ [tuple] ∧ (quest.Clean → earlier = [])) :
      Course quest log cluster parcels (.finished (.ok (.tuple tuple)))

structure Accounts (quest : Quest) (log : List (Nat × Task)) (cluster : Cluster)
    (parcels : List Parcel) : Prop where
  values : ∀ place,
    (quest.first.cluster.values place).Perm (removals place log ++ cluster.values place)
  calls : ∀ {place call : Nat} {node : Node} {task : Task}, cluster.nodes[place]? = some node →
    node.service.calls[call]? = some (.running task) →
      ∃ parcel ∈ parcels, parcel.handle.node = place ∧
        ∃ isReplyLost, parcel.state = .delivered call isReplyLost

structure Lone (quest : Quest) (log : List (Nat × Task)) (network : Network) : Prop where
  setting : quest.Setting network
  accounts : quest.Accounts log network.cluster network.parcels
  course : ∃ job, network.jobs[quest.job]? = some job ∧
    quest.Course log network.cluster network.parcels job

/-! ## Parcels -/

theorem Course.under_way {job : Job} (course : quest.Course log cluster parcels job)
    {parcel : Parcel} (inside : parcel ∈ parcels) :
    (∃ errand set machine exchange, job = .running errand ∧ quest.Own errand ∧
      errand.attempt? = some ⟨set, quest.taker.client, .taking machine exchange⟩ ∧
      set.table = quest.table ∧
      machine.Awaits quest.taker quest.table (cluster.held quest.taker.client)
        exchange.request ∧
      quest.Flight log cluster parcels errand.exchange machine.awaiting exchange ∧
      ((∀ tuple client, exchange.request ≠ .commit tuple client) →
        quest.Clean → Fresh log)) ∨
    (∃ errand set cause exchange, job = .running errand ∧ quest.Own errand ∧
      errand.attempt? = some ⟨set, quest.taker.client, .abandoning cause exchange⟩ ∧
      quest.Flight log cluster parcels errand.exchange set.qualifiers exchange ∧
      exchange.request = .release quest.taker.client ∧ (quest.Spared → Fresh log)) := by
  cases course with
  | begins _ _ quiet _ =>
      subst quiet
      cases inside
  | pauses _ _ _ _ quiet _ =>
      subst quiet
      cases inside
  | failed quiet =>
      subst quiet
      cases inside
  | took quiet _ =>
      subst quiet
      cases inside
  | takes own attempt table awaits flight fresh =>
      exact .inl ⟨_, _, _, _, rfl, own, attempt, table, awaits, flight, fresh⟩
  | abandons own attempt flight asks fresh =>
      exact .inr ⟨_, _, _, _, rfl, own, attempt, flight, asks, fresh⟩

theorem Course.flight_of {job : Job} (course : quest.Course log cluster parcels job)
    {parcel : Parcel} (inside : parcel ∈ parcels) :
    ∃ number targets exchange, quest.Flight log cluster parcels number targets exchange := by
  obtain ⟨_, _, _, _, _, _, _, _, _, flight, _⟩ | ⟨_, _, _, _, _, _, _, flight, _, _⟩ :=
    course.under_way inside
  · exact ⟨_, _, _, flight⟩
  · exact ⟨_, _, _, flight⟩

theorem Course.records {job : Job} (course : quest.Course log cluster parcels job) {index : Nat}
    {parcel : Parcel} {answer : Except TransportError Reply}
    (found : parcels[index]? = some parcel)
    (told : ∀ reply, answer = .ok reply → ∃ result, reply = parcel.request.reply result ∧
      quest.Leaves log cluster parcel.request parcel.handle.node result)
    (spared : quest.Spared → ∀ tuple client, parcel.request = .commit tuple client →
      ∃ reply, answer = .ok reply) :
    quest.Course log cluster (parcels.eraseIdx index)
      (job.record parcel.exchange parcel.handle.qualifier answer) := by
  have inside := List.mem_of_getElem? found
  obtain ⟨errand, set, machine, exchange, rfl, own, attempt, table, awaits, flight, fresh⟩ |
    ⟨errand, set, cause, exchange, rfl, own, attempt, flight, asks, fresh⟩ :=
      course.under_way inside
  · have number := (flight.posted parcel inside).1
    have recorded : Job.record parcel.exchange parcel.handle.qualifier answer (.running errand) =
        .running { errand with
          attempt? := some ⟨set, quest.taker.client,
            .taking machine (exchange.record parcel.handle.qualifier answer)⟩ } := by
      simp [Job.record, Errand.record, number, attempt, Attempt.record]
    rw [recorded]
    exact .takes ⟨own.session, own.operation⟩ rfl table awaits (flight.record found told spared)
      fresh
  · have number := (flight.posted parcel inside).1
    have recorded : Job.record parcel.exchange parcel.handle.qualifier answer (.running errand) =
        .running { errand with
          attempt? := some ⟨set, quest.taker.client,
            .abandoning cause (exchange.record parcel.handle.qualifier answer)⟩ } := by
      simp [Job.record, Errand.record, number, attempt, Attempt.record]
    rw [recorded]
    exact .abandons ⟨own.session, own.operation⟩ rfl (flight.record found told spared) asks fresh

theorem Course.delivered {job : Job} (course : quest.Course log cluster parcels job) {index : Nat}
    {parcel : Parcel} {node : Node} {isReplyLost : Bool} (found : parcels[index]? = some parcel)
    (unsent : parcel.state = .unsent) (target : cluster.nodes[parcel.handle.node]? = some node)
    (up : node.outage? = none)
    (spared : quest.Spared → ∀ tuple client, parcel.request = .commit tuple client →
      isReplyLost = false) :
    quest.Course log
      (cluster.setNode parcel.handle.node
        { node with service := node.service.call parcel.request.task })
      (parcels.set index
        { parcel with state := .delivered node.service.calls.length isReplyLost }) job := by
  obtain ⟨errand, set, machine, exchange, rfl, own, attempt, table, awaits, flight, fresh⟩ |
    ⟨errand, set, cause, exchange, rfl, own, attempt, flight, asks, fresh⟩ :=
      course.under_way (List.mem_of_getElem? found)
  · refine .takes own attempt table ?_ (flight.delivered found unsent target up spared) fresh
    rw [Cluster.held_called target]
    exact awaits
  · exact .abandons own attempt (flight.delivered found unsent target up spared) asks fresh

theorem Course.carried {job : Job} (course : quest.Course log cluster parcels job)
    (fair : quest.Fair) {parcel : Parcel} {call : Nat} {isReplyLost : Bool} {node : Node}
    {task : Task} {service : Service} (inside : parcel ∈ parcels)
    (state : parcel.state = .delivered call isReplyLost)
    (target : cluster.nodes[parcel.handle.node]? = some node)
    (running : node.service.calls[call]? = some (.running task))
    (stepped : node.service.step? call = some service) :
    quest.Course (log ++ [(parcel.handle.node, task)])
      (cluster.setNode parcel.handle.node { node with service }) parcels job := by
  obtain ⟨errand, set, machine, exchange, rfl, own, attempt, table, awaits, flight, fresh⟩ |
    ⟨errand, set, cause, exchange, rfl, own, attempt, flight, asks, fresh⟩ :=
      course.under_way inside
  · have carried := flight.carried fair inside state target running stepped
    refine .takes own attempt table (awaits.mono (carried.grown _)) carried.flight ?_
    intro keeps clean place
    rw [removals_unchanged (Request.keeps_of_task carried.made keeps)]
    exact fresh keeps clean place
  · have carried := flight.carried fair inside state target running stepped
    refine .abandons own attempt carried.flight asks ?_
    intro spared place
    have keeps : ∀ tuple client, exchange.request ≠ .commit tuple client := by
      intro tuple client same
      rw [asks] at same
      cases same
    rw [removals_unchanged (Request.keeps_of_task carried.made keeps)]
    exact fresh spared place

/-! ## Events at the replicas -/

theorem Setting.running_record (setting : quest.Setting network) (parcel : Parcel)
    (answer : Except TransportError Reply) :
    ∀ (index : Nat) (errand : Errand),
      (network.jobs.map (Job.record parcel.exchange parcel.handle.qualifier answer))[index]? =
        some (.running errand) → index = quest.job := by
  intro index errand running
  rw [List.getElem?_map] at running
  obtain ⟨job, before, recorded⟩ := Option.map_eq_some_iff.mp running
  cases job with
  | running errand => exact setting.others index errand before
  | sleeping wake => cases recorded
  | finished result => cases recorded

theorem Accounts.recorded (accounts : quest.Accounts log cluster parcels) {index : Nat}
    {parcel : Parcel} (found : parcels[index]? = some parcel)
    (idle : ∀ call isReplyLost, parcel.state = .delivered call isReplyLost →
      ∀ node task, cluster.nodes[parcel.handle.node]? = some node →
        node.service.calls[call]? ≠ some (.running task)) :
    quest.Accounts log cluster (parcels.eraseIdx index) := by
  obtain ⟨bound, here⟩ := List.getElem?_eq_some_iff.mp found
  have removed : (parcel :: parcels.eraseIdx index).Perm parcels := by
    rw [← here]
    exact List.getElem_cons_eraseIdx_perm bound
  refine ⟨accounts.values, ?_⟩
  intro place call node task target running
  obtain ⟨other, inside, there, isReplyLost, state⟩ := accounts.calls target running
  refine ⟨other, ?_, there, isReplyLost, state⟩
  refine (List.mem_cons.mp (removed.mem_iff.mpr inside)).resolve_left ?_
  rintro rfl
  exact idle call isReplyLost state node task (there ▸ target) running

theorem Lone.record (lone : quest.Lone log network) {index : Nat} {parcel : Parcel}
    {answer : Except TransportError Reply} {sent : List (String × Request)} {faults : List Fault}
    (found : network.parcels[index]? = some parcel) (left : faults ⊆ network.faults)
    (idle : ∀ call isReplyLost, parcel.state = .delivered call isReplyLost →
      ∀ node task, network.cluster.nodes[parcel.handle.node]? = some node →
        node.service.calls[call]? ≠ some (.running task))
    (told : ∀ reply, answer = .ok reply → ∃ result, reply = parcel.request.reply result ∧
      quest.Leaves log network.cluster parcel.request parcel.handle.node result)
    (spared : quest.Spared → ∀ tuple client, parcel.request = .commit tuple client →
      ∃ reply, answer = .ok reply) :
    quest.Lone log ({ network with sent, faults }.record index parcel answer) := by
  obtain ⟨job, mine, course⟩ := lone.course
  refine ⟨⟨lone.setting.session, lone.setting.registry, lone.setting.listeners,
    fun _ member => lone.setting.faults (left member),
    lone.setting.running_record parcel answer⟩, lone.accounts.recorded found idle, _, ?_,
    course.records found told spared⟩
  change (network.jobs.map _)[quest.job]? = _
  rw [List.getElem?_map, mine]
  rfl

/-- A parcel that is handed over belongs to the call that it makes, and every other call still
belongs to a parcel. -/
theorem Accounts.delivered (accounts : quest.Accounts log cluster parcels) {index : Nat}
    {parcel : Parcel} {node : Node} (found : parcels[index]? = some parcel)
    (unsent : parcel.state = .unsent) (target : cluster.nodes[parcel.handle.node]? = some node)
    (isReplyLost : Bool) :
    quest.Accounts log
      (cluster.setNode parcel.handle.node
        { node with service := node.service.call parcel.request.task })
      (parcels.set index
        { parcel with state := .delivered node.service.calls.length isReplyLost }) := by
  let sent : Parcel := { parcel with state := .delivered node.service.calls.length isReplyLost }
  have kept : ∀ old ∈ parcels, old.state ≠ .unsent → old ∈ parcels.set index sent := by
    intro old inside gone
    obtain ⟨position, there⟩ := List.mem_iff_getElem?.mp inside
    have apart : index ≠ position := by
      rintro rfl
      rw [found] at there
      cases there
      exact gone unsent
    refine List.mem_of_getElem? (i := position) ?_
    rw [List.getElem?_set_ne apart]
    exact there
  constructor
  case values =>
    intro place
    rw [Cluster.values_called target]
    exact accounts.values place
  case calls =>
    intro place call other task there running
    have earlier : ∀ {other : Node}, cluster.nodes[place]? = some other →
        other.service.calls[call]? = some (.running task) →
          ∃ later ∈ parcels.set index sent, later.handle.node = place ∧
            ∃ isReplyLost, later.state = .delivered call isReplyLost := by
      intro other there running
      obtain ⟨old, inside, same, lost, state⟩ := accounts.calls there running
      exact ⟨old, kept old inside (by simp [state]), same, lost, state⟩
    rw [Cluster.node_set target] at there
    split at there
    · rename_i here
      subst place
      cases there
      by_cases old : call < node.service.calls.length
      · simp only [Service.call, List.getElem?_append_left old] at running
        exact earlier target running
      · have last : call = node.service.calls.length := by
          have bound := (List.getElem?_eq_some_iff.mp running).1
          simp only [Service.call, List.length_append, List.length_singleton] at bound
          omega
        subst last
        have bound := (List.getElem?_eq_some_iff.mp found).1
        exact ⟨sent, List.mem_of_getElem? (List.getElem?_set_self bound), rfl, isReplyLost, rfl⟩
    · exact earlier there running

theorem Lone.delivered (lone : quest.Lone log network) {index : Nat} {parcel : Parcel}
    {node : Node} {isReplyLost : Bool} {sent : List (String × Request)} {faults : List Fault}
    (found : network.parcels[index]? = some parcel) (unsent : parcel.state = .unsent)
    (left : faults ⊆ network.faults)
    (target : network.cluster.nodes[parcel.handle.node]? = some node)
    (up : node.outage? = none)
    (spared : quest.Spared → ∀ tuple client, parcel.request = .commit tuple client →
      isReplyLost = false) :
    quest.Lone log
      { network with
        sent
        faults
        cluster := network.cluster.setNode parcel.handle.node
          { node with service := node.service.call parcel.request.task }
        parcels := network.parcels.set index
          { parcel with state := .delivered node.service.calls.length isReplyLost } } := by
  obtain ⟨job, mine, course⟩ := lone.course
  exact ⟨⟨lone.setting.session, lone.setting.registry, lone.setting.listeners,
    fun _ member => lone.setting.faults (left member), lone.setting.others⟩,
    lone.accounts.delivered found unsent target isReplyLost, job, mine,
    course.delivered found unsent target up spared⟩

theorem Accounts.carried {number : Nat} {targets : List String} {exchange : Exchange}
    {place call : Nat} {node : Node} {task : Task} {service : Service}
    (accounts : quest.Accounts log cluster parcels)
    (target : cluster.nodes[place]? = some node)
    (carried : quest.Carried log cluster parcels number targets exchange place node task call
      service) :
    quest.Accounts (log ++ [(place, task)]) (cluster.setNode place { node with service })
      parcels := by
  constructor
  case values =>
    intro other
    have before := accounts.values other
    rw [Cluster.values_set target]
    split
    · rename_i here
      subst other
      rw [removals_now, List.append_assoc]
      refine before.trans (List.Perm.append_left _ ?_)
      simpa [Cluster.values, target] using carried.values
    · rename_i apart
      rw [removals_elsewhere apart]
      exact before
  case calls =>
    intro other position found later there entry
    rw [Cluster.node_set target] at there
    split at there
    · rename_i here
      subst other
      cases there
      obtain ⟨result, calls⟩ := carried.calls
      dsimp only at entry
      rw [calls, List.getElem?_set] at entry
      split at entry
      · split at entry
        · cases entry
        · cases entry
      · exact accounts.calls target entry
    · exact accounts.calls there entry

theorem Lone.worked (lone : quest.Lone log network) (fair : quest.Fair) {place call : Nat}
    {node : Node} {task : Task} {service : Service}
    (target : network.cluster.nodes[place]? = some node)
    (running : node.service.calls[call]? = some (.running task))
    (stepped : node.service.step? call = some service) :
    quest.Lone (log ++ [(place, task)])
      { network with cluster := network.cluster.setNode place { node with service } } := by
  obtain ⟨job, mine, course⟩ := lone.course
  obtain ⟨parcel, inside, rfl, isReplyLost, state⟩ := lone.accounts.calls target running
  obtain ⟨_, _, _, flight⟩ := course.flight_of inside
  have carried := flight.carried fair inside state target running stepped
  exact ⟨⟨lone.setting.session, lone.setting.registry, lone.setting.listeners,
    lone.setting.faults, lone.setting.others⟩, lone.accounts.carried target carried, job, mine,
    course.carried fair inside state target running stepped⟩

/-! ## Steps of the job -/

theorem Setting.set_job {job : Job} (setting : quest.Setting network)
    (mine : network.jobs[quest.job]? = some job) (next : Job) :
    quest.Setting (network.setJob quest.job next) := by
  refine ⟨setting.session, setting.registry, setting.listeners, setting.faults, ?_⟩
  intro index errand running
  rw [Network.job_set mine] at running
  split at running
  · rename_i same
    exact same.symm
  · exact setting.others index errand running

structure Alike (network next : Network) : Prop where
  cluster : next.cluster = network.cluster
  parcels : next.parcels = network.parcels
  jobs : next.jobs = network.jobs

theorem Setting.set_session {session next : Session} (setting : quest.Setting network)
    (found : network.sessions[quest.index]? = some session)
    (config : next.config = session.config) (client : next.client = session.client)
    (table : ∀ set, next.replicas? = some set → set.table = quest.table) :
    quest.Setting (network.setSession quest.index next) := by
  obtain ⟨known, there, settings, whose, _⟩ := setting.session
  rw [there] at found
  cases found
  exact ⟨⟨next, Network.session_set there, config.trans settings, client.trans whose, table⟩,
    setting.registry, setting.listeners, setting.faults, setting.others⟩

theorem Setting.forget (setting : quest.Setting network) :
    quest.Setting (network.forgetReplicas quest.index) ∧
      Alike network (network.forgetReplicas quest.index) := by
  obtain ⟨session, found, _⟩ := setting.session
  unfold Network.forgetReplicas
  rw [found]
  refine ⟨setting.set_session found rfl rfl ?_, ⟨rfl, rfl, rfl⟩⟩
  intro set none
  cases none

/-- Whichever way the replicas are come by, they are those of the table. -/
theorem Setting.resolve (setting : quest.Setting network) (fair : quest.Fair) :
    quest.Setting (network.resolve quest.index).2 ∧
      Alike network (network.resolve quest.index).2 ∧
      ∀ set, (network.resolve quest.index).1 = .ok set → set.table = quest.table := by
  obtain ⟨session, found, config, client, known⟩ := setting.session
  unfold Network.resolve
  rw [found]
  dsimp only
  cases kept : session.replicas? with
  | some set =>
      refine ⟨setting, ⟨rfl, rfl, rfl⟩, ?_⟩
      intro other same
      cases same
      exact known set kept
  | none =>
      have looked : network.lookUp session.config = quest.first.lookUp quest.session.config := by
        rw [config]
        exact Network.look_up_eq setting.registry setting.listeners _
      dsimp only
      rw [looked]
      cases result : quest.first.lookUp quest.session.config with
      | error cause =>
          refine ⟨setting, ⟨rfl, rfl, rfl⟩, ?_⟩
          intro set same
          cases same
      | ok set =>
          have table := fair.lookup set result
          refine ⟨setting.set_session found rfl rfl ?_, ⟨rfl, rfl, rfl⟩, ?_⟩
          · intro other same
            cases same
            exact table
          · intro other same
            cases same
            exact table

theorem Accounts.posted (accounts : quest.Accounts log cluster [])
    (parcels : List Parcel) : quest.Accounts log cluster parcels := by
  refine ⟨accounts.values, ?_⟩
  intro place call node task target running
  obtain ⟨parcel, inside, _⟩ := accounts.calls target running
  cases inside

/-- A job between two exchanges, with nothing in transit. -/
structure Paused (quest : Quest) (log : List (Nat × Task)) (network : Network)
    (errand : Errand) : Prop where
  setting : quest.Setting network
  accounts : quest.Accounts log network.cluster network.parcels
  job : ∃ job, network.jobs[quest.job]? = some job
  own : quest.Own errand
  quiet : network.parcels = []

theorem Paused.set_job {errand : Errand} (paused : quest.Paused log network errand) {job : Job}
    (course : quest.Course log network.cluster [] job) :
    quest.Lone log (network.setJob quest.job job) := by
  obtain ⟨earlier, mine⟩ := paused.job
  refine ⟨paused.setting.set_job mine job, paused.accounts, job, ?_, ?_⟩
  · rw [Network.job_set mine, if_pos rfl]
  · change quest.Course log network.cluster network.parcels job
    rw [paused.quiet]
    exact course

theorem Lone.forget (lone : quest.Lone log network) :
    quest.Lone log (network.forgetReplicas quest.index) := by
  obtain ⟨setting, alike⟩ := lone.setting.forget
  refine ⟨setting, ?_, ?_⟩
  · rw [alike.cluster, alike.parcels]
    exact lone.accounts
  · rw [alike.cluster, alike.parcels, alike.jobs]
    exact lone.course

/-- After a failure the take is over or starts over. It only starts over if it has retries. -/
theorem Paused.conclude_failed {errand : Errand} (paused : quest.Paused log network errand)
    (fresh : quest.Spared → Fresh log) (cause : ClientError) :
    quest.Lone log (network.conclude quest.job errand (.error cause)) := by
  have ended : quest.Lone log (network.setJob quest.job (.finished (.error cause))) :=
    paused.set_job (.failed rfl)
  unfold Network.conclude
  dsimp only
  split
  · split
    · rename_i retries
      obtain ⟨session, found, config, _⟩ := paused.setting.session
      rw [paused.own.session, found] at retries
      have clean : quest.Clean → Fresh log := by
        rintro (spared | none)
        · exact fresh spared
        · simp only [Option.elim_some, config, none] at retries
          exact absurd retries (Nat.not_lt_zero _)
      have course : quest.Course log network.cluster []
          (.running { errand with attempt? := none, retries := errand.retries + 1 }) :=
        .begins ⟨paused.own.session, paused.own.operation⟩ rfl rfl clean
      have restarted := (paused.set_job course).forget
      rw [← paused.own.session] at restarted
      exact restarted
    · rw [paused.own.session]
      exact ended.forget
  · exact ended

theorem Paused.post {errand : Errand} (paused : quest.Paused log network errand)
    {set : ReplicaSet} {targets : List String} {request : Request} {exchange : Exchange}
    {handles : List Handle} {stage : AttemptStage} (table : set.table = quest.table)
    (asked : set.fanOut targets request = .ok (exchange, handles)) (distinct : targets.Nodup)
    (ready : ∀ row ∈ quest.table, quest.Ready log network.cluster request row.2)
    (course : ∀ parcels,
      quest.Flight log network.cluster parcels network.exchanges targets exchange →
        quest.Course log network.cluster parcels
          (.running
            { errand with
              attempt? := some ⟨set, quest.taker.client, stage⟩
              exchange := network.exchanges })) :
    quest.Lone log
      (network.install quest.job errand set quest.taker.client
        (.post stage exchange.request handles)) := by
  obtain ⟨earlier, mine⟩ := paused.job
  have accounts := paused.accounts
  rw [paused.quiet] at accounts
  have flight := flight_posted table asked distinct ready network.exchanges network.clock
  unfold Network.install
  dsimp only
  rw [paused.quiet, List.nil_append]
  have setting := paused.setting.set_job mine
    (.running
      { errand with
        attempt? := some ⟨set, quest.taker.client, stage⟩
        exchange := network.exchanges })
  refine ⟨⟨setting.session, setting.registry, setting.listeners, setting.faults,
    setting.others⟩, accounts.posted _, _, ?_, course _ flight⟩
  change (network.setJob quest.job _).jobs[quest.job]? = _
  rw [Network.job_set mine, if_pos rfl]

theorem Paused.retreat {errand : Errand} (paused : quest.Paused log network errand)
    (fair : quest.Fair) {set : ReplicaSet} {step : AttemptStep} (table : set.table = quest.table)
    (fresh : quest.Spared → Fresh log) (retreats : step.Retreats set quest.taker.client) :
    quest.Lone log (network.install quest.job errand set quest.taker.client step) := by
  cases retreats with
  | fails => exact paused.conclude_failed fresh _
  | @abandons cause exchange handles asked =>
      have asks := (ReplicaSet.fan_out_asks asked).1
      have distinct : set.qualifiers.Nodup := by
        rw [set.qualifiers_eq, table]
        exact fair.names
      refine paused.post table asked distinct (fun _ _ => .release) ?_
      intro parcels flight
      exact .abandons ⟨paused.own.session, paused.own.operation⟩ rfl flight (by rw [asks]) fresh

theorem Paused.proceed {errand : Errand} (paused : quest.Paused log network errand)
    (fair : quest.Fair) {set : ReplicaSet} {step : AttemptStep} (table : set.table = quest.table)
    (fresh : quest.Clean → Fresh log)
    (proceeds : step.Proceeds set quest.taker (network.cluster.held quest.taker.client)) :
    quest.Lone log (network.install quest.job errand set quest.taker.client step) := by
  cases proceeds with
  | retreats retreats =>
      exact paused.retreat fair table (fun spared => fresh (Or.inl spared)) retreats
  | pauses rests =>
      rw [table] at rests
      exact paused.set_job
        (.pauses ⟨paused.own.session, paused.own.operation⟩ rfl table rests rfl fresh)
  | @asks machine request exchange handles awaits distinct present asked =>
      have asks : exchange.request = request := by rw [(ReplicaSet.fan_out_asks asked).1]
      rw [table] at awaits present
      refine paused.post table asked distinct ?_ ?_
      · intro row member
        cases awaits with
        | reserving => exact .reserve
        | releasing => exact .release
        | committing => exact .commit (present _ rfl row member) fun clean => fresh clean row.2
      · intro parcels flight
        exact .takes ⟨paused.own.session, paused.own.operation⟩ rfl table (asks ▸ awaits) flight
          fun _ => fresh

theorem Paused.took {errand : Errand} (paused : quest.Paused log network errand)
    {tuple : String}
    (removed : ∀ row ∈ quest.table, ∃ earlier,
      removals row.2 log = earlier ++ [tuple] ∧ (quest.Clean → earlier = [])) :
    quest.Lone log (network.conclude quest.job errand (.ok (.tuple tuple))) :=
  paused.set_job (.took rfl removed)

theorem Paused.begin_attempt {errand : Errand} (paused : quest.Paused log network errand)
    (fair : quest.Fair) (fresh : quest.Clean → Fresh log) :
    quest.Lone log (network.beginAttempt quest.job errand) := by
  obtain ⟨setting, alike, table⟩ := paused.setting.resolve fair
  unfold Network.beginAttempt
  rw [paused.own.session]
  generalize network.resolve quest.index = resolved at setting alike table
  obtain ⟨result, next⟩ := resolved
  dsimp only at setting alike table ⊢
  have later : quest.Paused log next errand := by
    refine ⟨setting, ?_, ?_, paused.own, alike.parcels.trans paused.quiet⟩
    · rw [alike.cluster, alike.parcels]
      exact paused.accounts
    · rw [alike.jobs]
      exact paused.job
  cases result with
  | error cause => exact later.conclude_failed (fun spared => fresh (Or.inl spared)) cause
  | ok set =>
      obtain ⟨session, found, config, client, _⟩ := setting.session
      have known : set.table = quest.table := table set rfl
      have names : (set.table.map (·.1)).Nodup := by
        rw [known]
        exact fair.names
      dsimp only
      rw [found]
      dsimp only
      rw [client, config, paused.own.operation]
      exact later.proceed fair known fresh (AttemptStep.taking_proceeds names)

theorem Flight.look {number : Nat} {targets : List String} {exchange : Exchange} {next : Look}
    (flight : quest.Flight log cluster parcels number targets exchange)
    (looked : next ≠ .count → parcels = [])
    (settled : next = .replies → exchange.collector.failures = []) :
    quest.Flight log cluster parcels number targets { exchange with next } :=
  ⟨flight.posted, flight.stands, flight.answers, flight.outstanding, flight.distinct,
    flight.complete, flight.plain, flight.waits, looked, settled, flight.spared⟩

/-- What a look at an exchange comes to: another look, a failure or all replies. -/
theorem Flight.progress {number : Nat} {targets : List String} {exchange : Exchange}
    {progress : Exchange.Progress}
    (flight : quest.Flight log cluster parcels number targets exchange)
    (looked : exchange.look? = some progress) :
    parcels = [] ∧
      match progress with
      | .goOn later => later.request = exchange.request ∧
          quest.Flight log cluster parcels number targets later
      | .finished (.error _) => exchange.collector.failures ≠ []
      | .finished (.ok replies) =>
          exchange.next = .replies ∧ replies = exchange.collector.responses := by
  unfold Exchange.look? at looked
  cases next : exchange.next with
  | count =>
      simp only [next] at looked
      split at looked
      · rename_i satisfied
        cases looked
        rw [flight.waits] at satisfied
        have landed : parcels = [] := by
          have none : exchange.collector.outstanding = 0 := by
            simpa [Collector.satisfies] using satisfied
          rw [flight.outstanding] at none
          exact List.length_eq_zero_iff.mp none
        exact ⟨landed, rfl, flight.look (fun _ => landed) (fun other => by cases other)⟩
      · cases looked
  | failure =>
      have landed := flight.looked (by simp [next])
      simp only [next, Collector.firstFailure?] at looked
      refine ⟨landed, ?_⟩
      cases failures : exchange.collector.failures with
      | nil =>
          rw [failures] at looked
          cases looked
          exact ⟨rfl, flight.look (fun _ => landed) (fun _ => failures)⟩
      | cons cause others =>
          rw [failures] at looked
          cases looked
          simp
  | replies =>
      simp only [next] at looked
      cases looked
      exact ⟨flight.looked (by simp [next]), rfl, rfl⟩

theorem Paused.driven {errand : Errand} (paused : quest.Paused log network errand)
    (fair : quest.Fair) {number : Nat} {set : ReplicaSet} {machine : TakeMachine}
    {exchange : Exchange} (table : set.table = quest.table)
    (awaits : machine.Awaits quest.taker quest.table
      (network.cluster.held quest.taker.client) exchange.request)
    (flight : quest.Flight log network.cluster parcels number machine.awaiting exchange)
    (fresh : (∀ tuple client, exchange.request ≠ .commit tuple client) →
      quest.Clean → Fresh log)
    (last : exchange.next = .replies) :
    quest.Lone log (network.install quest.job errand set quest.taker.client
      (.driving set machine exchange.collector.responses)) := by
  have names : (set.table.map (·.1)).Nodup := by
    rw [table]
    exact fair.names
  have answered := flight.answered last
  generalize asks : exchange.request = request at awaits fresh
  rw [← table] at awaits
  cases awaits with
  | reserving serves stage asked backed =>
      obtain ⟨offers, same, held⟩ := flight.offers asks fair
      have rows : (offers.map (·.1)).Perm machine.awaiting := by
        rw [same] at answered
        simpa [List.map_map, Function.comp_def] using answered
      rw [← table] at held
      have noted := backed.noted names (asked ▸ rows) held
      rw [same]
      exact paused.proceed fair table (fresh (by simp))
        (AttemptStep.driving_proceeds names noted
          (TakeMachine.step_from_reserving serves stage rows))
  | releasing serves stage nothing =>
      have acknowledged := flight.acknowledged (by simp [asks])
      exact paused.proceed fair table (fresh (by simp))
        (AttemptStep.driving_proceeds names (Holdings.backed_nil _ _)
          (TakeMachine.step_from_releasing serves stage nothing answered acknowledged))
  | @committing tuple serves stage chosen asked =>
      have acknowledged := flight.acknowledged (by simp [asks])
      have taken := TakeMachine.step_from_committing stage chosen answered acknowledged
      have ended : AttemptStep.driving set machine exchange.collector.responses =
          .ended (.ok (.tuple tuple)) := by
        unfold AttemptStep.driving
        generalize machine.step exchange.collector.responses = decided at taken
        obtain ⟨next, action⟩ := decided
        cases taken
        rfl
      rw [asked, table] at flight
      rw [ended]
      exact paused.took (flight.removed asks last fair)

theorem Lone.advance_taking (lone : quest.Lone log network) (fair : quest.Fair)
    {errand : Errand} {set : ReplicaSet} {machine : TakeMachine} {exchange : Exchange}
    {step : AttemptStep} (own : quest.Own errand) (table : set.table = quest.table)
    (awaits : machine.Awaits quest.taker quest.table
      (network.cluster.held quest.taker.client) exchange.request)
    (flight : quest.Flight log network.cluster network.parcels errand.exchange machine.awaiting
      exchange)
    (fresh : (∀ tuple client, exchange.request ≠ .commit tuple client) →
      quest.Clean → Fresh log)
    (stepped :
      (⟨set, quest.taker.client, .taking machine exchange⟩ : Attempt).advance? = some step) :
    quest.Lone log (network.install quest.job errand set quest.taker.client step) := by
  obtain ⟨progress, looked, same⟩ := Option.map_eq_some_iff.mp stepped
  obtain ⟨landed, outcome⟩ := flight.progress looked
  obtain ⟨job, mine, _⟩ := lone.course
  have paused : quest.Paused log network errand :=
    ⟨lone.setting, lone.accounts, ⟨job, mine⟩, own, landed⟩
  subst same
  rcases progress with later | (cause | replies)
  · obtain ⟨asks, flight⟩ := outcome
    rw [landed] at flight
    exact paused.set_job (.takes ⟨own.session, own.operation⟩ rfl table (asks ▸ awaits) flight
      (asks ▸ fresh))
  · have spared : quest.Spared → Fresh log := by
      intro spared
      refine fresh ?_ (Or.inl spared)
      intro tuple client removal
      exact outcome (flight.spared spared tuple client removal).1
    exact paused.retreat fair table spared (AttemptStep.failing_retreats set _ cause)
  · obtain ⟨last, rfl⟩ := outcome
    exact paused.driven fair table awaits flight fresh last

theorem Lone.advanced (lone : quest.Lone log network) (fair : quest.Fair) {index : Nat}
    {errand : Errand} {attempt : Attempt} {step : AttemptStep}
    (found : network.jobs[index]? = some (.running errand))
    (under : errand.attempt? = some attempt) (stepped : attempt.advance? = some step) :
    quest.Lone log (network.install index errand attempt.replicas attempt.client step) := by
  have same := lone.setting.others index errand found
  subst index
  obtain ⟨job, mine, course⟩ := lone.course
  rw [found, Option.some.injEq] at mine
  subst job
  cases course with
  | begins own idle quiet fresh =>
      rw [idle] at under
      cases under
  | @pauses _ set machine pause own paused table rests quiet fresh =>
      rw [paused] at under
      cases under
      cases stepped
      have names : (set.table.map (·.1)).Nodup := by
        rw [table]
        exact fair.names
      have between : quest.Paused log network errand :=
        ⟨lone.setting, lone.accounts, ⟨_, found⟩, own, quiet⟩
      rw [← table] at rests
      exact between.proceed fair table fresh (AttemptStep.resting_proceeds names rests)
  | takes own taking table awaits flight fresh =>
      rw [taking] at under
      cases under
      exact lone.advance_taking fair own table awaits flight fresh stepped
  | @abandons _ set cause exchange own abandoning flight asks fresh =>
      rw [abandoning] at under
      cases under
      obtain ⟨progress, looked, same⟩ := Option.map_eq_some_iff.mp stepped
      obtain ⟨landed, outcome⟩ := flight.progress looked
      have between : quest.Paused log network errand :=
        ⟨lone.setting, lone.accounts, ⟨_, found⟩, own, landed⟩
      subst same
      cases progress with
      | goOn later =>
          obtain ⟨kept, flight⟩ := outcome
          rw [landed] at flight
          exact between.set_job (.abandons ⟨own.session, own.operation⟩ rfl flight
            (kept.trans asks) fresh)
      | finished result => exact between.conclude_failed fresh cause

theorem Lone.began (lone : quest.Lone log network) (fair : quest.Fair) {index : Nat}
    {errand : Errand} (found : network.jobs[index]? = some (.running errand))
    (idle : errand.attempt? = none) : quest.Lone log (network.beginAttempt index errand) := by
  have same := lone.setting.others index errand found
  subst index
  obtain ⟨job, mine, course⟩ := lone.course
  rw [found, Option.some.injEq] at mine
  subst job
  cases course with
  | begins own _ quiet fresh =>
      have between : quest.Paused log network errand :=
        ⟨lone.setting, lone.accounts, ⟨_, found⟩, own, quiet⟩
      exact between.begin_attempt fair fresh
  | pauses own paused _ _ _ _ =>
      rw [paused] at idle
      cases idle
  | takes own taking _ _ _ _ =>
      rw [taking] at idle
      cases idle
  | abandons own abandoning _ _ _ =>
      rw [abandoning] at idle
      cases idle

theorem Lone.woke (lone : quest.Lone log network) {index wake : Nat}
    (found : network.jobs[index]? = some (.sleeping wake)) :
    quest.Lone log (network.setJob index (.finished (.ok .done))) := by
  obtain ⟨job, mine, course⟩ := lone.course
  have apart : index ≠ quest.job := by
    rintro rfl
    rw [found, Option.some.injEq] at mine
    subst job
    cases course
  refine ⟨⟨lone.setting.session, lone.setting.registry, lone.setting.listeners,
    lone.setting.faults, ?_⟩, lone.accounts, job, ?_, course⟩
  · intro other errand running
    rw [Network.job_set found] at running
    split at running
    · cases running
    · exact lone.setting.others other errand running
  · rw [Network.job_set found, if_neg apart]
    exact mine

/-! ## Runs -/

theorem Setting.unthreatened (setting : quest.Setting network) (spared : quest.Spared)
    {request : Request} {tuple : String} {client : ClientId}
    (removal : request = .commit tuple client) (effect : FaultEffect) :
    ¬network.Threatens effect request.procedure := by
  rintro ⟨fault, member, _, procedure⟩
  subst removal
  exact spared fault (setting.faults member) procedure

theorem Lone.failed (lone : quest.Lone log network) {index : Nat} {parcel : Parcel}
    {sent : List (String × Request)} {faults : List Fault} {cause : TransportError}
    (found : network.parcels[index]? = some parcel) (unsent : parcel.state = .unsent)
    (left : faults ⊆ network.faults)
    (why : network.Threatens .drop parcel.request.procedure ∨
      ¬network.cluster.Reaches parcel.handle.node) :
    quest.Lone log ({ network with sent, faults }.record index parcel (.error cause)) := by
  refine lone.record found left ?_ (fun reply same => by cases same) ?_
  · intro call isReplyLost state
    rw [unsent] at state
    cases state
  · intro spared tuple client removal
    obtain ⟨job, _, course⟩ := lone.course
    have inside := List.mem_of_getElem? found
    obtain ⟨_, _, exchange, flight⟩ := course.flight_of inside
    have stands := flight.stands parcel inside
    rw [unsent, ← (flight.posted parcel inside).2.1, removal] at stands
    rcases why with threatened | away
    · exact absurd threatened (lone.setting.unthreatened spared removal .drop)
    · cases stands with
      | unsent ready =>
          unfold Quest.Ready at ready
          cases ready with
          | commit present fresh => exact absurd (Cluster.reaches_of_held present) away

theorem Lone.received (lone : quest.Lone log network) {index : Nat} {parcel : Parcel}
    {answer : Except TransportError Reply} (found : network.parcels[index]? = some parcel)
    (answered : network.answer? parcel = some answer) :
    quest.Lone log (network.record index parcel answer) := by
  obtain ⟨job, _, course⟩ := lone.course
  have inside := List.mem_of_getElem? found
  obtain ⟨_, _, exchange, flight⟩ := course.flight_of inside
  have asks := (flight.posted parcel inside).2.1
  have stands := flight.stands parcel inside
  unfold Network.answer? at answered
  cases state : parcel.state with
  | unsent =>
      rw [state] at answered
      cases answered
  | delivered call isReplyLost =>
      rw [state] at answered stands
      obtain ⟨node, target, rest⟩ := Option.bind_eq_some_iff.mp answered
      obtain ⟨result, finished, same⟩ := Option.bind_eq_some_iff.mp rest
      have leaves := stands.answered target finished
      rw [← asks] at leaves
      change quest.Lone log (Network.record
        { network with sent := network.sent, faults := network.faults } index parcel answer)
      refine lone.record found (List.Subset.refl _) ?_ ?_ ?_
      · intro other lost again found task there running
        rw [state] at again
        cases again
        rw [target] at there
        cases there
        obtain ⟨state, entry, done⟩ := Option.bind_eq_some_iff.mp finished
        rw [running] at entry
        cases entry
        cases done
      · intro reply ok
        split at same
        · cases same
          cases ok
        · cases same
          cases ok
          exact ⟨result, rfl, leaves⟩
      · intro spared tuple client removal
        have heard := (flight.spared spared tuple client (asks ▸ removal)).2 parcel inside call
        cases isReplyLost with
        | true => exact absurd state heard
        | false =>
            cases same
            exact ⟨_, rfl⟩

theorem Lone.event (lone : quest.Lone log network) (fair : quest.Fair) {event : NetworkEvent}
    (performed : network.perform? event = some next) :
    quest.Lone (log ++ network.carried event) next := by
  have moves := Network.moves_of_perform performed
  cases moves with
  | failed found unsent left why =>
      rw [Network.carried, List.append_nil]
      exact lone.failed found unsent left why
  | @forged index parcel sent faults reply found unsent left why =>
      obtain ⟨fault, member, effect, _⟩ := why
      rcases fair.honest fault (lone.setting.faults member) with drop | lose
      · rw [drop] at effect
        cases effect
      · rw [lose] at effect
        cases effect
  | @delivered index parcel sent faults node isReplyLost found unsent left target up why =>
      rw [Network.carried, List.append_nil]
      refine lone.delivered found unsent left target up ?_
      intro spared tuple client removal
      cases isReplyLost with
      | true => exact absurd (why rfl) (lone.setting.unthreatened spared removal .loseReply)
      | false => rfl
  | @worked place call node service target stepped =>
      have running := stepped
      unfold Service.step? at running
      split at running
      · rename_i task entry
        have carried : network.carried (.work place call) = [(place, task)] := by
          simp [Network.carried, target, entry]
        rw [carried]
        exact lone.worked fair target entry stepped
      · cases running
  | received found answered =>
      rw [Network.carried, List.append_nil]
      exact lone.received found answered
  | began found idle =>
      rw [Network.carried, List.append_nil]
      exact lone.began fair found idle
  | advanced found under stepped =>
      rw [Network.carried, List.append_nil]
      exact lone.advanced fair found under stepped
  | woke found =>
      rw [Network.carried, List.append_nil]
      exact lone.woke found
  | passed =>
      rw [Network.carried, List.append_nil]
      exact ⟨⟨lone.setting.session, lone.setting.registry, lone.setting.listeners,
        lone.setting.faults, lone.setting.others⟩, lone.accounts, lone.course⟩

theorem lone_run (fair : quest.Fair) {start : Network} (begun : quest.Lone [] start)
    (run : Network.Run start log network) : quest.Lone log network := by
  induction run with
  | start => exact begun
  | event _ performed lone => exact lone.event fair performed

end Quest

namespace Network

structure IsQuiet (network : Network) : Prop where
  parcels : network.parcels = []
  jobs : ∀ job ∈ network.jobs, ∀ errand, job ≠ .running errand
  calls : ∀ node ∈ network.cluster.nodes, ∀ state ∈ node.service.calls, ∀ task,
    state ≠ .running task

variable {network : Network} {index : Nat} {session : Session} {pattern : String}
  {table : List (String × Nat)}

private theorem lone_added (there : network.sessions[index]? = some session)
    (quiet : network.IsQuiet) (fixed : network.IsFixed session table) (sequencer : Sequencer)
    {job : Job}
    (course : Quest.Course ⟨network, session, index, network.jobs.length, pattern, table⟩ []
      network.cluster [] job) :
    Quest.Lone ⟨network, session, index, network.jobs.length, pattern, table⟩ []
      ({ network with sequencer }.addJob job) := by
  refine ⟨⟨⟨session, there, rfl, rfl, fixed.kept⟩, rfl, rfl, List.Subset.refl _, ?_⟩,
    ⟨fun place => List.Perm.refl _, ?_⟩, job, ?_, ?_⟩
  · intro other errand running
    simp only [addJob] at running
    by_cases earlier : other < network.jobs.length
    · rw [List.getElem?_append_left earlier] at running
      exact absurd rfl (quiet.jobs _ (List.mem_of_getElem? running) errand)
    · have bound := (List.getElem?_eq_some_iff.mp running).1
      simp only [List.length_append, List.length_singleton] at bound
      change other = network.jobs.length
      omega
  · intro place call node task target running
    exact absurd rfl (quiet.calls node (List.mem_of_getElem? target) _
      (List.mem_of_getElem? running) task)
  · simp [addJob]
  · change Quest.Course _ [] network.cluster network.parcels job
    rw [quiet.parcels]
    exact course

theorem lone_begin (there : network.sessions[index]? = some session)
    (quorum : session.config.takeMode = .quorum) (quiet : network.IsQuiet)
    (fixed : network.IsFixed session table) :
    Quest.Lone ⟨network, session, index, network.jobs.length, pattern, table⟩ []
      (network.begin index (.take pattern)) := by
  unfold begin
  rw [there]
  dsimp only
  unfold Session.take
  split
  · exact lone_added there quiet fixed network.sequencer (.failed rfl)
  · unfold Session.ordered
    rw [quorum]
    exact lone_added there quiet fixed network.sequencer
      (.begins ⟨rfl, rfl⟩ rfl rfl fun _ place => rfl)

/-- A take by quorum that succeeds on its own has removed its tuple last at every replica, and
before that what the removals asked for by attempts that failed had removed there. So a replica
has lost that one tuple and nothing else exactly if no removal of a failed attempt reached it.
None does without retries, or with no fault lying in wait for removals. -/
theorem lone_take_removes {last : Network} {log : List (Nat × Task)} {outcome : Outcome}
    (there : network.sessions[index]? = some session)
    (quorum : session.config.takeMode = .quorum) (quiet : network.IsQuiet)
    (fixed : network.IsFixed session table)
    (lossy : ∀ fault ∈ network.faults, fault.effect = .drop ∨ fault.effect = .loseReply)
    (run : Run (network.begin index (.take pattern)) log last)
    (ended : last.jobs[network.jobs.length]? = some (.finished (.ok outcome))) :
    ∃ tuple, outcome = .tuple tuple ∧ ∀ row ∈ table, ∃ earlier,
      removals row.2 log = earlier ++ [tuple] ∧
      (network.cluster.values row.2).Perm (earlier ++ tuple :: last.cluster.values row.2) ∧
      ((network.cluster.values row.2).Perm (tuple :: last.cluster.values row.2) ↔
        earlier = []) ∧
      (session.config.callRetries = 0 ∨
          (∀ fault ∈ network.faults, fault.procedure ≠ "take phase 2") →
        earlier = []) := by
  let quest : Quest := ⟨network, session, index, network.jobs.length, pattern, table⟩
  have fair : quest.Fair := ⟨fixed.names, fixed.places, fixed.found, lossy⟩
  have lone : quest.Lone log last :=
    Quest.lone_run fair (lone_begin there quorum quiet fixed) run
  obtain ⟨job, mine, course⟩ := lone.course
  rw [ended, Option.some.injEq] at mine
  subst job
  cases course with
  | @took tuple _ removed =>
      refine ⟨tuple, rfl, ?_⟩
      intro row member
      obtain ⟨earlier, log_, clean⟩ := removed row member
      have lost : (network.cluster.values row.2).Perm
          (earlier ++ tuple :: last.cluster.values row.2) := by
        have values := lone.accounts.values row.2
        rw [log_, List.append_assoc] at values
        exact values
      refine ⟨earlier, log_, lost, ⟨?_, ?_⟩, fun safe => clean safe.symm⟩
      · intro one
        have sizes := (lost.symm.trans one).length_eq
        simp only [List.length_append, List.length_cons] at sizes
        exact List.length_eq_zero_iff.mp (by omega)
      · rintro rfl
        exact lost

/-- Two copies of a tuple at a single replica, and a fault that waits for the first removal. -/
def pairAt (effect : FaultEffect) : Network :=
  { registry := ⟨[("TupleSpaces", [⟨"A", "local:1"⟩])]⟩
    cluster :=
      { nodes :=
          [{ qualifier := "A"
             service :=
               { replica := { store := { space := ⟨[⟨"<a>", none⟩, ⟨"<a>", none⟩]⟩ } } } }]
        listeners := [("local:1", 0)] }
    sessions := [{ client := ⟨1⟩, config := { callRetries := 1 } }]
    faults := [⟨"A", "take phase 2", effect⟩] }

/-- If the removal never arrives, a second attempt removes the one tuple. -/
theorem lone_take_removes_of_drop :
    ∃ log last, Run ((pairAt .drop).begin 0 (.take "<a>")) log last ∧
      last.jobs[0]? = some (.finished (.ok (.tuple "<a>"))) ∧ removals 0 log = ["<a>"] ∧
      ((pairAt .drop).cluster.values 0).Perm ("<a>" :: last.cluster.values 0) := by
  have done : (((pairAt .drop).begin 0 (.take "<a>")).replay?
      [.advance 0, .send 0, .work 0 0, .receive 0, .advance 0, .advance 0, .advance 0, .send 0,
        .advance 0, .advance 0, .send 0, .work 0 1, .receive 0, .advance 0, .advance 0,
        .advance 0, .advance 0, .send 0, .work 0 2, .receive 0, .advance 0, .advance 0,
        .advance 0, .send 0, .work 0 3, .receive 0, .advance 0, .advance 0, .advance 0]).map
          (fun last => (last.2.jobs[0]?, removals 0 last.1)) =
            some (some (.finished (.ok (.tuple "<a>"))), ["<a>"]) := by
    decide +kernel
  obtain ⟨⟨log, last⟩, replayed, outcome⟩ := Option.map_eq_some_iff.mp done
  obtain ⟨ended, removed⟩ := Prod.mk.inj outcome
  have run : Run ((pairAt .drop).begin 0 (.take "<a>")) log last := run_of_replay .start replayed
  have quiet : (pairAt .drop).IsQuiet := by
    refine ⟨rfl, by simp [pairAt], ?_⟩
    intro node member state inside
    simp only [pairAt, List.mem_singleton] at member
    subst member
    cases inside
  have fixed : (pairAt .drop).IsFixed { client := ⟨1⟩, config := { callRetries := 1 } }
      [("A", 0)] := by
    refine ⟨by simp, by simp, ?_, ?_⟩
    · intro set none
      cases none
    · intro set found
      cases found
      decide
  have there : (pairAt .drop).sessions[0]? =
      some { client := ⟨1⟩, config := { callRetries := 1 } } := rfl
  obtain ⟨tuple, same, all⟩ :=
    lone_take_removes there rfl quiet fixed (by simp [pairAt]) run ended
  cases same
  obtain ⟨earlier, split, _, exact, _⟩ := all ("A", 0) (by simp)
  have first : earlier = [] := by
    dsimp only at removed split
    rw [removed] at split
    simpa using split.symm
  exact ⟨log, last, run, ended, removed, exact.mpr first⟩

/-- If only its reply is lost, the second attempt removes the other copy. -/
theorem retried_take_removes_twice :
    ∃ log last, Run ((pairAt .loseReply).begin 0 (.take "<a>")) log last ∧
      last.jobs[0]? = some (.finished (.ok (.tuple "<a>"))) ∧
      (pairAt .loseReply).cluster.values 0 = ["<a>", "<a>"] ∧ last.cluster.values 0 = [] ∧
      ¬((pairAt .loseReply).cluster.values 0).Perm ("<a>" :: last.cluster.values 0) := by
  have done : (((pairAt .loseReply).begin 0 (.take "<a>")).replay?
      [.advance 0, .send 0, .work 0 0, .receive 0, .advance 0, .advance 0, .advance 0, .send 0,
        .work 0 1, .receive 0, .advance 0, .advance 0, .send 0, .work 0 2, .receive 0, .advance 0,
        .advance 0, .advance 0, .advance 0, .send 0, .work 0 3, .receive 0, .advance 0,
        .advance 0, .advance 0, .send 0, .work 0 4, .receive 0, .advance 0, .advance 0,
        .advance 0]).map (fun last => (last.2.jobs[0]?, last.2.cluster.values 0)) =
          some (some (.finished (.ok (.tuple "<a>"))), []) := by
    decide +kernel
  obtain ⟨⟨log, last⟩, replayed, outcome⟩ := Option.map_eq_some_iff.mp done
  obtain ⟨ended, left⟩ := Prod.mk.inj outcome
  refine ⟨log, last, run_of_replay .start replayed, ended, rfl, left, ?_⟩
  dsimp only at left
  rw [left]
  intro one
  exact absurd one.length_eq (by decide)

end Network

end TupleSpace
