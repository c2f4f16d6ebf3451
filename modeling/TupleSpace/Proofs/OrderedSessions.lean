import TupleSpace.Proofs.NumberedQueries
import TupleSpace.Proofs.ReplicaLedger

/-!
# Sessions that put and take in order

Any number of sessions that draw their numbers from one sequencer, on replicas that start empty,
under faults that drop requests or lose replies. Every replica applies an operation once at most. A
put that succeeds was applied by every replica, and a take that succeeds has got one and the same
tuple out of every replica.
-/

namespace TupleSpace

open TupleSpace.Table

variable {record deeds : List Deed} {place : Nat}

/-! ## Longer histories -/

theorem issued_grown (record deeds : List Deed) : issued record ⊆ issued (record ++ deeds) := by
  rw [issued, issued, List.filterMap_append]
  exact List.subset_append_left _ _

theorem ledger_grown (record deeds : List Deed) (place : Nat) :
    (ledgerAt place record).Extends (ledgerAt place (record ++ deeds)) := by
  simp only [Ledger.Extends, ledgerAt, turnsAt, List.filterMap_append, List.map_append]
  exact ⟨List.subset_append_left _ _, List.subset_append_left _ _⟩

theorem made_grown {call : Nat} {task : Except StoreError Task}
    (made : (ledgerAt place record).made[call]? = some task) (deeds : List Deed) :
    (ledgerAt place (record ++ deeds)).made[call]? = some task := by
  simp only [ledgerAt, List.filterMap_append] at made ⊢
  rw [List.getElem?_append_left (List.getElem?_eq_some_iff.mp made).1]
  exact made

/-- A parcel asks for something in order, and once it was delivered its call is on record. -/
structure Parcel.Recorded (record : List Deed) (parcel : Parcel) : Prop where
  asks : ∃ query : Query, query.InOrder (issued record) ∧ parcel.request = query.request
  made : ∀ call isReplyLost, parcel.state = .delivered call isReplyLost →
    (ledgerAt parcel.handle.node record).made[call]? = some parcel.request.task

theorem Parcel.Recorded.grown {parcel : Parcel} (recorded : parcel.Recorded record)
    (deeds : List Deed) : parcel.Recorded (record ++ deeds) := by
  obtain ⟨query, order, same⟩ := recorded.asks
  exact ⟨⟨query, order.mono (issued_grown record deeds), same⟩,
    fun call isReplyLost state => made_grown (recorded.made call isReplyLost state) deeds⟩

def Command.Means (command : Command) (query : Query) : Prop :=
  (∀ tuple, command = .put tuple → ∃ number, query = .sequencedPut number tuple) ∧
    ∀ pattern, command = .take pattern → ∃ number, query = .sequencedTake number pattern

namespace Network

/-- Fresh replicas, and sessions that find the same ones and draw their numbers from one sequencer,
starting from the number that comes first at the replicas. -/
structure Lineup (network : Network) (first : Nat) (table : List (String × Nat)) : Prop where
  fresh : ∀ node ∈ network.cluster.nodes, node.service = .start first
  sequencer : network.sequencer.next = first
  jobs : network.jobs = []
  parcels : network.parcels = []
  names : (table.map (·.1)).Nodup
  sequenced : ∀ session ∈ network.sessions, session.config.takeMode = .sequenced
  fixed : ∀ session ∈ network.sessions, network.IsFixed session table
  lossy : ∀ fault ∈ network.faults, fault.effect = .drop ∨ fault.effect = .loseReply

structure Orderly (origin : Network) (first : Nat) (table : List (String × Nat))
    (op : Nat → SequencedOp) (record : List Deed) (network : Network) : Prop where
  attested : ∀ place, Attested op first record place (network.cluster.serviceAt first place)
  reached : ∀ exchange place request, .reaches exchange place request ∈ record →
    ∃ query : Query, query.InOrder (issued record) ∧ request = query.request
  parcels : ∀ parcel ∈ network.parcels, parcel.Recorded record
  begun : ∀ index session command operation,
    .begins index session command (some operation) ∈ record → ∃ query job,
      operation = .query query ∧ command.Means query ∧ query.InOrder (issued record) ∧
        network.jobs[index]? = some job ∧
        Duty.Serves ⟨table, first, query⟩ (ledgerAt · record) network.parcels network.exchanges job
  known : ∀ index errand, network.jobs[index]? = some (.running errand) →
    ∃ session command, .begins index session command (some errand.operation) ∈ record

variable {origin network last : Network} {first index : Nat} {table : List (String × Nat)}
  {op : Nat → SequencedOp} {parcel : Parcel}

theorem Lineup.orderly (lineup : origin.Lineup first table) (op : Nat → SequencedOp) :
    origin.Orderly first table op [] origin := by
  constructor
  case attested =>
    intro place
    rw [Cluster.service_fresh lineup.fresh]
    exact .start op first place
  case reached => simp
  case parcels => simp [lineup.parcels]
  case begun => simp
  case known => simp [lineup.jobs]

/-- A session that puts and takes in order begins nothing else that changes a replica. -/
theorem Begins.in_order {session : Nat} {command : Command} {job : Job} {sequencer : Sequencer}
    {operation : Operation} (index : Nat)
    (begins : network.Begins session command job sequencer)
    (sequenced : ∀ found, network.sessions[session]? = some found →
      found.config.takeMode = .sequenced) (carries : job.operation? = some operation) :
    ∃ query : Query, operation = .query query ∧ command.Means query ∧
      query.InOrder (issued [.begins index session command (some operation)]) ∧
      job = .running { session, operation } := by
  cases begins with
  | ended => cases carries
  | sleeps => cases carries
  | reads =>
      cases carries
      exact ⟨_, rfl, ⟨by simp, by simp⟩, trivial, rfl⟩
  | looks =>
      cases carries
      exact ⟨_, rfl, ⟨by simp, by simp⟩, trivial, rfl⟩
  | puts there quorum =>
      rw [sequenced _ there] at quorum
      cases quorum
  | takes there quorum =>
      rw [sequenced _ there] at quorum
      cases quorum
  | putsInOrder there _ =>
      cases carries
      exact ⟨_, rfl, ⟨by simp, by simp⟩, List.mem_singleton_self _, rfl⟩
  | takesInOrder there _ =>
      cases carries
      exact ⟨_, rfl, ⟨by simp, by simp⟩, List.mem_singleton_self _, rfl⟩

namespace Orderly

theorem runs (orderly : origin.Orderly first table op record network) (place : Nat) :
    ∃ service, Service.Run first op (ledgerAt place record) service :=
  ⟨_, (orderly.attested place).run⟩

theorem told (orderly : origin.Orderly first table op record network)
    (inside : parcel ∈ network.parcels) {query : Query} {number : Nat}
    (under : query.number? = some number) (request : parcel.request = query.request)
    {answer : Except TransportError Reply} (answered : network.answer? parcel = some answer) :
    parcel.Reports (ledgerAt parcel.handle.node record) first number answer := by
  intro response replied
  obtain ⟨asked, task, numbered⟩ := Query.task_under_number under
  rw [← request] at task
  unfold answer? at answered
  cases state : parcel.state with
  | unsent =>
      rw [state] at answered
      cases answered
  | delivered call isReplyLost =>
      rw [state] at answered
      obtain ⟨node, target, rest⟩ := Option.bind_eq_some_iff.mp answered
      obtain ⟨result, finished, same⟩ := Option.bind_eq_some_iff.mp rest
      obtain ⟨call_, stored, ended⟩ := Option.bind_eq_some_iff.mp finished
      have attested := orderly.attested parcel.handle.node
      rw [Cluster.service_at target] at attested
      have holds := (Service.sound_run attested.run).calls
        ((orderly.parcels parcel inside).made call isReplyLost state) stored
      subst replied
      split at same
      · cases same
      · cases result with
        | error cause => cases same
        | ok result =>
            cases same
            cases call_ with
            | finished _ =>
                cases ended
                exact ⟨result, rfl, holds asked number task numbered⟩
            | _ => cases ended

theorem answered (orderly : origin.Orderly first table op record network)
    {sent : List (String × Request)} {faults : List Fault} {answer : Except TransportError Reply}
    (found : network.parcels[index]? = some parcel)
    (told : ∀ (query : Query) number, query.number? = some number →
      parcel.request = query.request →
        parcel.Reports (ledgerAt parcel.handle.node record) first number answer) :
    origin.Orderly first table op record
      ({ network with sent, faults }.record index parcel answer) := by
  constructor
  case attested => exact orderly.attested
  case reached => exact orderly.reached
  case parcels => exact fun other member => orderly.parcels other (List.mem_of_mem_eraseIdx member)
  case begun =>
    intro job session command operation begins
    obtain ⟨query, state, same, means, order, there, serves⟩ :=
      orderly.begun job session command operation begins
    refine ⟨query, _, same, means, order, ?_, serves.answered found (told query)⟩
    simp [Network.record, there]
  case known =>
    intro job errand there
    obtain ⟨before, known, same⟩ :=
      Option.map_eq_some_iff.mp ((List.getElem?_map ..).symm.trans there)
    obtain ⟨errand_, rfl, operation⟩ := Job.running_of_record same
    rw [← operation]
    exact orderly.known job errand_ known

theorem begun_grown (orderly : origin.Orderly first table op record network) (deeds : List Deed)
    {session : Nat} {command : Command} {operation : Operation}
    (begun : .begins index session command (some operation) ∈ record) : ∃ query job,
      operation = .query query ∧ command.Means query ∧
        query.InOrder (issued (record ++ deeds)) ∧ network.jobs[index]? = some job ∧
        Duty.Serves ⟨table, first, query⟩ (ledgerAt · (record ++ deeds)) network.parcels
          network.exchanges job := by
  obtain ⟨query, job, same, means, order, there, serves⟩ :=
    orderly.begun index session command operation begun
  exact ⟨query, job, same, means, order.mono (issued_grown record deeds), there,
    serves.mono fun place => ledger_grown record deeds place⟩

theorem reached_grown (orderly : origin.Orderly first table op record network)
    {exchange : Nat} {request : Request} (deeds : List Deed)
    (reached : .reaches exchange place request ∈ record) :
    ∃ query : Query, query.InOrder (issued (record ++ deeds)) ∧ request = query.request := by
  obtain ⟨query, order, same⟩ := orderly.reached exchange place request reached
  exact ⟨query, order.mono (issued_grown record deeds), same⟩

theorem known_grown (orderly : origin.Orderly first table op record network) (deeds : List Deed)
    {errand : Errand} (running : network.jobs[index]? = some (.running errand)) :
    ∃ session command,
      .begins index session command (some errand.operation) ∈ record ++ deeds := by
  obtain ⟨session, command, begun⟩ := orderly.known index errand running
  exact ⟨session, command, List.mem_append_left _ begun⟩

theorem delivered (orderly : origin.Orderly first table op record network)
    {sent : List (String × Request)} {faults : List Fault} {node : Node} {isReplyLost : Bool}
    (agrees : ∀ entry ∈ issued record, op entry.1 = entry.2)
    (found : network.parcels[index]? = some parcel)
    (target : network.cluster.nodes[parcel.handle.node]? = some node) :
    origin.Orderly first table op
      (record ++ [.reaches parcel.exchange parcel.handle.node parcel.request])
      { network with
        sent
        faults
        cluster := network.cluster.setNode parcel.handle.node
          { node with service := node.service.call parcel.request.task }
        parcels := network.parcels.set index
          { parcel with state := .delivered node.service.calls.length isReplyLost } } := by
  have recorded := orderly.parcels parcel (List.mem_of_getElem? found)
  obtain ⟨query, order, request⟩ := recorded.asks
  have attested := orderly.attested parcel.handle.node
  rw [Cluster.service_at target] at attested
  constructor
  case attested =>
    refine Cluster.attested_set orderly.attested target rfl (attested.called parcel.exchange ?_)
    rw [request]
    exact order.admits agrees _
  case reached =>
    intro exchange place other member
    rcases List.mem_append.mp member with earlier | now
    · exact orderly.reached_grown _ earlier
    · cases List.mem_singleton.mp now
      exact ⟨query, order.mono (issued_grown record _), request⟩
  case parcels =>
    intro other member
    rcases List.mem_or_eq_of_mem_set member with old | rfl
    · exact (orderly.parcels other old).grown _
    · refine ⟨(recorded.grown _).asks, fun call lost state => ?_⟩
      cases state
      rw [ledger_reached, ← (Service.sound_run attested.run).count]
      exact List.getElem?_concat_length
  case begun =>
    intro job session command operation member
    obtain ⟨query, state, same, means, order, there, serves⟩ :=
      orderly.begun_grown _ (by simpa using member)
    exact ⟨query, state, same, means, order, there, serves.moved found _⟩
  case known => exact fun job errand there => orderly.known_grown _ there

theorem worked (orderly : origin.Orderly first table op record network) {call : Nat} {node : Node}
    {task : Task} {service : Service} (target : network.cluster.nodes[place]? = some node)
    (running : node.service.calls[call]? = some (.running task))
    (stepped : node.service.step? call = some service) :
    origin.Orderly first table op (record ++ [.works place node.service.replica task])
      { network with cluster := network.cluster.setNode place { node with service } } := by
  have attested := orderly.attested place
  rw [Cluster.service_at target] at attested
  constructor
  case attested =>
    exact Cluster.attested_set orderly.attested target rfl (attested.worked running stepped)
  case reached =>
    intro exchange other request member
    exact orderly.reached_grown _ (by simpa using member)
  case parcels => exact fun parcel member => (orderly.parcels parcel member).grown _
  case begun =>
    intro job session command operation member
    exact orderly.begun_grown _ (by simpa using member)
  case known => exact fun job errand there => orderly.known_grown _ there

theorem attested_still (orderly : origin.Orderly first table op record network)
    (nowhere : ∀ deed ∈ deeds, deed.place? = none) (place : Nat) :
    Attested op first (record ++ deeds) place (network.cluster.serviceAt first place) :=
  (orderly.attested place).still fun deed member => by simp [nowhere deed member]

theorem goes_on (orderly : origin.Orderly first table op record network)
    (lineup : origin.Lineup first table) (descends : origin.Descends network)
    (agrees : ∀ entry ∈ issued record, op entry.1 = entry.2)
    {job : Job} {posted? : Option (List Parcel)} (advances : network.Advances index job posted?)
    {session : Nat} {command : Command} {operation : Operation}
    (begun : .begins index session command (some operation) ∈ record) :
    ∃ query : Query, operation = .query query ∧ command.Means query ∧
      query.InOrder (issued record) ∧
      Duty.Serves ⟨table, first, query⟩ (ledgerAt · record) (network.parcels ++ posted?.getD [])
        (network.exchanges + if posted?.isSome then 1 else 0) job ∧
      ∀ parcel ∈ posted?.getD [], parcel.request = query.request := by
  obtain ⟨query, before, same, means, order, there, serves⟩ :=
    orderly.begun index session command operation begun
  have fixed : ∀ (index : Nat) session, network.sessions[index]? = some session →
      network.IsFixed session table := by
    intro index session found
    obtain ⟨known, inside, continues⟩ := descends.upholds.session_before found
    exact continues.fixed table (lineup.fixed known (List.mem_of_getElem? inside))
  exact ⟨query, same, means, order, serves.advanced there descends.numbered lineup.names fixed
    orderly.runs order agrees advances⟩

theorem goes_on_known (orderly : origin.Orderly first table op record network)
    (lineup : origin.Lineup first table) (descends : origin.Descends network)
    (agrees : ∀ entry ∈ issued record, op entry.1 = entry.2)
    {job : Job} {posted? : Option (List Parcel)} (advances : network.Advances index job posted?) :
    (∀ parcel ∈ posted?.getD [], parcel.Recorded record) ∧
      ∀ errand, job = .running errand →
        ∃ session command, .begins index session command (some errand.operation) ∈ record := by
  rcases advances.from_running with ⟨before, running⟩ | ⟨⟨result, rfl⟩, rfl⟩
  · obtain ⟨session, command, begun⟩ := orderly.known index before running
    obtain ⟨query, same, _, order, serves, requests⟩ :=
      orderly.goes_on lineup descends agrees advances begun
    refine ⟨fun parcel new => ⟨⟨query, order, requests parcel new⟩, ?_⟩, ?_⟩
    · intro call isReplyLost state
      rw [(advances.posted_fresh parcel new).2] at state
      cases state
    · rintro errand rfl
      refine ⟨session, command, ?_⟩
      rw [serves.operation, ← same]
      exact begun
  · exact ⟨by simp, by simp⟩

theorem advanced (orderly : origin.Orderly first table op record network)
    (lineup : origin.Lineup first table) (descends : origin.Descends network)
    (agrees : ∀ entry ∈ issued record, op entry.1 = entry.2)
    {job : Job} {posted? : Option (List Parcel)} (advances : network.Advances index job posted?)
    (changes : network.Changes last index job posted?) :
    origin.Orderly first table op (record ++ network.posting index posted?) last := by
  obtain ⟨recorded, known⟩ := orderly.goes_on_known lineup descends agrees advances
  constructor
  case attested =>
    rw [changes.cluster]
    refine orderly.attested_still fun deed member => ?_
    obtain ⟨exchange, requests, rfl⟩ := posts_of_posting member
    rfl
  case reached =>
    intro exchange place request member
    rcases List.mem_append.mp member with earlier | now
    · exact orderly.reached_grown _ earlier
    · obtain ⟨_, _, same⟩ := posts_of_posting now
      cases same
  case parcels =>
    intro parcel member
    rw [changes.parcels] at member
    rcases List.mem_append.mp member with old | new
    · exact (orderly.parcels parcel old).grown _
    · exact (recorded parcel new).grown _
  case begun =>
    intro other session command operation member
    have begun : .begins other session command (some operation) ∈ record := by
      rcases List.mem_append.mp member with earlier | now
      · exact earlier
      · obtain ⟨_, _, same⟩ := posts_of_posting now
        cases same
    rw [changes.parcels, changes.exchanges, changes.job_at]
    by_cases here : index = other
    · subst other
      obtain ⟨_, before, _, _, _, there, _⟩ := orderly.begun index session command _ begun
      obtain ⟨query, same, means, order, serves, _⟩ :=
        orderly.goes_on lineup descends agrees advances begun
      rw [if_pos rfl, there]
      exact ⟨query, job, same, means, order.mono (issued_grown record _), rfl,
        serves.mono fun place => ledger_grown record _ place⟩
    · obtain ⟨query, state, same, means, order, there, serves⟩ := orderly.begun_grown _ begun
      rw [if_neg here]
      exact ⟨query, state, same, means, order, there,
        serves.beside _ fun parcel member => (advances.posted_fresh parcel member).1⟩
  case known =>
    intro other errand there
    rw [changes.job_at] at there
    split at there
    · rename_i here
      subst other
      obtain ⟨_, _, running⟩ := Option.map_eq_some_iff.mp there
      obtain ⟨session, command, begun⟩ := known errand running
      exact ⟨session, command, List.mem_append_left _ begun⟩
    · exact orderly.known_grown _ there

theorem begun_next (orderly : origin.Orderly first table op record network)
    (lineup : origin.Lineup first table) (descends : origin.Descends network) {session : Nat}
    {command : Command} {job : Job} {sequencer : Sequencer}
    (begins : network.Begins session command job sequencer)
    (adds : network.Adds last job sequencer) :
    origin.Orderly first table op
      (record ++ [.begins network.jobs.length session command job.operation?]) last := by
  have sequenced : ∀ found, network.sessions[session]? = some found →
      found.config.takeMode = .sequenced := by
    intro found there
    obtain ⟨known, inside, continues⟩ := descends.upholds.session_before there
    rw [continues.config]
    exact lineup.sequenced known (List.mem_of_getElem? inside)
  constructor
  case attested =>
    rw [adds.cluster]
    exact orderly.attested_still (by simp [Deed.place?])
  case reached =>
    intro exchange place request member
    exact orderly.reached_grown _ (by simpa using member)
  case parcels =>
    intro parcel member
    rw [adds.parcels] at member
    exact (orderly.parcels parcel member).grown _
  case begun =>
    intro index other named operation member
    rw [adds.parcels, adds.exchanges]
    rcases List.mem_append.mp member with before | now
    · obtain ⟨query, state, same, means, order, there, serves⟩ := orderly.begun_grown _ before
      exact ⟨query, state, same, means, order, adds.job_before there, serves⟩
    · obtain ⟨rfl, rfl, rfl, carries⟩ := Deed.begins.inj (List.mem_singleton.mp now)
      obtain ⟨query, rfl, means, order, rfl⟩ :=
        begins.in_order network.jobs.length sequenced carries.symm
      refine ⟨query, .running { session := other, operation := .query query }, rfl, means, ?_,
        by simp [adds.jobs], .idle rfl rfl⟩
      rw [issued, List.filterMap_append]
      exact order.mono (List.subset_append_right _ _)
  case known =>
    intro index errand there
    rcases adds.job_cases there with before | ⟨rfl, rfl⟩
    · exact orderly.known_grown _ before
    · exact ⟨session, command, List.mem_append_right _ (List.mem_singleton_self _)⟩

/-- Whatever happens, sessions go on in order. -/
theorem happens (orderly : origin.Orderly first table op record network)
    (lineup : origin.Lineup first table) (descends : origin.Descends network)
    (agrees : ∀ entry ∈ issued record, op entry.1 = entry.2)
    (happens : network.Happens deeds last) :
    origin.Orderly first table op (record ++ deeds) last := by
  cases happens with
  | failed found unsent left =>
      rw [List.append_nil]
      exact orderly.answered found (by simp [Parcel.Reports])
  | forged found unsent left why =>
      obtain ⟨fault, member, effect, _⟩ := why
      rcases lineup.lossy fault (descends.faults member) with drop | lose
      · rw [drop] at effect
        cases effect
      · rw [lose] at effect
        cases effect
  | delivered found _ _ target => exact orderly.delivered agrees found target
  | worked target running stepped => exact orderly.worked target running stepped
  | received found answered =>
      rw [List.append_nil]
      exact orderly.answered found fun query number under request =>
        orderly.told (List.mem_of_getElem? found) under request answered
  | advanced advances changes => exact orderly.advanced lineup descends agrees advances changes
  | passed =>
      rw [List.append_nil]
      exact ⟨orderly.attested, orderly.reached, orderly.parcels, orderly.begun, orderly.known⟩
  | begun begins adds => exact orderly.begun_next lineup descends begins adds

/-! ## What the history tells of the turns -/

theorem turns_distinct (orderly : origin.Orderly first table op record network) (place : Nat) :
    ((turnsAt place record).map (·.1)).Nodup := by
  have distinct := (Service.sound_run (orderly.attested place).run).follows.distinct
  simpa [ledgerAt, Function.comp_def] using distinct

/-- Only what was begun under a number is applied under it. -/
theorem turns_issued (orderly : origin.Orderly first table op record network)
    (agrees : ∀ entry ∈ issued record, op entry.1 = entry.2) :
    ∀ turn ∈ turnsAt place record, (turn.1, turn.2.1) ∈ issued record := by
  intro turn member
  obtain ⟨same, asked, made, number⟩ := (orderly.attested place).turns turn member
  obtain ⟨deed, inside, makes⟩ := List.mem_filterMap.mp made
  obtain ⟨exchange, request, rfl, task⟩ := Deed.reaches_of_made makes
  obtain ⟨query, order, rfl⟩ := orderly.reached exchange place request inside
  obtain ⟨drawn, entry⟩ := order.drawn_for ((order.number_of_task task).symm.trans number)
  rw [same, agrees _ entry]
  exact entry

theorem turn_of_result (orderly : origin.Orderly first table op record network) {number : Nat}
    {result : Except StoreError Applied} (turn : (number, result) ∈ (ledgerAt place record).turns) :
    (number, op number, result) ∈ turnsAt place record := by
  obtain ⟨⟨other, asked, came⟩, member, same⟩ := List.mem_map.mp turn
  cases same
  have asked_ := ((orderly.attested place).turns _ member).1
  dsimp only at asked_
  rw [← asked_]
  exact member

end Orderly

theorem orderly_of_history (lineup : origin.Lineup first table)
    (history : History origin record network)
    (agrees : ∀ entry ∈ issued record, op entry.1 = entry.2) :
    origin.Orderly first table op record network := by
  have numbered : origin.Numbered := by simp [Numbered, lineup.parcels]
  induction history with
  | start => exact lineup.orderly op
  | step history undergone induction =>
      have before := fun entry member => agrees entry (issued_grown _ _ member)
      exact (induction before).happens lineup ((Descends.refl numbered).history history) before
        (happens_of_undergo undergone)

/-! ## Numbers -/

theorem Happens.draws (happens : network.Happens deeds last) :
    issued deeds = [] ∧ last.sequencer = network.sequencer ∨
      ∃ op, issued deeds = [(network.sequencer.next, op)] ∧
        last.sequencer = network.sequencer.issue.2 := by
  cases happens with
  | @advanced index job posted? _ advances changes =>
      refine Or.inl ⟨?_, changes.sequencer⟩
      cases posted? <;> rfl
  | begun begins adds =>
      rw [adds.sequencer]
      cases begins with
      | putsInOrder _ _ => exact Or.inr ⟨_, rfl, rfl⟩
      | takesInOrder _ _ => exact Or.inr ⟨_, rfl, rfl⟩
      | _ => exact Or.inl ⟨rfl, rfl⟩
  | _ => exact Or.inl ⟨rfl, rfl⟩

/-- Until the sequencer wraps, numbers are handed out one after another. -/
theorem issued_one_by_one (starts : origin.sequencer.next = first)
    (history : History origin record network)
    (unwrapped : first + (issued record).length < UInt64.size) :
    (issued record).map (·.1) = List.range' first (issued record).length ∧
      network.sequencer.next = first + (issued record).length := by
  induction history with
  | start => exact ⟨rfl, starts⟩
  | @step record deeds network last occurrence _ undergone induction =>
      have grown : issued (record ++ deeds) = issued record ++ issued deeds := by
        rw [issued, List.filterMap_append, issued, issued]
      rw [grown, List.length_append] at unwrapped ⊢
      obtain ⟨numbers, next⟩ := induction (by omega)
      rcases (happens_of_undergo undergone).draws with ⟨nothing, same⟩ | ⟨op, one, drawn⟩
      · rw [nothing, same]
        simpa using ⟨numbers, next⟩
      · rw [one] at unwrapped ⊢
        rw [drawn, List.map_append, numbers, next, List.length_singleton, List.range'_1_concat]
        refine ⟨rfl, ?_⟩
        simp only [Sequencer.issue, next]
        exact Nat.mod_eq_of_lt unwrapped

/-! ## Exactly once -/

/-- Under faults and retries every replica applies an operation once at most, none that was not
begun, and no more than one tuple is taken out under a number. A put that succeeds has been applied
by every replica; a take that succeeds has taken the tuple that it returns out of every replica, in
one copy, and nothing else. -/
theorem applied_once (lineup : origin.Lineup first table) (history : History origin record last)
    (unwrapped : first + (issued record).length < UInt64.size) :
    (∀ place, ((turnsAt place record).map (·.1)).Nodup ∧
        (∀ turn ∈ turnsAt place record, (turn.1, turn.2.1) ∈ issued record) ∧
        ∀ number, (removedAt place number record).length ≤ 1) ∧
      (∀ job session tuple operation,
        .begins job session (.put tuple) (some operation) ∈ record →
          ∃ number, operation = .query (.sequencedPut number tuple) ∧
            ∀ outcome, last.jobs[job]? = some (.finished (.ok outcome)) →
              ∀ row ∈ table, (number, .put tuple, .ok .stored) ∈ turnsAt row.2 record) ∧
      ∀ job session pattern operation,
        .begins job session (.take pattern) (some operation) ∈ record →
          ∃ number, operation = .query (.sequencedTake number pattern) ∧
            ∀ outcome, last.jobs[job]? = some (.finished (.ok outcome)) →
              ∃ tuple, outcome = .tuple tuple ∧
                ∀ row ∈ table, removedAt row.2 number record = [tuple] := by
  have distinct : ((issued record).map (·.1)).Nodup := by
    rw [(issued_one_by_one lineup.sequencer history unwrapped).1]
    exact List.nodup_range'
  -- Every number is drawn once, so that it stands for one operation.
  let op : Nat → SequencedOp := fun number => ((issued record).lookup number).getD (.put "")
  have agrees : ∀ entry ∈ issued record, op entry.1 = entry.2 := by
    intro entry member
    simp only [op, lookup_of_mem distinct (show (entry.1, entry.2) ∈ issued record from member),
      Option.getD_some]
  have orderly := orderly_of_history lineup history agrees
  refine ⟨fun place => ⟨orderly.turns_distinct place, orderly.turns_issued agrees, ?_⟩, ?_, ?_⟩
  · intro number
    rw [(orderly.attested place).removed]
    exact Ledger.obtained_length _ number
  · intro job session tuple operation begun
    obtain ⟨query, state, rfl, means, order, there, serves⟩ := orderly.begun _ _ _ _ begun
    obtain ⟨number, rfl⟩ := means.1 tuple rfl
    refine ⟨number, rfl, fun outcome ended row member => ?_⟩
    rw [there, Option.some.injEq] at ended
    subst ended
    have turn := orderly.turn_of_result (serves.fulfilled row member)
    rwa [show op number = .put tuple from agrees _ order] at turn
  · intro job session pattern operation begun
    obtain ⟨query, state, rfl, means, _, there, serves⟩ := orderly.begun _ _ _ _ begun
    obtain ⟨number, rfl⟩ := means.2 pattern rfl
    refine ⟨number, rfl, fun outcome ended => ?_⟩
    rw [there, Option.some.injEq] at ended
    subst ended
    obtain ⟨tuple, same, settled⟩ := serves.fulfilled
    refine ⟨tuple, same, fun row member => ?_⟩
    have attested := orderly.attested row.2
    rw [attested.removed]
    exact (Service.sound_run attested.run).follows.obtained_of_settled (settled row member)

/-- Two empty replicas, and two sessions that retry once. A first take does not reach the second
replica, and a first put loses the reply of the first one. -/
def interrupted : Network :=
  { registry := ⟨[("TupleSpaces", [⟨"A", "local:1"⟩, ⟨"B", "local:2"⟩])]⟩
    cluster :=
      { nodes :=
          [{ qualifier := "A", service := .start 1 }, { qualifier := "B", service := .start 1 }]
        listeners := [("local:2", 1), ("local:1", 0)] }
    sessions :=
      [⟨⟨1⟩, { takeMode := .sequenced, callRetries := 1 }, true, none⟩,
        ⟨⟨2⟩, { takeMode := .sequenced, callRetries := 1 }, true, none⟩]
    faults := [⟨"B", "sequenced take", .drop⟩, ⟨"A", "sequenced put", .loseReply⟩] }

/-- The take is queued at the first replica, where the put hands its tuple on. At the second one the
put arrives first and waits for the take. Both are retried, and neither is done twice. -/
theorem applied_once_of_interrupted :
    ∃ record last, History interrupted record last ∧
      issued record = [(1, .take "<.>"), (2, .put "<a>")] ∧
      last.jobs = [.finished (.ok (.tuple "<a>")), .finished (.ok .done)] ∧
      (2, .put "<a>", .ok .stored) ∈ turnsAt 0 record ∧
      (2, .put "<a>", .ok .stored) ∈ turnsAt 1 record ∧
      removedAt 0 1 record = ["<a>"] ∧ removedAt 1 1 record = ["<a>"] := by
  have done : (interrupted.retrace?
      [.begin 1 (.take "<.>"), .event (.advance 0), .event (.send 0), .event (.work 0 0),
        .event (.work 0 0), .event (.send 1), .begin 0 (.put "<a>"), .event (.advance 1),
        .event (.send 1), .event (.work 0 1), .event (.receive 1), .event (.work 0 0),
        .event (.work 0 0), .event (.receive 0), .event (.advance 0), .event (.advance 0),
        .event (.advance 0), .event (.send 0), .event (.work 1 0), .event (.send 1),
        .event (.work 0 2), .event (.receive 1), .event (.send 1), .event (.work 1 1),
        .event (.work 1 0), .event (.receive 0), .event (.work 1 1), .event (.work 1 1),
        .event (.receive 0), .event (.advance 0), .event (.advance 0), .event (.advance 0),
        .event (.advance 1), .event (.advance 1), .event (.advance 1), .event (.send 0),
        .event (.work 0 3), .event (.receive 0), .event (.send 0), .event (.work 1 2),
        .event (.receive 0), .event (.advance 1), .event (.advance 1), .event (.advance 1)]).map
          (fun last => (last.2.jobs, issued last.1, last.1.filter (·.place?.isNone))) =
          some ([.finished (.ok (.tuple "<a>")), .finished (.ok .done)],
            [(1, .take "<.>"), (2, .put "<a>")],
            [.begins 0 1 (.take "<.>") (some (.query (.sequencedTake 1 "<.>"))),
              .posts 0 0 [(0, .sequencedTake "<.>" 1), (1, .sequencedTake "<.>" 1)],
              .begins 1 0 (.put "<a>") (some (.query (.sequencedPut 2 "<a>"))),
              .posts 1 1 [(0, .sequencedPut "<a>" 2), (1, .sequencedPut "<a>" 2)],
              .posts 0 2 [(0, .sequencedTake "<.>" 1), (1, .sequencedTake "<.>" 1)],
              .posts 1 3 [(0, .sequencedPut "<a>" 2), (1, .sequencedPut "<a>" 2)]]) := by
    decide +kernel
  obtain ⟨⟨record, last⟩, retraced, outcome⟩ := Option.map_eq_some_iff.mp done
  obtain ⟨jobs, rest⟩ := Prod.mk.inj outcome
  obtain ⟨numbers, nowhere⟩ := Prod.mk.inj rest
  dsimp only at jobs numbers nowhere
  have history : History interrupted record last := history_of_retrace .start retraced
  have begun : ∀ job session command operation?,
      .begins job session command operation? ∈ record.filter (·.place?.isNone) →
        .begins job session command operation? ∈ record :=
    fun _ _ _ _ member => (List.mem_filter.mp member).1
  rw [nowhere] at begun
  have looked : interrupted.lookUp { takeMode := .sequenced, callRetries := 1 } =
      .ok ⟨[⟨⟨"A", "local:1"⟩, 0, 0⟩, ⟨⟨"B", "local:2"⟩, 1, 0⟩]⟩ := by
    decide +kernel
  have fixed : ∀ client, interrupted.IsFixed
      ⟨client, { takeMode := .sequenced, callRetries := 1 }, true, none⟩ [("A", 0), ("B", 1)] := by
    refine fun client => ⟨by simp, by simp, by simp, fun set found => ?_⟩
    rw [looked] at found
    cases found
    rfl
  have lineup : interrupted.Lineup 1 [("A", 0), ("B", 1)] := by
    refine ⟨by simp [interrupted], rfl, rfl, rfl, by simp, by simp [interrupted], ?_,
      by simp [interrupted]⟩
    intro session member
    rcases List.mem_pair.mp member with rfl | rfl
    · exact fixed ⟨1⟩
    · exact fixed ⟨2⟩
  obtain ⟨_, puts, takes⟩ := applied_once lineup history (by rw [numbers]; decide)
  obtain ⟨_, same, applied⟩ :=
    puts 1 0 "<a>" (.query (.sequencedPut 2 "<a>")) (begun _ _ _ _ (by simp))
  cases same
  obtain ⟨_, same, taken⟩ :=
    takes 0 1 "<.>" (.query (.sequencedTake 1 "<.>")) (begun _ _ _ _ (by simp))
  cases same
  obtain ⟨_, same, removed⟩ := taken (.tuple "<a>") (by rw [jobs]; rfl)
  cases same
  have stored := applied .done (by rw [jobs]; rfl)
  exact ⟨record, last, history, numbers, jobs, stored ("A", 0) (by simp),
    stored ("B", 1) (by simp), removed ("A", 0) (by simp), removed ("B", 1) (by simp)⟩

end Network

end TupleSpace
