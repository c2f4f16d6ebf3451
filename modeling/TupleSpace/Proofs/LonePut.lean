import TupleSpace.Proofs.NumbersDrawn
import TupleSpace.Proofs.OtherJobs
import TupleSpace.Proofs.PutRequests

/-!
# A put on its own

A put by quorum in a network in which nothing else goes on, under faults that drop requests or
lose replies. An attempt that fails may have been carried out at some replicas, and the next one
asks all of them again. So a put that succeeds has put its tuple once at every replica, and before
that once for each request of its failed attempts that was carried out there.

Calls may wait at the replicas, as long as the tuple does not serve them.
-/

namespace TupleSpace

namespace Deposit

variable {deposit : Deposit} {log : List (Nat × Task)} {cluster : Cluster} {parcels : List Parcel}
  {parcel : Parcel}

/-! ## The job -/

/-- How far the put has come. Before an attempt of a clean put, nothing was put. -/
inductive Stage (deposit : Deposit) (log : List (Nat × Task)) (cluster : Cluster)
    (parcels : List Parcel) : Job → Prop
  | begins {errand : Errand} (own : deposit.Own errand) (idle : errand.attempt? = none)
      (quiet : parcels = []) (fresh : deposit.Clean → ∀ place, deposit.puts log place = 0) :
      Stage deposit log cluster parcels (.running errand)
  | gathers {errand : Errand} {set : ReplicaSet} {client : ClientId} {exchange : Exchange}
      {base : Nat → Nat} (own : deposit.Own errand)
      (attempt : errand.attempt? = some ⟨set, client, .asking (.put deposit.tuple) exchange⟩)
      (numbers : ∀ parcel ∈ parcels, parcel.exchange = errand.exchange)
      (gathers : deposit.Gathers log cluster parcels base exchange) :
      Stage deposit log cluster parcels (.running errand)
  | failed {cause : ClientError} (quiet : parcels = []) :
      Stage deposit log cluster parcels (.finished (.error cause))
  | stored (quiet : parcels = []) (valid : checkTuple deposit.tuple = .ok ())
      (served : ∀ row ∈ deposit.table, ∃ earlier, deposit.puts log row.2 = earlier + 1 ∧
        deposit.first.cluster.Reaches row.2 ∧ (deposit.Clean → earlier = 0)) :
      Stage deposit log cluster parcels (.finished (.ok .done))

structure Alone (deposit : Deposit) (log : List (Nat × Task)) (network : Network) : Prop where
  descends : deposit.first.Descends network
  others : ∀ index errand, network.jobs[index]? = some (.running errand) → index = deposit.job
  stocks : deposit.Stocks log network.cluster network.parcels
  stage : ∃ job, network.jobs[deposit.job]? = some job ∧
    deposit.Stage log network.cluster network.parcels job

variable {network after : Network} {job : Job} {index : Nat}

theorem Stage.gathering (stage : deposit.Stage log cluster parcels job)
    (inside : parcel ∈ parcels) :
    ∃ errand set client exchange base, job = .running errand ∧ deposit.Own errand ∧
      errand.attempt? = some ⟨set, client, .asking (.put deposit.tuple) exchange⟩ ∧
      (∀ parcel ∈ parcels, parcel.exchange = errand.exchange) ∧
      deposit.Gathers log cluster parcels base exchange := by
  cases stage with
  | begins _ _ quiet => simp [quiet] at inside
  | gathers own attempt numbers gathers =>
      exact ⟨_, _, _, _, _, rfl, own, attempt, numbers, gathers⟩
  | failed quiet => simp [quiet] at inside
  | stored quiet => simp [quiet] at inside

theorem Alone.asked (alone : deposit.Alone log network) (inside : parcel ∈ network.parcels) :
    parcel.request = .put deposit.tuple ∧
      (parcel.handle.qualifier, parcel.handle.node) ∈ deposit.table := by
  obtain ⟨_, _, stage⟩ := alone.stage
  obtain ⟨_, _, _, _, _, _, _, _, _, gathers⟩ := stage.gathering inside
  obtain ⟨request, row, _⟩ := gathers.dispatch.posted parcel inside
  exact ⟨request.trans gathers.request, row⟩

theorem Alone.record (alone : deposit.Alone log network) {answer : Except TransportError Reply}
    {sent : List (String × Request)} {faults : List Fault}
    (found : network.parcels[index]? = some parcel)
    (descends : deposit.first.Descends
      ({ network with sent, faults }.record index parcel answer))
    (ended : ∀ call, parcel.state.call? = some call → ∀ task,
      network.cluster.call? parcel.handle.node call ≠ some (.running task))
    (told : ∀ reply, answer = .ok reply → reply = .ok .put ∧
      ∀ {base exchange}, deposit.Gathers log network.cluster network.parcels base exchange →
        deposit.Served log base parcel.handle.node)
    (safe : deposit.Safe → ∃ reply, answer = .ok reply) :
    deposit.Alone log ({ network with sent, faults }.record index parcel answer) := by
  have inside := List.mem_of_getElem? found
  obtain ⟨job, mine, stage⟩ := alone.stage
  obtain ⟨errand, set, client, exchange, base, rfl, own, attempt, numbers, gathers⟩ :=
    stage.gathering inside
  refine ⟨descends, fun other later running => ?_, alone.stocks.recorded found ended,
    .running { errand with
      attempt? := some ⟨set, client, .asking (.put deposit.tuple)
        (exchange.record parcel.handle.qualifier answer)⟩ }, ?_, ?_⟩
  · change (network.jobs.map _)[other]? = _ at running
    rw [List.getElem?_map] at running
    obtain ⟨before, there, recorded⟩ := Option.map_eq_some_iff.mp running
    obtain ⟨earlier, rfl, _⟩ := Job.running_of_record recorded
    exact alone.others other earlier there
  · change (network.jobs.map _)[deposit.job]? = _
    rw [List.getElem?_map, mine]
    simp [Job.record, Errand.record, numbers parcel inside, attempt, Attempt.record]
  · refine .gathers ⟨own.session, own.operation⟩ rfl
      (fun other member => numbers other (List.mem_of_mem_eraseIdx member))
      ((gathers.perm (apart_perm found)).answered (fun reply ok => ?_) safe)
    exact ⟨(told reply ok).1, (told reply ok).2 gathers⟩

theorem Alone.failed (alone : deposit.Alone log network) {cause : TransportError}
    {sent : List (String × Request)} {faults : List Fault}
    (found : network.parcels[index]? = some parcel) (unsent : parcel.state = .unsent)
    (descends : deposit.first.Descends
      ({ network with sent, faults }.record index parcel (.error cause)))
    (why : network.Threatens .drop parcel.request.procedure ∨
      ¬network.cluster.Reaches parcel.handle.node) :
    deposit.Alone log ({ network with sent, faults }.record index parcel (.error cause)) := by
  refine alone.record found descends (fun call made => ?_) (fun reply ok => by cases ok) ?_
  · simp [unsent, ParcelState.call?] at made
  · rintro ⟨unthreatened, reached⟩
    obtain ⟨request, row⟩ := alone.asked (List.mem_of_getElem? found)
    rcases why with ⟨fault, member, _, procedure⟩ | away
    · rw [request] at procedure
      exact absurd procedure (unthreatened fault (alone.descends.faults member))
    · exact absurd ((alone.stocks.reaches _).mpr (reached _ row)) away

theorem Alone.received (alone : deposit.Alone log network) {answer : Except TransportError Reply}
    (found : network.parcels[index]? = some parcel)
    (answered : network.answer? parcel = some answer)
    (descends : deposit.first.Descends (network.record index parcel answer)) :
    deposit.Alone log (network.record index parcel answer) := by
  have inside := List.mem_of_getElem? found
  obtain ⟨request, _⟩ := alone.asked inside
  unfold Network.answer? at answered
  cases state : parcel.state with
  | unsent =>
      rw [state] at answered
      cases answered
  | delivered call isReplyLost =>
      rw [state] at answered
      obtain ⟨node, target, rest⟩ := Option.bind_eq_some_iff.mp answered
      obtain ⟨result, finished, same⟩ := Option.bind_eq_some_iff.mp rest
      have made : parcel.state.call? = some call := by rw [state]; rfl
      have ended : network.cluster.call? parcel.handle.node call = some (.finished result) := by
        obtain ⟨before, entry, done⟩ := Option.bind_eq_some_iff.mp finished
        rw [Cluster.call_at target, entry]
        cases before with
        | finished other =>
            cases done
            rfl
        | running task => cases done
        | parked task signal => cases done
      have settled : ∀ {base exchange},
          deposit.Gathers log network.cluster network.parcels base exchange →
            result = .ok .done ∧ deposit.Served log base parcel.handle.node := by
        intro base exchange gathers
        exact (gathers.dispatch.posted parcel inside).2.2.of_finished made ended
      obtain ⟨_, _, stage⟩ := alone.stage
      obtain ⟨_, _, _, _, _, _, _, _, _, gathers⟩ := stage.gathering inside
      have done := (settled gathers).1
      change deposit.Alone log (Network.record
        { network with sent := network.sent, faults := network.faults } index parcel answer)
      refine alone.record found descends (fun other again task running => ?_) ?_ ?_
      · rw [made] at again
        cases again
        rw [ended] at running
        cases running
      · intro reply ok
        split at same
        · cases same
          cases ok
        · cases same
          cases ok
          rw [done, request]
          exact ⟨rfl, fun gathers => (settled gathers).2⟩
      · intro spares
        have heard := (gathers.kept spares).2 parcel inside call
        cases isReplyLost with
        | true => exact absurd state heard
        | false =>
            cases same
            exact ⟨_, rfl⟩

theorem Alone.delivered (alone : deposit.Alone log network) {node : Node} {isReplyLost : Bool}
    {sent : List (String × Request)} {faults : List Fault}
    (found : network.parcels[index]? = some parcel) (unsent : parcel.state = .unsent)
    (target : network.cluster.nodes[parcel.handle.node]? = some node) (up : node.outage? = none)
    (why : isReplyLost = true → network.Threatens .loseReply parcel.request.procedure)
    (descends : deposit.first.Descends
      { network with
        sent
        faults
        cluster := network.cluster.setNode parcel.handle.node
          { node with service := node.service.call parcel.request.task }
        parcels := network.parcels.set index
          { parcel with state := .delivered node.service.calls.length isReplyLost } }) :
    deposit.Alone log
      { network with
        sent
        faults
        cluster := network.cluster.setNode parcel.handle.node
          { node with service := node.service.call parcel.request.task }
        parcels := network.parcels.set index
          { parcel with state := .delivered node.service.calls.length isReplyLost } } := by
  have inside := List.mem_of_getElem? found
  obtain ⟨request, _⟩ := alone.asked inside
  obtain ⟨job, mine, stage⟩ := alone.stage
  obtain ⟨errand, set, client, exchange, base, rfl, own, attempt, numbers, gathers⟩ :=
    stage.gathering inside
  have reached := (alone.stocks.reaches parcel.handle.node).mp ⟨node, target, up⟩
  refine ⟨descends, alone.others,
    alone.stocks.delivered found unsent (by rw [request]; rfl) target isReplyLost, _, mine,
    .gathers own attempt ?_ (((gathers.perm (apart_perm found)).delivered unsent target reached
      ?_).perm (moved_perm found _).symm)⟩
  · intro other member
    rcases (mem_moved found).mp member with rfl | old
    · exact numbers parcel inside
    · exact numbers other (List.mem_of_mem_eraseIdx old)
  · rintro ⟨unthreatened, _⟩
    cases isReplyLost with
    | false => rfl
    | true =>
        obtain ⟨fault, member, _, procedure⟩ := why rfl
        rw [request] at procedure
        exact absurd procedure (unthreatened fault (alone.descends.faults member))

theorem Alone.worked (alone : deposit.Alone log network) (fair : deposit.Fair) {place call : Nat}
    {node : Node} {task : Task} {service : Service}
    (target : network.cluster.nodes[place]? = some node)
    (running : node.service.calls[call]? = some (.running task))
    (stepped : node.service.step? call = some service)
    (descends : deposit.first.Descends
      { network with cluster := network.cluster.setNode place { node with service } }) :
    deposit.Alone (log ++ [(place, task)])
      { network with cluster := network.cluster.setNode place { node with service } } := by
  obtain ⟨job, mine, stage⟩ := alone.stage
  obtain stands | ⟨own, parcel, inside, placed⟩ := alone.stocks.calls target running
  · have stocks := alone.stocks.stood_by target running stepped stands
    have same : ∀ other, deposit.puts (log ++ [(place, task)]) other = deposit.puts log other := by
      refine fun other => deposit.puts_unchanged ?_ log place other
      rintro rfl
      exact stands
    refine ⟨descends, alone.others, stocks, job, mine, ?_⟩
    cases stage with
    | begins own idle quiet fresh =>
        exact .begins own idle quiet fun clean other => (same other).trans (fresh clean other)
    | gathers own attempt numbers gathers =>
        refine .gathers own attempt numbers (gathers.spared ?_ same)
        refine Cluster.spares_worked _ target running stepped fun parcel inside placed => ?_
        obtain ⟨rfl, made⟩ := placed
        obtain ⟨request, _, bides⟩ := gathers.dispatch.posted parcel inside
        have asked := (bides.of_running made ((Cluster.call_at target).trans running)).1
        rw [request, gathers.request] at asked
        cases asked
        exact stands
    | failed quiet => exact .failed quiet
    | stored quiet valid served =>
        refine .stored quiet valid fun row member => ?_
        rw [same]
        exact served row member
  · cases own
    obtain ⟨errand, set, client, exchange, base, rfl, own, attempt, numbers, gathers⟩ :=
      stage.gathering inside
    obtain ⟨rfl, made⟩ := placed
    obtain ⟨position, found⟩ := List.mem_iff_getElem?.mp inside
    have order := apart_perm found
    refine ⟨descends, alone.others,
      alone.stocks.worked gathers.valid (alone.asked inside).2 target running stepped, _, mine,
      .gathers own attempt numbers (((gathers.perm order).worked fair ⟨rfl, made⟩ target running
        stepped).perm order.symm)⟩

/-! ## Steps of the job -/

variable {errand : Errand} {own : Job} {posted? : Option (List Parcel)}

theorem Alone.goes (alone : deposit.Alone log network) (descends : deposit.first.Descends after)
    (changes : network.Changes after deposit.job own posted?)
    (stage : deposit.Stage log network.cluster (network.parcels ++ posted?.getD []) own) :
    deposit.Alone log after := by
  obtain ⟨job, mine, _⟩ := alone.stage
  refine ⟨descends, fun other later running => ?_, ?_, own, ?_, ?_⟩
  · rw [changes.job_at] at running
    split at running
    · rename_i same
      exact same.symm
    · exact alone.others other later running
  · rw [changes.cluster, changes.parcels]
    refine { alone.stocks with calls := fun {place call node state} target made => ?_ }
    refine (alone.stocks.calls target made).imp id fun ⟨same, parcel, inside, placed⟩ => ?_
    exact ⟨same, parcel, List.mem_append_left _ inside, placed⟩
  · rw [changes.job_at, if_pos rfl, mine]
    rfl
  · rw [changes.cluster, changes.parcels]
    exact stage

theorem Stage.fails {cause : ClientError} (ends : Network.Ends errand (.error cause) own)
    (mine : deposit.Own errand) (fresh : (∃ later, own = .running later) → deposit.Clean →
      ∀ place, deposit.puts log place = 0) : deposit.Stage log cluster [] own := by
  cases ends with
  | finished => exact .failed rfl
  | retried retries transport =>
      exact .begins ⟨mine.session, mine.operation⟩ rfl rfl (fresh ⟨_, rfl⟩)

/-- The first step of an attempt sends the tuple to every replica, or fails. -/
theorem Stage.starts {set : ReplicaSet} {client : ClientId} {policy : TakePolicy}
    (fair : deposit.Fair) (mine : deposit.Own errand) (table : set.table = deposit.table)
    (fresh : deposit.Clean → ∀ place, deposit.puts log place = 0)
    (installs : Network.Installs network errand set client
      (Attempt.start set client policy (.query (.put deposit.tuple))) own posted?) :
    deposit.Stage log cluster (posted?.getD []) own := by
  rw [Attempt.start] at installs
  rcases Network.put_asked set deposit.tuple with
    ⟨cause, failed⟩ | ⟨valid, exchange, handles, asked, sent⟩
  · rw [failed] at installs
    cases installs with
    | ended ends => exact .fails ends mine fun _ => fresh
  · rw [sent] at installs
    cases installs with
    | posted =>
        obtain ⟨request, expected⟩ := ReplicaSet.ask_poses asked
        have unfailed := (Query.put deposit.tuple).ask_starts set
        rw [asked] at unfailed
        have distinct : set.qualifiers.Nodup := by
          rw [set.qualifiers_eq, table]
          exact fair.names
        have dispatch : Dispatch set.table (deposit.Fares log cluster (deposit.puts log))
            (fun place _ => deposit.Served log (deposit.puts log) place) _ set.qualifiers
            exchange :=
          .just_posted network.exchanges network.clock asked distinct
            (Or.inr (by rw [ReplicaSet.qualifiers, List.length_map, ReplicaSet.size]))
            fun handle _ => .unsent rfl rfl
        rw [set.qualifiers_eq, table] at dispatch
        have posted : ∀ parcel ∈ handles.map fun handle =>
            ({ exchange := network.exchanges, handle, request := exchange.request,
               due := network.clock + handle.delay } : Parcel),
            parcel.exchange = network.exchanges ∧ parcel.state = .unsent := by
          intro parcel member
          obtain ⟨handle, _, rfl⟩ := List.mem_map.mp member
          exact ⟨rfl, rfl⟩
        refine .gathers ⟨mine.session, mine.operation⟩ rfl
          (fun parcel member => (posted parcel member).1)
          ⟨valid, request, expected, dispatch, fun parcel member sent => ?_, fun _ => ⟨?_, ?_⟩,
            fresh⟩
        · exact absurd (posted parcel member).2 sent
        · cases unfailed with
          | asked none => exact none
        · intro parcel member call
          rw [(posted parcel member).2]
          simp

theorem Alone.began (alone : deposit.Alone log network) (fair : deposit.Fair)
    (found : network.jobs[index]? = some (.running errand)) (idle : errand.attempt? = none)
    (descends : deposit.first.Descends (network.beginAttempt index errand)) :
    deposit.Alone log (network.beginAttempt index errand) := by
  cases alone.others index errand found
  obtain ⟨job, mine, stage⟩ := alone.stage
  rw [found] at mine
  cases mine
  cases stage with
  | gathers _ attempt =>
      rw [idle] at attempt
      cases attempt
  | begins own _ quiet fresh =>
      obtain ⟨cause, job, _, ends, changes⟩ |
        ⟨session, set, job, posted?, there, finds, installs, changes⟩ :=
        network.begin_attempt_cases deposit.job errand
      · refine alone.goes descends changes ?_
        rw [quiet]
        exact .fails ends own fun _ => fresh
      · refine alone.goes descends changes ?_
        obtain ⟨later, known, continues⟩ :=
          alone.descends.upholds.sessions _ _ fair.there
        rw [own.session, known] at there
        cases there
        rw [own.operation] at installs
        rw [quiet]
        exact .starts fair own (finds _ (continues.finds _ fair.finds)) fresh installs

theorem retries_of_running {cause : ClientError} {later : Errand}
    (found : network.jobs[index]? = some job)
    (running : (network.conclude index errand (.error cause)).jobs[index]? =
      some (.running later)) :
    (network.sessions[errand.session]?).elim 0 (·.config.callRetries) ≠ 0 := by
  have ended : (network.setJob index (.finished (.error cause))).jobs[index]? ≠
      some (.running later) := by
    rw [Network.job_set found, if_pos rfl]
    simp
  unfold Network.conclude at running
  dsimp only at running
  split at running
  · split at running
    · rename_i fewer
      exact Nat.ne_of_gt (Nat.lt_of_le_of_lt (Nat.zero_le _) fewer)
    · rw [(Network.forget_alters _ _).jobs] at running
      exact absurd running ended
  · exact absurd running ended

theorem Alone.advanced (alone : deposit.Alone log network) (fair : deposit.Fair)
    {attempt : Attempt} {step : AttemptStep}
    (found : network.jobs[index]? = some (.running errand))
    (under : errand.attempt? = some attempt) (stepped : attempt.advance? = some step)
    (descends : deposit.first.Descends
      (network.install index errand attempt.replicas attempt.client step)) :
    deposit.Alone log (network.install index errand attempt.replicas attempt.client step) := by
  cases alone.others index errand found
  obtain ⟨job, mine, stage⟩ := alone.stage
  rw [found] at mine
  cases mine
  cases stage with
  | begins _ idle =>
      rw [idle] at under
      cases under
  | gathers own asking numbers gathers =>
      rw [asking] at under
      cases under
      obtain ⟨later, posted?, installs, changes⟩ := network.install_changes deposit.job errand
        _ _ step
      obtain ⟨progress, looked, rfl⟩ := Option.map_eq_some_iff.mp stepped
      obtain ⟨quiet, ⟨next, rfl, looking⟩ | ⟨cause, rfl, exposed⟩ | ⟨replies, rfl, served⟩⟩ :=
        gathers.looks fair looked
      · refine alone.goes descends changes ?_
        cases installs with
        | wentOn =>
            rw [Option.getD_none, List.append_nil]
            exact .gathers ⟨own.session, own.operation⟩ rfl numbers looking
      · refine alone.goes descends changes ?_
        cases installs with
        | ended ends =>
            rw [quiet]
            refine .fails ends own fun ⟨next, running⟩ clean => ?_
            refine absurd (clean.resolve_right exposed) fun none => ?_
            obtain ⟨session, known, continues⟩ :=
              alone.descends.upholds.sessions _ _ fair.there
            have again : (network.conclude deposit.job errand (.error cause)).jobs[deposit.job]? =
                some (.running next) := by
              have job := changes.job_at deposit.job
              rw [if_pos rfl, found, running] at job
              exact job
            have retries := retries_of_running found again
            rw [own.session, known, Option.elim_some, continues.config] at retries
            exact retries none
      · refine alone.goes descends changes ?_
        cases installs with
        | ended ends =>
            cases ends with
            | finished =>
                rw [quiet]
                refine .stored rfl gathers.valid fun row member => ?_
                obtain ⟨count, reached⟩ := served row member
                exact ⟨_, count, reached, fun clean => gathers.fresh clean row.2⟩

/-! ## Runs -/

theorem Alone.event (alone : deposit.Alone log network) (fair : deposit.Fair)
    {event : NetworkEvent} (performed : network.perform? event = some after) :
    deposit.Alone (log ++ network.carried event) after := by
  have descends := alone.descends.happens (Network.happens_of_event performed)
  cases Network.moves_of_perform performed with
  | failed found unsent left why =>
      rw [Network.carried, List.append_nil]
      exact alone.failed found unsent descends why
  | forged found unsent left why =>
      obtain ⟨fault, member, effect, _⟩ := why
      rcases fair.honest fault (alone.descends.faults member) with drop | lose
      · rw [drop] at effect
        cases effect
      · rw [lose] at effect
        cases effect
  | delivered found unsent left target up why =>
      rw [Network.carried, List.append_nil]
      exact alone.delivered found unsent target up why descends
  | @worked place call node service target stepped =>
      have running := stepped
      unfold Service.step? at running
      split at running
      · rename_i task entry
        have carried : network.carried (.work place call) = [(place, task)] := by
          simp [Network.carried, target, entry]
        rw [carried]
        exact alone.worked fair target entry stepped descends
      · cases running
  | received found answered =>
      rw [Network.carried, List.append_nil]
      exact alone.received found answered descends
  | began found idle =>
      rw [Network.carried, List.append_nil]
      exact alone.began fair found idle descends
  | advanced found under stepped =>
      rw [Network.carried, List.append_nil]
      exact alone.advanced fair found under stepped descends
  | @woke index wake found =>
      rw [Network.carried, List.append_nil]
      obtain ⟨job, mine, stage⟩ := alone.stage
      have apart : index ≠ deposit.job := by
        rintro rfl
        rw [found] at mine
        cases mine
        cases stage
      refine ⟨descends, fun other errand running => ?_, alone.stocks, job, ?_, stage⟩
      · rw [Network.job_set found] at running
        split at running
        · cases running
        · exact alone.others other errand running
      · rw [Network.job_set found, if_neg apart]
        exact mine
  | passed =>
      rw [Network.carried, List.append_nil]
      exact ⟨descends, alone.others, alone.stocks, alone.stage⟩

theorem alone_run (fair : deposit.Fair) {start : Network} (begun : deposit.Alone [] start)
    (run : Network.Run start log network) : deposit.Alone log network := by
  induction run with
  | start => exact begun
  | event _ performed alone => exact alone.event fair performed

end Deposit

namespace Network

structure IsIdle (network : Network) (tuple : String) : Prop where
  parcels : network.parcels = []
  jobs : ∀ job ∈ network.jobs, ∀ errand, job ≠ .running errand
  calls : ∀ node ∈ network.cluster.nodes, ∀ state ∈ node.service.calls,
    state.StandsBy node.service.replica.store tuple

variable {network : Network} {index : Nat} {session : Session} {tuple : String}
  {table : List (String × Nat)}

theorem alone_begin (there : network.sessions[index]? = some session)
    (quorum : session.config.takeMode = .quorum) (idle : network.IsIdle tuple) :
    Deposit.Alone ⟨network, session, index, network.jobs.length, tuple, table⟩ []
      (network.begin index (.put tuple)) := by
  obtain ⟨job, sequencer, begins, adds⟩ := network.begin_adds index (.put tuple)
  have numbered : (network.begin index (.put tuple)).Numbered := by
    intro parcel member
    rw [adds.parcels, idle.parcels] at member
    cases member
  refine ⟨⟨adds.upholds, by rw [adds.faults]; exact List.Subset.refl _, numbered⟩, ?_, ?_, job, ?_,
    ?_⟩
  · intro other errand running
    rcases adds.job_cases running with before | ⟨last, _⟩
    · exact absurd rfl (idle.jobs _ (List.mem_of_getElem? before) errand)
    · exact last
  · rw [adds.cluster]
    refine ⟨fun place => ?_, fun _ _ => rfl, fun _ => Iff.rfl, fun target made => Or.inl ?_⟩
    · exact Option.map_id'.symm
    · exact idle.calls _ (List.mem_of_getElem? target) _ (List.mem_of_getElem? made)
  · rw [adds.jobs]
    exact List.getElem?_concat_length
  · rw [adds.parcels, idle.parcels]
    cases begins with
    | @ended _ result delays =>
        cases result with
        | error cause => exact .failed rfl
        | ok outcome =>
            obtain ⟨_, _, same⟩ := delays outcome rfl
            cases same
    | puts => exact .begins ⟨rfl, rfl⟩ rfl rfl fun _ _ => rfl
    | putsInOrder known sequenced =>
        rw [there] at known
        cases known
        rw [quorum] at sequenced
        cases sequenced

/-- A put by quorum that succeeds on its own has put its tuple once at every replica, and before
that once for each request of its failed attempts that was carried out there; nothing else has
changed at any replica. So a replica holds one copy more and is otherwise unchanged exactly if no
such request reached it, and no queued take is served by the tuple. None does without retries, or
with no fault lying in wait for puts. -/
theorem lone_put_stores {last : Network} {log : List (Nat × Task)} {outcome : Outcome}
    (there : network.sessions[index]? = some session)
    (quorum : session.config.takeMode = .quorum) (idle : network.IsIdle tuple)
    (fixed : network.IsFixed session table)
    (lossy : ∀ fault ∈ network.faults, fault.effect = .drop ∨ fault.effect = .loseReply)
    (run : Run (network.begin index (.put tuple)) log last)
    (ended : last.jobs[network.jobs.length]? = some (.finished (.ok outcome))) :
    outcome = .done ∧
      (∀ place, place ∉ table.map (·.2) →
        last.cluster.replica? place = network.cluster.replica? place) ∧
      ∀ row ∈ table, ∃ before earlier, network.cluster.replica? row.2 = some before ∧
        log.count (row.2, .put tuple) = earlier + 1 ∧
        last.cluster.replica? row.2 = some (before.afterPuts tuple (earlier + 1)) ∧
        (last.cluster.replica? row.2 = some (before.withSpace (before.store.space.insert tuple)) ↔
          earlier = 0 ∧ ∀ take ∈ before.store.pending, take.pattern.hits tuple = false) ∧
        (session.config.callRetries = 0 ∨
            (∀ fault ∈ network.faults, fault.procedure ≠ "put") →
          earlier = 0) := by
  let deposit : Deposit := ⟨network, session, index, network.jobs.length, tuple, table⟩
  have fair : deposit.Fair := ⟨there, fixed.finds, fixed.names, fixed.places, lossy⟩
  have alone : deposit.Alone log last :=
    Deposit.alone_run fair (alone_begin there quorum idle) run
  obtain ⟨job, mine, stage⟩ := alone.stage
  rw [ended, Option.some.injEq] at mine
  subst job
  cases stage with
  | stored quiet valid served =>
      refine ⟨rfl, fun place out => ?_, fun row member => ?_⟩
      · have same := alone.stocks.replicas place
        rw [alone.stocks.elsewhere place out] at same
        exact same.trans Option.map_id'
      · obtain ⟨earlier, count, ⟨node, target, _⟩, clean⟩ := served row member
        have before : network.cluster.replica? row.2 = some node.service.replica :=
          Cluster.replica_at target
        have now := alone.stocks.replicas row.2
        rw [count] at now
        change _ = (network.cluster.replica? row.2).map _ at now
        rw [before, Option.map_some] at now
        refine ⟨_, earlier, before, count, now, ?_, fun safe => clean (safe.imp id ?_)⟩
        · rw [now, Option.some.injEq]
          exact Replica.after_puts_inserted valid _ earlier
        · exact fun unthreatened => ⟨unthreatened, fun row member =>
            (served row member).elim fun _ both => both.2.1⟩

def shelf (effect : FaultEffect) : Network :=
  { registry := ⟨[("TupleSpaces", [⟨"A", "local:1"⟩])]⟩
    cluster := { nodes := [{ qualifier := "A", service := {} }], listeners := [("local:1", 0)] }
    sessions := [{ client := ⟨1⟩, config := { callRetries := 1 } }]
    faults := [⟨"A", "put", effect⟩] }

/-- If the request never arrives, a second attempt stores the tuple. -/
theorem lone_put_stores_of_drop :
    ∃ log last, Run ((shelf .drop).begin 0 (.put "<a>")) log last ∧
      last.jobs[0]? = some (.finished (.ok .done)) ∧
      last.cluster.replica? 0 = some { store := { space := ⟨[⟨"<a>", none⟩]⟩ } } := by
  have done : (((shelf .drop).begin 0 (.put "<a>")).replay?
      [.advance 0, .send 0, .advance 0, .advance 0, .advance 0, .send 0, .work 0 0, .receive 0,
        .advance 0, .advance 0, .advance 0]).map
          (fun last => (last.2.jobs[0]?, last.1.count (0, .put "<a>"))) =
            some (some (.finished (.ok .done)), 1) := by
    decide +kernel
  obtain ⟨⟨log, last⟩, replayed, outcome⟩ := Option.map_eq_some_iff.mp done
  obtain ⟨ended, once⟩ := Prod.mk.inj outcome
  have run : Run ((shelf .drop).begin 0 (.put "<a>")) log last := run_of_replay .start replayed
  have idle : (shelf .drop).IsIdle "<a>" := by
    refine ⟨rfl, by simp [shelf], ?_⟩
    intro node member state inside
    simp only [shelf, List.mem_singleton] at member
    subst member
    cases inside
  have fixed : (shelf .drop).IsFixed { client := ⟨1⟩, config := { callRetries := 1 } }
      [("A", 0)] := by
    refine ⟨by simp, by simp, ?_, ?_⟩
    · intro set none
      cases none
    · intro set found
      cases found
      decide
  have there : (shelf .drop).sessions[0]? =
      some { client := ⟨1⟩, config := { callRetries := 1 } } := rfl
  obtain ⟨_, _, all⟩ := lone_put_stores there rfl idle fixed (by simp [shelf]) run ended
  obtain ⟨before, earlier, known, count, _, stored, _⟩ := all ("A", 0) (by simp)
  cases known
  dsimp only at once count
  have first : earlier = 0 := by omega
  exact ⟨log, last, run, ended, stored.mpr ⟨first, by simp⟩⟩

/-- If only its reply is lost, the second attempt stores another copy. -/
theorem retried_put_stores_twice :
    ∃ log last, Run ((shelf .loseReply).begin 0 (.put "<a>")) log last ∧
      last.jobs[0]? = some (.finished (.ok .done)) ∧
      (shelf .loseReply).cluster.replica? 0 = some {} ∧
      last.cluster.replica? 0 =
        some { store := { space := ⟨[⟨"<a>", none⟩, ⟨"<a>", none⟩]⟩ } } := by
  have done : (((shelf .loseReply).begin 0 (.put "<a>")).replay?
      [.advance 0, .send 0, .work 0 0, .receive 0, .advance 0, .advance 0, .advance 0, .send 0,
        .work 0 1, .receive 0, .advance 0, .advance 0, .advance 0]).map
          (fun last => (last.2.jobs[0]?, last.2.cluster.replica? 0)) =
            some (some (.finished (.ok .done)),
              some { store := { space := ⟨[⟨"<a>", none⟩, ⟨"<a>", none⟩]⟩ } }) := by
    decide +kernel
  obtain ⟨⟨log, last⟩, replayed, outcome⟩ := Option.map_eq_some_iff.mp done
  obtain ⟨ended, stored⟩ := Prod.mk.inj outcome
  exact ⟨log, last, run_of_replay .start replayed, ended, rfl, stored⟩

end Network

end TupleSpace
