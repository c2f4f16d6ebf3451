import TupleSpace.Proofs.TakePhases

/-!
# A take among others

A take by quorum in a network in which other clients go on with whatever they like, under faults
that drop requests or lose replies. A take that succeeds, or gives up after its last retry, leaves
nothing held; one that fails otherwise leaves nothing held where its last release has arrived.
-/

namespace TupleSpace

namespace Quest

variable {quest : Quest} {cluster : Cluster} {parcels : List Parcel}
  {exchanges index : Nat} {parcel : Parcel} {record deeds : List Deed}
  {answer : Except TransportError Reply} {job : Job}

/-- The replicas are fixed, and faults only drop requests or lose replies. -/
structure Poised (quest : Quest) : Prop where
  there : quest.first.sessions[quest.index]? = some quest.session
  fixed : quest.first.IsFixed quest.session quest.table
  lossy : ∀ fault ∈ quest.first.faults, fault.effect = .drop ∨ fault.effect = .loseReply

/-- No take that is begun meanwhile is by the client of this one. -/
def Rivals (quest : Quest) (record : List Deed) : Prop :=
  ∀ job other command pattern, .begins job other command (some (.take pattern)) ∈ record →
    ∀ rival, quest.first.sessions[other]? = some rival → rival.client ≠ quest.taker.client

structure Amid (quest : Quest) (record : List Deed) (network : Network) : Prop where
  others : ∀ index job, network.jobs[index]? = some job → index ≠ quest.job →
    job.Shuns quest.first quest.taker.client
  hits : ∀ pattern, Pattern.parse quest.pattern = .ok pattern → ∀ place,
    ∀ tuple ∈ network.cluster.holdings quest.taker.client place, pattern.hits tuple = true
  inside : ∀ place, place ∉ quest.table.map (·.2) →
    network.cluster.holdings quest.taker.client place = []
  accounted : Network.Accounted quest.taker.client network.cluster network.parcels
  phase : ∃ job, network.jobs[quest.job]? = some job ∧
    quest.Phase record network.cluster network.parcels network.exchanges job

variable {network last : Network}

theorem Phase.carries (phase : quest.Phase record cluster parcels exchanges job)
    (inside : parcel ∈ parcels)
    (concerns : parcel.request.client? = some quest.taker.client) :
    parcel.request.Belongs quest.taker.client quest.pattern ∧
      parcel.Fares quest.taker.client cluster ∧
      (parcel.handle.qualifier, parcel.handle.node) ∈ quest.table := by
  have under_way : ∀ {number targets exchange},
      quest.Underway cluster parcels exchanges number targets exchange →
        parcel.request.Belongs quest.taker.client quest.pattern ∧
          parcel.Fares quest.taker.client cluster ∧
          (parcel.handle.qualifier, parcel.handle.node) ∈ quest.table := by
    intro number targets exchange underway
    obtain ⟨request, row, fares, _⟩ :=
      underway.asked inside (underway.only parcel inside concerns)
    exact ⟨request ▸ underway.belongs, fares, row⟩
  cases phase with
  | begins _ _ quiet _ => exact absurd concerns (quiet parcel inside)
  | pauses _ _ _ _ _ quiet => exact absurd concerns (quiet parcel inside)
  | ended quiet _ => exact absurd concerns (quiet parcel inside)
  | takes _ _ _ _ underway => exact under_way underway
  | abandons _ _ _ _ underway _ => exact under_way underway

theorem spares_still (posts : ∀ exchange requests, .posts quest.job exchange requests ∉ deeds)
    (reaches : ∀ number place request, .reaches number place request ∉ deeds) :
    quest.Spares cluster cluster parcels parcels exchanges exchanges deeds :=
  ⟨.refl cluster _, fun _ _ => Iff.rfl, fun _ _ _ => List.Perm.refl _, Nat.le_refl _, posts,
    fun number place request member => absurd member (reaches number place request)⟩

theorem Amid.answered (amid : quest.Amid record network) {sent : List (String × Request)}
    {faults : List Fault} (found : network.parcels[index]? = some parcel)
    (told : parcel.request.client? = some quest.taker.client →
      parcel.Told quest.taker.client
        (network.cluster.holdings quest.taker.client parcel.handle.node) answer)
    (finished : ∀ call isReplyLost, parcel.state = .delivered call isReplyLost →
      ¬network.cluster.Concerns quest.taker.client parcel.handle.node call) :
    quest.Amid record ({ network with sent, faults }.record index parcel answer) := by
  obtain ⟨job, mine, phase⟩ := amid.phase
  constructor
  case others =>
    intro other job found apart
    obtain ⟨before, there, rfl⟩ :=
      Option.map_eq_some_iff.mp ((List.getElem?_map ..).symm.trans found)
    exact Job.shuns_record (amid.others other before there apart) _ _ _
  case hits => exact amid.hits
  case inside => exact amid.inside
  case accounted =>
    intro place call concerns
    obtain ⟨other, inside, whose, here, isReplyLost, state⟩ := amid.accounted place call concerns
    rcases mem_answered found inside with rfl | rest
    · exact absurd (here ▸ concerns) (finished call isReplyLost state)
    · exact ⟨other, rest, whose, here, isReplyLost, state⟩
  case phase =>
    refine ⟨_, ?_, phase.answered found told⟩
    simp [Network.record, mine]

theorem spares_delivered {next : Cluster} (found : parcels[index]? = some parcel)
    (foreign : parcel.request.client? ≠ some quest.taker.client)
    (keeps : cluster.Keeps next quest.taker.client) (state : ParcelState) :
    quest.Spares cluster next parcels (parcels.set index { parcel with state }) exchanges exchanges
      [.reaches parcel.exchange parcel.handle.node parcel.request] := by
  have inside := List.mem_of_getElem? found
  refine ⟨keeps, ?_, ?_, Nat.le_refl _, by simp, ?_⟩
  · intro other whose
    rw [mem_moved found]
    constructor
    · rintro (rfl | rest)
      · exact absurd whose foreign
      · exact List.mem_of_mem_eraseIdx rest
    · intro member
      rcases mem_answered found member with rfl | rest
      · exact absurd whose foreign
      · exact Or.inr rest
  · intro number _ own
    have apart : parcel.exchange ≠ number := fun same =>
      foreign (own parcel (mem_transit.mpr ⟨inside, same⟩))
    have before : (transit number parcels).Perm _ := transit_apart found
    have after : (transit number (parcels.set index { parcel with state })).Perm _ :=
      transit_set found _
    rw [transit_other apart] at before
    rw [transit_other (by exact apart)] at after
    exact before.trans after.symm
  · intro number place request member
    obtain ⟨same, _, _⟩ := Deed.reaches.inj (List.mem_singleton.mp member)
    exact ⟨parcel, inside, same.symm, foreign⟩

theorem Amid.delivered (amid : quest.Amid record network) {sent : List (String × Request)}
    {faults : List Fault} {node : Node} {isReplyLost : Bool}
    (found : network.parcels[index]? = some parcel) (unsent : parcel.state = .unsent)
    (target : network.cluster.nodes[parcel.handle.node]? = some node) :
    quest.Amid (record ++ [.reaches parcel.exchange parcel.handle.node parcel.request])
      { network with
        sent
        faults
        cluster := network.cluster.setNode parcel.handle.node
          { node with service := node.service.call parcel.request.task }
        parcels := network.parcels.set index
          { parcel with state := .delivered node.service.calls.length isReplyLost } } := by
  obtain ⟨job, mine, phase⟩ := amid.phase
  have keeps : network.cluster.Keeps _ quest.taker.client :=
    Cluster.keeps_called target parcel.request.task
  constructor
  case others => exact amid.others
  case hits =>
    intro pattern parsed place tuple
    dsimp only
    rw [keeps.holdings]
    exact amid.hits pattern parsed place tuple
  case inside =>
    intro place outside
    dsimp only
    rw [keeps.holdings]
    exact amid.inside place outside
  case accounted =>
    intro place call concerns
    rcases Cluster.concerns_called target concerns with before | ⟨rfl, rfl, task, made, whose⟩
    · obtain ⟨other, member, whose, here, lost, state⟩ := amid.accounted place call before
      rcases mem_answered found member with rfl | rest
      · rw [unsent] at state
        cases state
      · exact ⟨other, (mem_moved found).mpr (Or.inr rest), whose, here, lost, state⟩
    · rw [Request.client_of_task made] at whose
      exact ⟨_, (mem_moved found).mpr (Or.inl rfl), whose, rfl, isReplyLost, rfl⟩
  case phase =>
    refine ⟨job, mine, ?_⟩
    by_cases concerns : parcel.request.client? = some quest.taker.client
    · exact phase.delivered found unsent concerns target isReplyLost
    · exact phase.spared (spares_delivered found concerns keeps _)

theorem Amid.worked_own (amid : quest.Amid record network) (poised : quest.Poised)
    {place call : Nat} {node : Node} {task : Task} {service : Service}
    (target : network.cluster.nodes[place]? = some node)
    (running : node.service.calls[call]? = some (.running task))
    (stepped : node.service.step? call = some service)
    (concerns : task.client? = some quest.taker.client) :
    quest.Amid (record ++ [.works place node.service.replica task])
      { network with cluster := network.cluster.setNode place { node with service } } := by
  obtain ⟨job, mine, phase⟩ := amid.phase
  have called := (Cluster.call_at target).trans running
  -- The call was made for a request of the take, and this one step carries it out.
  obtain ⟨parcel, inside, whose, rfl, isReplyLost, state⟩ :=
    amid.accounted place call ⟨_, task, called, rfl, concerns⟩
  obtain ⟨belongs, fares, row⟩ := phase.carries inside whose
  have made : parcel.request.task = .ok task := by
    cases fares with
    | unsent unsent =>
        rw [unsent] at state
        cases state
    | running other made running =>
        rw [state] at other
        cases other
        rw [called] at running
        cases running
        exact made
    | finished other finished settles =>
        rw [state] at other
        cases other
        rw [called] at finished
        cases finished
  have held := Cluster.holdings_at target quest.taker.client
  obtain ⟨result, space, finishes, settles, hits⟩ := belongs.carried_out made
    fun pattern parsed tuple member => amid.hits pattern parsed _ tuple (held ▸ member)
  rw [Service.step_finishing running finishes] at stepped
  cases stepped
  have left := Cluster.holdings_set target (node.after call space result) quest.taker.client
  constructor
  case others => exact amid.others
  case hits =>
    intro pattern parsed place tuple member
    have member : tuple ∈ (network.cluster.setNode parcel.handle.node
      (node.after call space result)).holdings quest.taker.client place := member
    rw [left] at member
    split at member
    · exact hits pattern parsed tuple member
    · exact amid.hits pattern parsed place tuple member
  case inside =>
    intro place outside
    have apart : parcel.handle.node ≠ place := by
      rintro rfl
      exact outside (List.mem_map.mpr ⟨_, row, rfl⟩)
    refine (left place).trans ?_
    rw [if_neg apart]
    exact amid.inside place outside
  case accounted =>
    intro other index concerns
    exact amid.accounted other index (Cluster.concerns_worked target running
      (Service.step_finishing running finishes) concerns)
  case phase =>
    exact ⟨job, mine,
      phase.worked poised.fixed.places inside whose state target running settles⟩

theorem Amid.worked_other (amid : quest.Amid record network) {place call : Nat} {node : Node}
    {task : Task} {service : Service} (target : network.cluster.nodes[place]? = some node)
    (running : node.service.calls[call]? = some (.running task))
    (stepped : node.service.step? call = some service)
    (foreign : task.client? ≠ some quest.taker.client) :
    quest.Amid (record ++ [.works place node.service.replica task])
      { network with cluster := network.cluster.setNode place { node with service } } := by
  obtain ⟨job, mine, phase⟩ := amid.phase
  have keeps := Cluster.keeps_worked target running stepped foreign
  constructor
  case others => exact amid.others
  case hits =>
    intro pattern parsed place tuple
    dsimp only
    rw [keeps.holdings]
    exact amid.hits pattern parsed place tuple
  case inside =>
    intro place outside
    dsimp only
    rw [keeps.holdings]
    exact amid.inside place outside
  case accounted =>
    intro other index concerns
    exact amid.accounted other index (Cluster.concerns_worked target running stepped concerns)
  case phase =>
    exact ⟨job, mine, phase.spared ⟨keeps, fun _ _ => Iff.rfl, fun _ _ _ => List.Perm.refl _,
      Nat.le_refl _, by simp, by simp⟩⟩

theorem Phase.parting {errand : Errand}
    (phase : quest.Phase record cluster parcels exchanges (.running errand))
    (idle : errand.attempt? = none) :
    quest.Own errand ∧ quest.Quiet parcels ∧ quest.Parting record cluster parcels exchanges := by
  cases phase with
  | begins own _ quiet parting => exact ⟨own, quiet, parting⟩
  | pauses _ attempt _ _ _ _ =>
      rw [attempt] at idle
      cases idle
  | takes _ attempt _ _ _ =>
      rw [attempt] at idle
      cases idle
  | abandons _ attempt _ _ _ _ =>
      rw [attempt] at idle
      cases idle

theorem Amid.goes_on (amid : quest.Amid record network) (poised : quest.Poised)
    (descends : quest.first.Descends network) {next : Job} {posted? : Option (List Parcel)}
    (advances : network.Advances quest.job next posted?) :
    quest.Phase (record ++ network.posting quest.job posted?) network.cluster
      (network.parcels ++ posted?.getD [])
      (network.exchanges + if posted?.isSome then 1 else 0) next := by
  obtain ⟨job, mine, phase⟩ := amid.phase
  have names := poised.fixed.names
  cases advances with
  | woke found =>
      rw [mine] at found
      cases found
      cases phase
  | @unresolved errand cause job found idle other ends =>
      rw [mine] at found
      cases found
      obtain ⟨own, quiet, parting⟩ := phase.parting idle
      have goes : quest.Goes record network.cluster network.parcels network.exchanges
          errand.exchange {} (.ended (.error cause)) := .fails other quiet parting
      exact goes.installed own descends.numbered names amid.inside (.ended ends)
  | @began errand session set job posted? found idle there table installs =>
      rw [mine] at found
      cases found
      obtain ⟨own, quiet, parting⟩ := phase.parting idle
      rw [own.session] at there
      obtain ⟨before, known, continues⟩ := descends.upholds.session_before there
      rw [poised.there] at known
      cases known
      have table := table _ (continues.fixed _ poised.fixed).finds
      rw [continues.client, continues.config, own.operation] at installs
      rw [← table] at names
      refine Goes.installed ?_ own descends.numbered poised.fixed.names amid.inside installs
      have started : (∃ cause, _ = AttemptStep.failing (.invalid cause)) ∨
          AttemptStep.Tends set quest.taker (network.cluster.holdings quest.taker.client) _ :=
        AttemptStep.taking_tends names
      rcases started with ⟨cause, refused⟩ | tends
      · have same : Attempt.start set quest.session.client quest.session.config.take.policy
            (.take quest.pattern) = .ended (.error (.invalid cause)) := refused
        rw [same]
        exact .fails (by simp) quiet parting
      · exact .tends table quiet tends
  | @advanced errand attempt step job posted? found under stepped installs =>
      rw [mine] at found
      cases found
      obtain ⟨own, client, goes⟩ := phase.goes names under stepped
      rw [client] at installs
      exact goes.installed own descends.numbered names amid.inside installs

theorem Amid.advanced (amid : quest.Amid record network) (poised : quest.Poised)
    (descends : quest.first.Descends network) {job : Job} {posted? : Option (List Parcel)}
    (advances : network.Advances index job posted?)
    (changes : network.Changes last index job posted?) :
    quest.Amid (record ++ network.posting index posted?) last := by
  obtain ⟨mine, there, phase⟩ := amid.phase
  have fresh := advances.posted_fresh
  constructor
  case others =>
    intro other found here apart
    rw [changes.job_at] at here
    split at here
    · rename_i same
      subst other
      obtain ⟨_, _, rfl⟩ := Option.map_eq_some_iff.mp here
      refine (advances.shuns descends.upholds ?_).1
      intro errand running
      exact amid.others index _ running apart
    · exact amid.others other found here apart
  case hits => exact changes.cluster ▸ amid.hits
  case inside => exact changes.cluster ▸ amid.inside
  case accounted =>
    intro place call concerns
    rw [changes.cluster] at concerns
    obtain ⟨parcel, inside, rest⟩ := amid.accounted place call concerns
    rw [changes.parcels]
    exact ⟨parcel, List.mem_append_left _ inside, rest⟩
  case phase =>
    rw [changes.cluster, changes.parcels, changes.exchanges]
    by_cases own : index = quest.job
    · subst own
      refine ⟨job, ?_, amid.goes_on poised descends advances⟩
      rw [changes.job_at, if_pos rfl, there, Option.map_some]
    · refine ⟨mine, by rw [changes.job_at, if_neg own]; exact there, phase.spared ?_⟩
      have foreign := (advances.shuns descends.upholds fun errand running =>
        amid.others index _ running own).2
      refine ⟨.refl _ _, ?_, ?_, Nat.le_add_right _ _, ?_, ?_⟩
      · intro parcel concerns
        rw [List.mem_append]
        exact ⟨fun member => member.resolve_right fun new => foreign parcel new concerns, Or.inl⟩
      · intro number started _
        rw [transit_append]
        intro parcel new
        rw [(fresh parcel new).1]
        exact Nat.ne_of_gt started
      · intro exchange requests member
        obtain ⟨_, _, same⟩ := Network.posts_of_posting member
        exact own (Deed.posts.inj same).1.symm
      · intro number place request member
        obtain ⟨_, _, same⟩ := Network.posts_of_posting member
        cases same

theorem Amid.begun (amid : quest.Amid record network) {session : Nat} {command : Command}
    {job : Job} {sequencer : Sequencer} {last : Network}
    (begins : network.Begins session command job sequencer)
    (adds : network.Adds last job sequencer)
    (rivals : quest.Rivals [.begins network.jobs.length session command job.operation?]) :
    quest.Amid (record ++ [.begins network.jobs.length session command job.operation?]) last := by
  obtain ⟨mine, there, phase⟩ := amid.phase
  constructor
  case others =>
    intro other found here apart
    rcases adds.job_cases here with before | ⟨_, rfl⟩
    · exact amid.others other found before apart
    · refine begins.shuns fun pattern same rival known => ?_
      exact rivals _ _ _ pattern (by rw [same]; exact List.mem_singleton_self _) rival known
  case hits => exact adds.cluster ▸ amid.hits
  case inside => exact adds.cluster ▸ amid.inside
  case accounted => rw [adds.cluster, adds.parcels]; exact amid.accounted
  case phase =>
    rw [adds.cluster, adds.parcels, adds.exchanges]
    exact ⟨mine, adds.job_before there,
      phase.spared (spares_still (by simp) (by simp))⟩

theorem Amid.happens (amid : quest.Amid record network) (poised : quest.Poised)
    (descends : quest.first.Descends network)
    (happens : network.Happens deeds last) (rivals : quest.Rivals deeds) :
    quest.Amid (record ++ deeds) last := by
  cases happens with
  | failed found unsent left =>
      rw [List.append_nil]
      refine amid.answered found (fun _ => .undelivered unsent) fun call lost state => ?_
      rw [unsent] at state
      cases state
  | forged found unsent left why =>
      obtain ⟨fault, member, effect, _⟩ := why
      rcases poised.lossy fault (descends.faults member) with drop | lose
      · rw [drop] at effect
        cases effect
      · rw [lose] at effect
        cases effect
  | delivered found unsent _ target => exact amid.delivered found unsent target
  | @worked place call node task service target running stepped =>
      by_cases concerns : task.client? = some quest.taker.client
      · exact amid.worked_own poised target running stepped concerns
      · exact amid.worked_other target running stepped concerns
  | received found answered =>
      rw [List.append_nil]
      obtain ⟨job, _, phase⟩ := amid.phase
      exact amid.answered found
        (fun concerns => (phase.carries (List.mem_of_getElem? found) concerns).2.1.told answered)
        fun call lost state => Network.over_of_answer answered state
  | advanced advances changes => exact amid.advanced poised descends advances changes
  | passed =>
      rw [List.append_nil]
      exact ⟨amid.others, amid.hits, amid.inside, amid.accounted, amid.phase⟩
  | begun begins adds => exact amid.begun begins adds rivals

theorem amid_of_history (poised : quest.Poised) {start : Network} (begun : quest.Amid [] start)
    (descends : quest.first.Descends start)
    (history : Network.History start record network) (rivals : quest.Rivals record) :
    quest.Amid record network := by
  induction history with
  | start => exact begun
  | step history undergone induction =>
      refine (induction fun job other command pattern member =>
        rivals job other command pattern (List.mem_append_left _ member)).happens poised
          (descends.history history) (Network.happens_of_undergo undergone) ?_
      exact fun job other command pattern member =>
        rivals job other command pattern (List.mem_append_right _ member)

end Quest

namespace Network

/-- Nothing in a network has to do with a client, which holds nothing. -/
structure Apart (network : Network) (client : ClientId) : Prop where
  holds : ∀ place, network.cluster.holdings client place = []
  parcels : ∀ parcel ∈ network.parcels, parcel.request.client? ≠ some client
  calls : ∀ place call, ¬network.cluster.Concerns client place call
  jobs : ∀ job ∈ network.jobs, job.Shuns network client
  numbered : network.Numbered

variable {network last : Network} {index : Nat} {session : Session} {pattern : String}
  {table : List (String × Nat)}

theorem amid_begin (there : network.sessions[index]? = some session)
    (quorum : session.config.takeMode = .quorum) (apart : network.Apart session.client) :
    Quest.Amid ⟨network, session, index, network.jobs.length, pattern, table⟩ []
      (network.begin index (.take pattern)) := by
  obtain ⟨job, sequencer, begins, adds⟩ := network.begin_adds index (.take pattern)
  generalize network.begin index (.take pattern) = next at adds
  have nothing : Quest.HoldsNothing ⟨network, session, index, network.jobs.length, pattern, table⟩
      network.cluster := apart.holds
  constructor
  case others =>
    intro other found here different
    rcases adds.job_cases here with before | ⟨last, _⟩
    · exact apart.jobs found (List.mem_of_getElem? before)
    · exact absurd last different
  case hits =>
    intro _ _ place tuple member
    rw [adds.cluster] at member
    rw [nothing place] at member
    cases member
  case inside =>
    intro place _
    rw [adds.cluster]
    exact nothing place
  case accounted =>
    intro place call concerns
    rw [adds.cluster] at concerns
    exact absurd concerns (apart.calls place call)
  case phase =>
    rw [adds.cluster, adds.parcels, adds.exchanges, adds.jobs]
    refine ⟨job, by simp, ?_⟩
    cases begins with
    | ended => exact .ended apart.parcels (nothing.parts _)
    | takes _ _ => exact .begins ⟨rfl, rfl⟩ rfl apart.parcels (.idle nothing (by simp))
    | takesInOrder known sequenced =>
        rw [there] at known
        cases known
        rw [quorum] at sequenced
        cases sequenced

/-- However other clients carry on meanwhile, a take by quorum that succeeds, or gives up after its
last retry, holds nothing anywhere when it ends. One that fails otherwise has never asked for
anything, or has last asked every replica to free what it held, and holds nothing where that request
has arrived. -/
theorem nothing_held_of_take {record : List Deed} {result : Except ClientError Outcome}
    (there : network.sessions[index]? = some session)
    (quorum : session.config.takeMode = .quorum) (apart : network.Apart session.client)
    (fixed : network.IsFixed session table)
    (lossy : ∀ fault ∈ network.faults, fault.effect = .drop ∨ fault.effect = .loseReply)
    (history : History (network.begin index (.take pattern)) record last)
    (rivals : ∀ job other command source,
      .begins job other command (some (.take source)) ∈ record →
        ∀ rival, network.sessions[other]? = some rival → rival.client ≠ session.client)
    (ended : last.jobs[network.jobs.length]? = some (.finished result)) :
    ((∃ outcome, result = .ok outcome) ∨ (∃ retries, result = .error (.backoffExceeded retries)) →
        ∀ place, last.cluster.holdings session.client place = []) ∧
      ∀ cause, result = .error cause → (∀ retries, cause ≠ .backoffExceeded retries) →
        ((∀ place, last.cluster.holdings session.client place = []) ∧
            ∀ exchange requests, .posts network.jobs.length exchange requests ∉ record) ∨
          ∃ number, FreedLast record network.jobs.length session.client table number fun place =>
            last.cluster.holdings session.client place = [] := by
  let quest : Quest := ⟨network, session, index, network.jobs.length, pattern, table⟩
  have poised : quest.Poised := ⟨there, fixed, lossy⟩
  obtain ⟨_, _, begins, adds⟩ := network.begin_adds index (.take pattern)
  have descends := (Descends.refl apart.numbered).happens (.begun begins adds)
  have amid : quest.Amid record last :=
    Quest.amid_of_history poised (amid_begin there quorum apart) descends history rivals
  obtain ⟨job, mine, phase⟩ := amid.phase
  rw [ended, Option.some.injEq] at mine
  subst job
  cases phase with
  | ended quiet parts =>
      constructor
      · rintro (⟨outcome, rfl⟩ | ⟨retries, rfl⟩)
        · exact parts
        · exact parts
      · rintro cause rfl other
        cases cause with
        | backoffExceeded retries => exact absurd rfl (other retries)
        | _ =>
            cases parts with
            | idle nothing unposted => exact Or.inl ⟨nothing, unposted⟩
            | freed _ _ freed => exact Or.inr ⟨_, freed⟩

/-- Two replicas with a tuple each, and two clients. The first round of the first client loses a
reply, and the request to free what was held then never arrives at the same replica. -/
def contended : Network :=
  { registry := ⟨[("TupleSpaces", [⟨"A", "local:1"⟩, ⟨"B", "local:2"⟩])]⟩
    cluster :=
      { nodes :=
          [{ qualifier := "A"
             service := { replica := { store := { space := ⟨[⟨"<a>", none⟩]⟩ } } } },
            { qualifier := "B"
              service := { replica := { store := { space := ⟨[⟨"<a>", none⟩]⟩ } } } }]
        listeners := [("local:2", 1), ("local:1", 0)] }
    sessions := [{ client := ⟨1⟩, config := { callRetries := 1 } }, { client := ⟨2⟩ }]
    faults := [⟨"A", "take phase 1", .loseReply⟩, ⟨"A", "take phase 1 release", .drop⟩] }

/-- The tuple that the first attempt has left held is found again by the second one, and taken. The
other client is left empty-handed meanwhile. -/
theorem nothing_held_of_contended :
    ∃ record last, History (contended.begin 0 (.take "<a>")) record last ∧
      last.jobs[0]? = some (.finished (.ok (.tuple "<a>"))) ∧
      .begins 1 1 (.take "<a>") (some (.take "<a>")) ∈ record ∧
      ∀ place, last.cluster.holdings ⟨1⟩ place = [] := by
  have done : ((contended.begin 0 (.take "<a>")).retrace?
      [.event (.advance 0), .event (.send 0), .begin 1 (.take "<a>"), .event (.advance 1),
        .event (.work 0 0), .event (.send 1), .event (.work 1 0), .event (.receive 0),
        .event (.receive 0), .event (.advance 0), .event (.advance 0), .event (.send 2),
        .event (.send 2), .event (.work 1 1), .event (.receive 2), .event (.send 0),
        .event (.work 0 1), .event (.advance 0), .event (.advance 0), .event (.advance 0),
        .event (.send 2), .event (.work 0 2), .event (.send 3), .event (.work 1 2),
        .event (.receive 2), .event (.receive 2), .event (.advance 0), .event (.advance 0),
        .event (.advance 0), .event (.send 2), .event (.work 0 3), .event (.receive 2),
        .event (.send 2), .event (.work 1 3), .event (.receive 2), .event (.advance 0),
        .event (.advance 0), .event (.advance 0)]).map
          (fun last => (last.2.jobs[0]?, last.1.filter (· matches .begins ..))) =
          some (some (.finished (.ok (.tuple "<a>"))),
            [.begins 1 1 (.take "<a>") (some (.take "<a>"))]) := by
    decide +kernel
  obtain ⟨⟨record, last⟩, retraced, outcome⟩ := Option.map_eq_some_iff.mp done
  obtain ⟨ended, begun⟩ := Prod.mk.inj outcome
  have history : History (contended.begin 0 (.take "<a>")) record last :=
    history_of_retrace .start retraced
  have apart : contended.Apart ⟨1⟩ := by
    refine ⟨?_, by simp [contended], ?_, by simp [contended], by simp [Numbered, contended]⟩
    · rintro (_ | _ | place) <;> rfl
    · rintro (_ | _ | place) call ⟨state, task, found, _⟩ <;>
        simp [Cluster.call?, contended] at found
  have looked : contended.lookUp { callRetries := 1 } =
      .ok ⟨[⟨⟨"A", "local:1"⟩, 0, 0⟩, ⟨⟨"B", "local:2"⟩, 1, 0⟩]⟩ := by
    decide +kernel
  have fixed : contended.IsFixed { client := ⟨1⟩, config := { callRetries := 1 } }
      [("A", 0), ("B", 1)] := by
    refine ⟨by simp, by simp, by simp, fun set found => ?_⟩
    rw [looked] at found
    cases found
    rfl
  have rivals : ∀ job other command source,
      .begins job other command (some (.take source)) ∈ record →
        ∀ rival, contended.sessions[other]? = some rival → rival.client ≠ ⟨1⟩ := by
    intro job other command source member rival there
    have inside : .begins job other command (some (.take source)) ∈
        [Deed.begins 1 1 (.take "<a>") (some (.take "<a>"))] := by
      rw [← begun]
      exact List.mem_filter.mpr ⟨member, rfl⟩
    cases List.mem_singleton.mp inside
    cases there
    decide
  have taken : .begins 1 1 (.take "<a>") (some (.take "<a>")) ∈
      record.filter (· matches .begins ..) := by
    rw [begun]
    exact List.mem_singleton_self _
  obtain ⟨held, _⟩ := nothing_held_of_take rfl rfl apart fixed (by simp [contended]) history rivals
    ended
  exact ⟨record, last, history, ended, (List.mem_filter.mp taken).1, held (Or.inl ⟨_, rfl⟩)⟩

end Network

end TupleSpace
