import TupleSpace.Proofs.ClientCalls
import TupleSpace.Proofs.Dispatch
import TupleSpace.Proofs.OtherJobs

/-!
# Phases of a take

How far a take has come while other clients go on with whatever they like. All that concerns its
client are the requests of its one exchange under way, and none of them is outstanding when the next
exchange is posted. So what the client holds at the end is what the last exchange has left behind.
-/

namespace TupleSpace

open TupleSpace.Table

/-- The last exchange that a job has posted asks every replica of a table to free what a client
holds. A condition is true of each replica that one of its requests has reached. -/
def FreedLast (record : List Deed) (job : Nat) (client : ClientId) (table : List (String × Nat))
    (number : Nat) (condition : Nat → Prop) : Prop :=
  ∃ earlier later,
    record = earlier ++
      .posts job number (table.map fun row => (row.2, .release client)) :: later ∧
    (∀ exchange requests, .posts job exchange requests ∉ later) ∧
    ∀ place request, .reaches number place request ∈ later → condition place

theorem FreedLast.extend {record deeds : List Deed} {job number : Nat} {client : ClientId}
    {table : List (String × Nat)} {condition after : Nat → Prop}
    (freed : FreedLast record job client table number condition)
    (posts : ∀ exchange requests, .posts job exchange requests ∉ deeds)
    (reaches : ∀ place request, .reaches number place request ∈ deeds → after place)
    (still : ∀ place, condition place → after place) :
    FreedLast (record ++ deeds) job client table number after := by
  obtain ⟨earlier, later, rfl, none, reached⟩ := freed
  refine ⟨earlier, later ++ deeds, by simp, ?_, ?_⟩
  · intro exchange requests member
    rcases List.mem_append.mp member with old | new
    · exact none _ _ old
    · exact posts _ _ new
  · intro place request member
    rcases List.mem_append.mp member with old | new
    · exact still place (reached place request old)
    · exact reaches place request new

namespace Quest

/-- An exchange of the take is under way, with all that is in transit for its client. -/
structure Underway (quest : Quest) (cluster : Cluster) (parcels : List Parcel)
    (exchanges number : Nat) (targets : List String) (exchange : Exchange) : Prop where
  started : number < exchanges
  belongs : exchange.request.Belongs quest.taker.client quest.pattern
  only : ∀ parcel ∈ parcels, parcel.request.client? = some quest.taker.client →
    parcel.exchange = number
  dispatch : Dispatch quest.table (Parcel.Fares quest.taker.client cluster)
    (fun place answer => exchange.request.Settles quest.taker.client
      (cluster.holdings quest.taker.client place) (.ok answer))
    (transit number parcels) targets exchange

def Quiet (quest : Quest) (parcels : List Parcel) : Prop :=
  ∀ parcel ∈ parcels, parcel.request.client? ≠ some quest.taker.client

structure Spares (quest : Quest) (cluster next : Cluster) (parcels later : List Parcel)
    (exchanges after : Nat) (deeds : List Deed) : Prop where
  keeps : cluster.Keeps next quest.taker.client
  own : ∀ parcel, parcel.request.client? = some quest.taker.client →
    (parcel ∈ later ↔ parcel ∈ parcels)
  same : ∀ number < exchanges,
    (∀ parcel ∈ transit number parcels, parcel.request.client? = some quest.taker.client) →
      (transit number parcels).Perm (transit number later)
  grows : exchanges ≤ after
  posts : ∀ exchange requests, .posts quest.job exchange requests ∉ deeds
  reaches : ∀ number place request, .reaches number place request ∈ deeds →
    ∃ parcel ∈ parcels, parcel.exchange = number ∧
      parcel.request.client? ≠ some quest.taker.client

variable {quest : Quest} {cluster next : Cluster} {parcels later : List Parcel}
  {exchanges after number index : Nat} {targets : List String} {exchange : Exchange}
  {parcel : Parcel} {record deeds : List Deed} {answer : Except TransportError Reply}

theorem Quiet.answered (quiet : quest.Quiet parcels) (index : Nat) :
    quest.Quiet (parcels.eraseIdx index) :=
  fun other member => quiet other (List.mem_of_mem_eraseIdx member)

theorem Quiet.spared (quiet : quest.Quiet parcels)
    (spares : quest.Spares cluster next parcels later exchanges after deeds) :
    quest.Quiet later :=
  fun other member concerns => quiet other ((spares.own other concerns).mp member) concerns

/-! ## An exchange under way -/

namespace Underway

theorem asked (underway : quest.Underway cluster parcels exchanges number targets exchange)
    (inside : parcel ∈ parcels) (own : parcel.exchange = number) :
    parcel.request = exchange.request ∧
      (parcel.handle.qualifier, parcel.handle.node) ∈ quest.table ∧
      parcel.Fares quest.taker.client cluster ∧ parcel.handle.qualifier ∈ targets := by
  have member := mem_transit.mpr ⟨inside, own⟩
  obtain ⟨request, row, fares⟩ := underway.dispatch.posted parcel member
  exact ⟨request, row, fares, underway.dispatch.asked parcel member⟩

theorem concerns (underway : quest.Underway cluster parcels exchanges number targets exchange)
    (inside : parcel ∈ parcels) (own : parcel.exchange = number) :
    parcel.request.client? = some quest.taker.client := by
  rw [(underway.asked inside own).1]
  exact underway.belongs.client

theorem quiet (underway : quest.Underway cluster parcels exchanges number targets exchange)
    (landed : transit number parcels = []) : quest.Quiet parcels := by
  intro parcel inside concerns
  have member := mem_transit.mpr ⟨inside, underway.only parcel inside concerns⟩
  rw [landed] at member
  cases member

theorem answered (underway : quest.Underway cluster parcels exchanges number targets exchange)
    (found : parcels[index]? = some parcel)
    (told : parcel.request.client? = some quest.taker.client →
      parcel.Told quest.taker.client (cluster.holdings quest.taker.client parcel.handle.node)
        answer) :
    quest.Underway cluster (parcels.eraseIdx index) exchanges number targets
      (if parcel.exchange = number then exchange.record parcel.handle.qualifier answer
        else exchange) := by
  have inside := List.mem_of_getElem? found
  have fewer : ∀ other ∈ parcels.eraseIdx index,
      other.request.client? = some quest.taker.client → other.exchange = number :=
    fun other member => underway.only other (List.mem_of_mem_eraseIdx member)
  split
  · rename_i own
    refine ⟨underway.started, underway.belongs, fewer,
      underway.dispatch.answered found own fun response replied => ?_⟩
    obtain ⟨result, same, settles⟩ := (told (underway.concerns inside own)).reply replied
    rw [(underway.asked inside own).1] at settles
    exact ⟨result, same, settles⟩
  · rename_i other
    exact ⟨underway.started, underway.belongs, fewer,
      underway.dispatch.answered_elsewhere found other⟩

theorem kept (underway : quest.Underway cluster parcels exchanges number targets exchange)
    (keeps : cluster.Keeps next quest.taker.client) :
    quest.Underway next parcels exchanges number targets exchange := by
  refine ⟨underway.started, underway.belongs, underway.only, underway.dispatch.mono ?_ ?_⟩
  · intro parcel member fares
    have belongs := underway.belongs
    rw [← (underway.dispatch.posted parcel member).1] at belongs
    exact fares.mono belongs keeps
  · intro reply _ place answer _ settles
    rw [keeps.holdings]
    exact settles

theorem spared (underway : quest.Underway cluster parcels exchanges number targets exchange)
    (spares : quest.Spares cluster next parcels later exchanges after deeds) :
    quest.Underway next later after number targets exchange := by
  have kept := underway.kept spares.keeps
  refine ⟨Nat.lt_of_lt_of_le underway.started spares.grows, underway.belongs, ?_, ?_⟩
  · intro parcel member concerns
    exact underway.only parcel ((spares.own parcel concerns).mp member) concerns
  · refine kept.dispatch.perm (spares.same number underway.started ?_)
    intro parcel member
    obtain ⟨inside, own⟩ := mem_transit.mp member
    exact underway.concerns inside own

theorem delivered {node : Node}
    (underway : quest.Underway cluster parcels exchanges number targets exchange)
    (found : parcels[index]? = some parcel)
    (target : cluster.nodes[parcel.handle.node]? = some node) (isReplyLost : Bool) :
    quest.Underway
      (cluster.setNode parcel.handle.node
        { node with service := node.service.call parcel.request.task })
      (parcels.set index { parcel with state := .delivered node.service.calls.length isReplyLost })
      exchanges number targets exchange := by
  have kept := underway.kept (Cluster.keeps_called target parcel.request.task)
  refine ⟨underway.started, underway.belongs, ?_,
    kept.dispatch.moved found _ fun _ => Parcel.Fares.delivered target⟩
  intro other member concerns
  rcases List.mem_or_eq_of_mem_set member with old | rfl
  · exact underway.only other old concerns
  · exact underway.only parcel (List.mem_of_getElem? found) concerns

theorem worked {node : Node} {call : Nat} {isReplyLost : Bool} {task : Task} {space : Space}
    {result : Except StoreError Answer}
    (underway : quest.Underway cluster parcels exchanges number targets exchange)
    (places : (quest.table.map (·.2)).Nodup) (inside : parcel ∈ parcels)
    (own : parcel.exchange = number) (state : parcel.state = .delivered call isReplyLost)
    (target : cluster.nodes[parcel.handle.node]? = some node)
    (running : node.service.calls[call]? = some (.running task))
    (settles : parcel.request.Settles quest.taker.client (space.holdings quest.taker.client)
      result) :
    quest.Underway (cluster.setNode parcel.handle.node (node.after call space result)) parcels
      exchanges number targets exchange := by
  obtain ⟨position, found⟩ := List.getElem?_of_mem inside
  have apart : (transit number parcels).Perm
      (parcel :: transit number (parcels.eraseIdx position)) :=
    transit_own own ▸ transit_apart found
  have dispatch := underway.dispatch.perm apart
  refine ⟨underway.started, underway.belongs, underway.only,
    (dispatch.mono ?_ ?_).perm apart.symm⟩
  · intro other member fares
    rcases List.mem_cons.mp member with rfl | rest
    · exact .carried_out state target running settles
    · exact fares.elsewhere target (dispatch.apart places rest) _
  · intro reply member place answer row settles
    rw [Cluster.holdings_set target, if_neg (dispatch.replied_apart places member row).symm]
    exact settles

end Underway

/-! ## Where a take stands -/

def HoldsNothing (quest : Quest) (cluster : Cluster) : Prop :=
  ∀ place, cluster.holdings quest.taker.client place = []

/-- What a take that has failed so far has parted with. No request of its last exchange is in
transit any more. -/
inductive Parting (quest : Quest) (record : List Deed) (cluster : Cluster) (parcels : List Parcel)
    (exchanges : Nat) : Prop
  | idle (nothing : quest.HoldsNothing cluster)
      (unposted : ∀ exchange requests, .posts quest.job exchange requests ∉ record) :
      Parting quest record cluster parcels exchanges
  | freed {number : Nat} (started : number < exchanges) (landed : transit number parcels = [])
      (freed : FreedLast record quest.job quest.taker.client quest.table number fun place =>
        cluster.holdings quest.taker.client place = []) :
      Parting quest record cluster parcels exchanges

def Parts (quest : Quest) (record : List Deed) (cluster : Cluster) (parcels : List Parcel)
    (exchanges : Nat) : Except ClientError Outcome → Prop
  | .ok _ | .error (.backoffExceeded _) => quest.HoldsNothing cluster
  | .error _ => quest.Parting record cluster parcels exchanges

/-- A request of an exchange has reached its replica and is not answered yet. -/
def Lingers (parcels : List Parcel) (number place : Nat) : Prop :=
  ∃ parcel ∈ parcels, parcel.exchange = number ∧ parcel.handle.node = place ∧
    parcel.state ≠ .unsent

inductive Phase (quest : Quest) (record : List Deed) (cluster : Cluster) (parcels : List Parcel)
    (exchanges : Nat) : Job → Prop
  | begins {errand : Errand} (own : quest.Own errand) (idle : errand.attempt? = none)
      (quiet : quest.Quiet parcels) (parting : quest.Parting record cluster parcels exchanges) :
      Phase quest record cluster parcels exchanges (.running errand)
  | pauses {errand : Errand} {set : ReplicaSet} {machine : TakeMachine} {pause : Pause}
      (own : quest.Own errand)
      (attempt : errand.attempt? = some ⟨set, quest.taker.client, .pausing machine pause⟩)
      (table : set.table = quest.table)
      (serves : machine.Serves quest.taker (quest.table.map (·.1)))
      (stage : machine.stage = .reserve) (quiet : quest.Quiet parcels) :
      Phase quest record cluster parcels exchanges (.running errand)
  | takes {errand : Errand} {set : ReplicaSet} {machine : TakeMachine} {exchange : Exchange}
      (own : quest.Own errand)
      (attempt : errand.attempt? = some ⟨set, quest.taker.client, .taking machine exchange⟩)
      (table : set.table = quest.table)
      (asks : machine.Asks quest.taker quest.table (cluster.holdings quest.taker.client)
        exchange.request)
      (underway : quest.Underway cluster parcels exchanges errand.exchange machine.awaiting
        exchange) :
      Phase quest record cluster parcels exchanges (.running errand)
  | abandons {errand : Errand} {set : ReplicaSet} {cause : ClientError} {exchange : Exchange}
      (own : quest.Own errand)
      (attempt : errand.attempt? = some ⟨set, quest.taker.client, .abandoning cause exchange⟩)
      (other : ∀ retries, cause ≠ .backoffExceeded retries)
      (asks : exchange.request = .release quest.taker.client)
      (underway : quest.Underway cluster parcels exchanges errand.exchange set.qualifiers
        exchange)
      (freed : FreedLast record quest.job quest.taker.client quest.table errand.exchange
        fun place => Lingers parcels errand.exchange place ∨
          cluster.holdings quest.taker.client place = []) :
      Phase quest record cluster parcels exchanges (.running errand)
  | ended {result : Except ClientError Outcome} (quiet : quest.Quiet parcels)
      (parts : quest.Parts record cluster parcels exchanges result) :
      Phase quest record cluster parcels exchanges (.finished result)

variable {job : Job}

theorem Parting.parts (parting : quest.Parting record cluster parcels exchanges)
    {cause : ClientError} (other : ∀ retries, cause ≠ .backoffExceeded retries) :
    quest.Parts record cluster parcels exchanges (.error cause) := by
  cases cause with
  | backoffExceeded retries => exact absurd rfl (other retries)
  | _ => exact parting

theorem HoldsNothing.parts (nothing : quest.HoldsNothing cluster)
    (result : Except ClientError Outcome) :
    quest.Parts [] cluster parcels exchanges result := by
  cases result with
  | ok outcome => exact nothing
  | error cause =>
      cases cause with
      | backoffExceeded retries => exact nothing
      | _ => exact .idle nothing (by simp)

/-! ## What happens elsewhere -/

theorem Parting.spared (parting : quest.Parting record cluster parcels exchanges)
    (spares : quest.Spares cluster next parcels later exchanges after deeds) :
    quest.Parting (record ++ deeds) next later after := by
  cases parting with
  | idle nothing unposted =>
      refine .idle (fun place => ?_) fun exchange requests member => ?_
      · rw [spares.keeps.holdings]
        exact nothing place
      · rcases List.mem_append.mp member with old | new
        · exact unposted _ _ old
        · exact spares.posts _ _ new
  | freed started landed freed =>
      have same := spares.same _ started (by simp [landed])
      refine .freed (Nat.lt_of_lt_of_le started spares.grows) (landed ▸ same).nil_eq.symm
        (freed.extend spares.posts ?_ ?_)
      · intro place request member
        obtain ⟨parcel, inside, own, _⟩ := spares.reaches _ place request member
        have found := mem_transit.mpr ⟨inside, own⟩
        rw [landed] at found
        cases found
      · intro place nothing
        rw [spares.keeps.holdings]
        exact nothing

theorem Parts.spared {result : Except ClientError Outcome}
    (parts : quest.Parts record cluster parcels exchanges result)
    (spares : quest.Spares cluster next parcels later exchanges after deeds) :
    quest.Parts (record ++ deeds) next later after result := by
  have nothing : quest.HoldsNothing cluster → quest.HoldsNothing next := by
    intro nothing place
    rw [spares.keeps.holdings]
    exact nothing place
  cases result with
  | ok outcome => exact nothing parts
  | error cause =>
      cases cause with
      | backoffExceeded retries => exact nothing parts
      | _ => exact Parting.spared parts spares

theorem Phase.spared (phase : quest.Phase record cluster parcels exchanges job)
    (spares : quest.Spares cluster next parcels later exchanges after deeds) :
    quest.Phase (record ++ deeds) next later after job := by
  cases phase with
  | begins own idle quiet parting =>
      exact .begins own idle (quiet.spared spares) (parting.spared spares)
  | pauses own attempt table serves stage quiet =>
      exact .pauses own attempt table serves stage (quiet.spared spares)
  | takes own attempt table asks underway =>
      refine .takes own attempt table ?_ (underway.spared spares)
      rw [spares.keeps.holdings]
      exact asks
  | abandons own attempt other asks underway freed =>
      refine .abandons own attempt other asks (underway.spared spares)
        (freed.extend spares.posts ?_ ?_)
      · intro place request member
        obtain ⟨parcel, inside, number, foreign⟩ := spares.reaches _ place request member
        exact absurd (underway.concerns inside number) foreign
      · rintro place (⟨parcel, inside, number, here, delivered⟩ | nothing)
        · have concerns := underway.concerns inside number
          exact Or.inl ⟨parcel, (spares.own parcel concerns).mpr inside, number, here, delivered⟩
        · rw [spares.keeps.holdings]
          exact Or.inr nothing
  | ended quiet parts => exact .ended (quiet.spared spares) (parts.spared spares)

/-! ## Answers -/

theorem Parting.answered (parting : quest.Parting record cluster parcels exchanges)
    (index : Nat) : quest.Parting record cluster (parcels.eraseIdx index) exchanges := by
  cases parting with
  | idle nothing unposted => exact .idle nothing unposted
  | @freed number started landed freed =>
      refine .freed started ?_ freed
      have fewer : (transit number (parcels.eraseIdx index)).Sublist (transit number parcels) :=
        (List.eraseIdx_sublist parcels index).filter _
      rw [landed] at fewer
      exact List.sublist_nil.mp fewer

theorem Parts.answered {result : Except ClientError Outcome}
    (parts : quest.Parts record cluster parcels exchanges result) (index : Nat) :
    quest.Parts record cluster (parcels.eraseIdx index) exchanges result := by
  cases result with
  | ok outcome => exact parts
  | error cause =>
      cases cause with
      | backoffExceeded retries => exact parts
      | _ => exact Parting.answered parts index

theorem Own.answered {errand : Errand} (own : quest.Own errand) (number : Nat)
    (replica : String) (answer : Except TransportError Reply) :
    quest.Own (errand.record number replica answer) := by
  rw [Errand.record_eq]
  exact ⟨own.session, own.operation⟩

/-- A release that has been answered has left nothing behind where it was delivered. -/
theorem Underway.lingers
    (underway : quest.Underway cluster parcels exchanges number targets exchange)
    (asks : exchange.request = .release quest.taker.client)
    (found : parcels[index]? = some parcel)
    (told : parcel.request.client? = some quest.taker.client →
      parcel.Told quest.taker.client (cluster.holdings quest.taker.client parcel.handle.node)
        answer) {place : Nat} (lingers : Lingers parcels number place) :
    Lingers (parcels.eraseIdx index) number place ∨
      cluster.holdings quest.taker.client place = [] := by
  obtain ⟨other, inside, own, here, delivered⟩ := lingers
  rcases mem_answered found inside with rfl | left
  · subst here
    have request := (underway.asked inside own).1.trans asks
    have settled : ∀ result, other.request.Settles quest.taker.client
        (cluster.holdings quest.taker.client other.handle.node) result →
          cluster.holdings quest.taker.client other.handle.node = [] := by
      intro result settles
      rw [request] at settles
      exact settles.freed
    cases told (underway.concerns inside own) with
    | undelivered unsent => exact absurd unsent delivered
    | lost settles => exact Or.inr (settled _ settles)
    | replied settles => exact Or.inr (settled _ settles)
  · exact Or.inl ⟨other, left, own, here, delivered⟩

theorem Phase.answered (phase : quest.Phase record cluster parcels exchanges job)
    (found : parcels[index]? = some parcel)
    (told : parcel.request.client? = some quest.taker.client →
      parcel.Told quest.taker.client (cluster.holdings quest.taker.client parcel.handle.node)
        answer) :
    quest.Phase record cluster (parcels.eraseIdx index) exchanges
      (job.record parcel.exchange parcel.handle.qualifier answer) := by
  cases phase with
  | begins own idle quiet parting =>
      refine .begins (own.answered _ _ _) ?_ (quiet.answered index) (parting.answered index)
      rw [Errand.attempt_record, idle]
      split <;> rfl
  | @pauses errand set machine pause own attempt table serves stage quiet =>
      have same : (errand.record parcel.exchange parcel.handle.qualifier answer).attempt? =
          some ⟨set, quest.taker.client, .pausing machine pause⟩ := by
        rw [Errand.attempt_record, attempt]
        split <;> rfl
      exact .pauses (own.answered _ _ _) same table serves stage (quiet.answered index)
  | @takes errand set machine exchange own attempt table asks underway =>
      have noted : (errand.record parcel.exchange parcel.handle.qualifier answer).attempt? =
          some ⟨set, quest.taker.client, .taking machine
            (if parcel.exchange = errand.exchange then
              exchange.record parcel.handle.qualifier answer else exchange)⟩ := by
        rw [Errand.attempt_record, attempt]
        split <;> rfl
      refine .takes (own.answered _ _ _) noted table ?_ ?_
      · split <;> exact asks
      · rw [Errand.record_eq]
        exact underway.answered found told
  | @abandons errand set cause exchange own attempt other asks underway freed =>
      have noted : (errand.record parcel.exchange parcel.handle.qualifier answer).attempt? =
          some ⟨set, quest.taker.client, .abandoning cause
            (if parcel.exchange = errand.exchange then
              exchange.record parcel.handle.qualifier answer else exchange)⟩ := by
        rw [Errand.attempt_record, attempt]
        split <;> rfl
      refine .abandons (own.answered _ _ _) noted other ?_ ?_ ?_
      · split <;> exact asks
      · rw [Errand.record_eq]
        exact underway.answered found told
      · rw [Errand.record_eq, ← List.append_nil record]
        refine freed.extend (by simp) (by simp) ?_
        rintro place (lingers | nothing)
        · exact underway.lingers asks found told lingers
        · exact Or.inr nothing
  | ended quiet parts => exact .ended (quiet.answered index) (parts.answered index)

/-! ## Requests of the take at a replica -/

theorem Phase.delivered {node : Node}
    (phase : quest.Phase record cluster parcels exchanges job)
    (found : parcels[index]? = some parcel) (unsent : parcel.state = .unsent)
    (concerns : parcel.request.client? = some quest.taker.client)
    (target : cluster.nodes[parcel.handle.node]? = some node) (isReplyLost : Bool) :
    quest.Phase (record ++ [.reaches parcel.exchange parcel.handle.node parcel.request])
      (cluster.setNode parcel.handle.node
        { node with service := node.service.call parcel.request.task })
      (parcels.set index { parcel with state := .delivered node.service.calls.length isReplyLost })
      exchanges job := by
  have inside := List.mem_of_getElem? found
  have held : (cluster.setNode parcel.handle.node
      { node with service := node.service.call parcel.request.task }).holdings
        quest.taker.client = cluster.holdings quest.taker.client :=
    (Cluster.keeps_called target parcel.request.task).holdings
  cases phase with
  | begins _ _ quiet _ => exact absurd concerns (quiet parcel inside)
  | pauses _ _ _ _ _ quiet => exact absurd concerns (quiet parcel inside)
  | ended quiet _ => exact absurd concerns (quiet parcel inside)
  | takes own attempt table asks underway =>
      refine .takes own attempt table ?_ (underway.delivered found target isReplyLost)
      rw [held]
      exact asks
  | abandons own attempt other asks underway freed =>
      refine .abandons own attempt other asks (underway.delivered found target isReplyLost)
        (freed.extend (by simp) ?_ ?_)
      · intro place request member
        obtain ⟨number, here, _⟩ := Deed.reaches.inj (List.mem_singleton.mp member)
        exact Or.inl ⟨_, (mem_moved found).mpr (Or.inl rfl), number.symm, here.symm, by simp⟩
      · rintro place (⟨other, member, number, here, delivered⟩ | nothing)
        · rcases mem_answered found member with rfl | left
          · exact absurd unsent delivered
          · exact Or.inl ⟨other, (mem_moved found).mpr (Or.inr left), number, here, delivered⟩
        · rw [held]
          exact Or.inr nothing

theorem Phase.worked {node : Node} {call : Nat} {isReplyLost : Bool} {task : Task}
    {space : Space} {result : Except StoreError Answer}
    (phase : quest.Phase record cluster parcels exchanges job)
    (places : (quest.table.map (·.2)).Nodup) (inside : parcel ∈ parcels)
    (concerns : parcel.request.client? = some quest.taker.client)
    (state : parcel.state = .delivered call isReplyLost)
    (target : cluster.nodes[parcel.handle.node]? = some node)
    (running : node.service.calls[call]? = some (.running task))
    (settles : parcel.request.Settles quest.taker.client (space.holdings quest.taker.client)
      result) :
    quest.Phase (record ++ [.works parcel.handle.node node.service.replica task])
      (cluster.setNode parcel.handle.node (node.after call space result)) parcels exchanges
      job := by
  cases phase with
  | begins _ _ quiet _ => exact absurd concerns (quiet parcel inside)
  | pauses _ _ _ _ _ quiet => exact absurd concerns (quiet parcel inside)
  | ended quiet _ => exact absurd concerns (quiet parcel inside)
  | takes own attempt table asks underway =>
      have number := underway.only parcel inside concerns
      obtain ⟨_, here, _, asked⟩ := underway.asked inside number
      refine .takes own attempt table (asks.mono ?_)
        (underway.worked places inside number state target running settles)
      intro row member unasked
      rw [Cluster.holdings_set target, if_neg]
      intro same
      have row_ := List.inj_on_of_nodup_map places member here same.symm
      exact unasked (row_ ▸ asked)
  | abandons own attempt other asks underway freed =>
      have number := underway.only parcel inside concerns
      refine .abandons own attempt other asks
        (underway.worked places inside number state target running settles)
        (freed.extend (by simp) (by simp) ?_)
      rintro place (lingers | nothing)
      · exact Or.inl lingers
      · rw [Cluster.holdings_set target]
        split
        · rename_i here
          exact Or.inl ⟨parcel, inside, number, here, by simp [state]⟩
        · exact Or.inr nothing

/-! ## Steps of the take -/

inductive Goes (quest : Quest) (record : List Deed) (cluster : Cluster) (parcels : List Parcel)
    (exchanges number : Nat) (set : ReplicaSet) : AttemptStep → Prop
  | tends {step : AttemptStep} (table : set.table = quest.table) (quiet : quest.Quiet parcels)
      (tends : AttemptStep.Tends set quest.taker (cluster.holdings quest.taker.client) step) :
      Goes quest record cluster parcels exchanges number set step
  | fails {cause : ClientError} (other : ∀ retries, cause ≠ .backoffExceeded retries)
      (quiet : quest.Quiet parcels) (parting : quest.Parting record cluster parcels exchanges) :
      Goes quest record cluster parcels exchanges number set (.ended (.error cause))
  | waits {machine : TakeMachine} {exchange : Exchange} (table : set.table = quest.table)
      (asks : machine.Asks quest.taker quest.table (cluster.holdings quest.taker.client)
        exchange.request)
      (underway : quest.Underway cluster parcels exchanges number machine.awaiting exchange) :
      Goes quest record cluster parcels exchanges number set (.goOn (.taking machine exchange))
  | frees {cause : ClientError} {exchange : Exchange}
      (other : ∀ retries, cause ≠ .backoffExceeded retries)
      (asks : exchange.request = .release quest.taker.client)
      (underway : quest.Underway cluster parcels exchanges number set.qualifiers exchange)
      (freed : FreedLast record quest.job quest.taker.client quest.table number fun place =>
        Lingers parcels number place ∨ cluster.holdings quest.taker.client place = []) :
      Goes quest record cluster parcels exchanges number set (.goOn (.abandoning cause exchange))

theorem Underway.looked {progress : Exchange.Progress}
    (underway : quest.Underway cluster parcels exchanges number targets exchange)
    (looked : exchange.look? = some progress) :
    (∃ next, progress = .goOn { exchange with next } ∧
        quest.Underway cluster parcels exchanges number targets { exchange with next }) ∨
      quest.Quiet parcels ∧ transit number parcels = [] ∧
        ((∃ cause, progress = .finished (.error cause) ∧
            ∀ retries, cause ≠ .backoffExceeded retries) ∨
          progress = .finished (.ok exchange.collector.responses) ∧
            (exchange.collector.responses.map (·.1)).Perm targets) := by
  obtain ⟨landed, ⟨next, same, dispatch⟩ | outcome⟩ := underway.dispatch.looks looked
  · exact Or.inl ⟨next, same, underway.started, underway.belongs, underway.only, dispatch⟩
  · exact Or.inr ⟨underway.quiet landed, landed, outcome⟩

theorem Phase.goes {errand : Errand} {attempt : Attempt} {step : AttemptStep}
    (phase : quest.Phase record cluster parcels exchanges (.running errand))
    (names : (quest.table.map (·.1)).Nodup) (under : errand.attempt? = some attempt)
    (stepped : attempt.advance? = some step) :
    quest.Own errand ∧ attempt.client = quest.taker.client ∧
      quest.Goes record cluster parcels exchanges errand.exchange attempt.replicas step := by
  cases phase with
  | begins own idle quiet parting =>
      rw [idle] at under
      cases under
  | pauses own pausing table serves stage quiet =>
      rw [pausing] at under
      cases under
      cases stepped
      rw [← table] at names serves
      exact ⟨own, rfl, .tends table quiet (AttemptStep.resting_tends names serves stage)⟩
  | takes own taking table asks underway =>
      rw [taking] at under
      cases under
      refine ⟨own, rfl, ?_⟩
      obtain ⟨progress, looked, rfl⟩ := Option.map_eq_some_iff.mp stepped
      have answers := underway.dispatch.answers
      obtain ⟨next, rfl, underway⟩ | ⟨quiet, landed, ⟨cause, rfl, other⟩ | ⟨rfl, answered⟩⟩ :=
        underway.looked looked
      · exact .waits table asks underway
      · rw [← table] at names
        exact .tends table quiet
          (AttemptStep.failing_tends names fun retries same => absurd same (other retries))
      · rw [← table] at names asks answers
        exact .tends table quiet (AttemptStep.answered_tends names asks answered
          fun reply member => (answers reply member).2)
  | abandons own abandoning other asks underway freed =>
      rw [abandoning] at under
      cases under
      refine ⟨own, rfl, ?_⟩
      obtain ⟨progress, looked, rfl⟩ := Option.map_eq_some_iff.mp stepped
      have parted : transit errand.exchange parcels = [] →
          quest.Parting record cluster parcels exchanges := by
        intro landed
        rw [← List.append_nil record]
        refine .freed underway.started landed (freed.extend (by simp) (by simp) ?_)
        rintro place (⟨parcel, inside, number, _⟩ | nothing)
        · have member := mem_transit.mpr ⟨inside, number⟩
          rw [landed] at member
          cases member
        · exact nothing
      obtain ⟨next, rfl, underway⟩ | ⟨quiet, landed, ⟨cause, rfl, _⟩ | ⟨rfl, _⟩⟩ :=
        underway.looked looked
      · exact .frees other asks underway freed
      · exact .fails other quiet (parted landed)
      · exact .fails other quiet (parted landed)

theorem underway_posted {set : ReplicaSet} {request : Request} {handles : List Handle}
    (asked : set.fanOut targets request = .ok (exchange, handles)) (table : set.table = quest.table)
    (distinct : targets.Nodup) (belongs : request.Belongs quest.taker.client quest.pattern)
    (quiet : quest.Quiet parcels) (numbered : ∀ parcel ∈ parcels, parcel.exchange < exchanges)
    (clock : Nat) :
    quest.Underway cluster
      (parcels ++ handles.map fun handle =>
        { exchange := exchanges, handle, request := exchange.request, due := clock + handle.delay })
      (exchanges + 1) exchanges targets exchange := by
  have same : exchange.request = request := by rw [(ReplicaSet.fan_out_asks asked).1]
  refine ⟨Nat.lt_succ_self _, same ▸ belongs, ?_, ?_⟩
  · intro parcel member concerns
    rcases List.mem_append.mp member with old | new
    · exact absurd concerns (quiet parcel old)
    · obtain ⟨handle, _, rfl⟩ := List.mem_map.mp new
      rfl
  · rw [transit_posted (fun parcel member => Nat.ne_of_lt (numbered parcel member)), ← table]
    · exact Dispatch.just_posted exchanges clock asked distinct (Or.inl rfl)
        fun handle _ => .unsent rfl
    · intro parcel member
      obtain ⟨handle, _, rfl⟩ := List.mem_map.mp member
      rfl

theorem nowhere_held {set : ReplicaSet} (table : set.table = quest.table)
    (inside : ∀ place, place ∉ quest.table.map (·.2) →
      cluster.holdings quest.taker.client place = [])
    (nothing : ∀ row ∈ set.table, cluster.holdings quest.taker.client row.2 = []) :
    quest.HoldsNothing cluster := by
  intro place
  by_cases known : place ∈ quest.table.map (·.2)
  · obtain ⟨row, member, rfl⟩ := List.mem_map.mp known
    exact nothing row (table ▸ member)
  · exact inside place known

variable {network : Network} {errand : Errand} {set : ReplicaSet} {step : AttemptStep}
  {posted? : Option (List Parcel)}

theorem Phase.unposted
    (phase : quest.Phase record network.cluster network.parcels network.exchanges job) :
    quest.Phase (record ++ network.posting quest.job none) network.cluster
      (network.parcels ++ (none : Option (List Parcel)).getD [])
      (network.exchanges + if (none : Option (List Parcel)).isSome then 1 else 0) job := by
  rw [Network.posting, List.append_nil, Option.getD_none, List.append_nil]
  exact phase

/-- What the machine or a failure tends to is a phase once it is installed. -/
theorem tends_installed (table : set.table = quest.table) (quiet : quest.Quiet network.parcels)
    (tends : step.Tends set quest.taker (network.cluster.holdings quest.taker.client))
    (own : quest.Own errand) (numbered : network.Numbered)
    (names : (quest.table.map (·.1)).Nodup)
    (inside : ∀ place, place ∉ quest.table.map (·.2) →
      network.cluster.holdings quest.taker.client place = [])
    (installs : network.Installs errand set quest.taker.client step job posted?) :
    quest.Phase (record ++ network.posting quest.job posted?) network.cluster
      (network.parcels ++ posted?.getD [])
      (network.exchanges + if posted?.isSome then 1 else 0) job := by
  cases tends with
  | @abandons cause exchange other asked =>
      cases installs with
      | posted =>
          have asks : exchange.request = .release quest.taker.client := by
            rw [(ReplicaSet.fan_out_asks asked).1]
          have distinct : set.qualifiers.Nodup := by
            rw [set.qualifiers_eq, table]
            exact names
          refine .abandons ⟨own.session, own.operation⟩ rfl other asks
            (underway_posted asked table distinct .release quiet numbered network.clock)
            ⟨record, [], ?_, by simp, by simp⟩
          rw [← table]
          simp [Network.posting, ReplicaSet.table, asks, Function.comp_def]
  | exhausted nothing =>
      cases installs with
      | ended ends =>
          refine .unposted ?_
          cases ends with
          | finished => exact .ended quiet (nowhere_held table inside nothing)
          | retried retries transport => cases transport
  | takes nothing =>
      cases installs with
      | ended ends =>
          refine .unposted ?_
          cases ends with
          | finished => exact .ended quiet (nowhere_held table inside nothing)
  | pauses serves stage =>
      cases installs with
      | wentOn =>
          exact .unposted (.pauses ⟨own.session, own.operation⟩ rfl table (table ▸ serves) stage
            quiet)
  | @asks machine request exchange handles asks distinct asked =>
      cases installs with
      | posted =>
          have same : exchange.request = request := by rw [(ReplicaSet.fan_out_asks asked).1]
          rw [table, ← same] at asks
          exact .takes ⟨own.session, own.operation⟩ rfl table asks
            (underway_posted asked table distinct (same ▸ asks.belongs) quiet numbered
              network.clock)

theorem Goes.installed
    (goes : quest.Goes record network.cluster network.parcels network.exchanges errand.exchange set
      step)
    (own : quest.Own errand) (numbered : network.Numbered)
    (names : (quest.table.map (·.1)).Nodup)
    (inside : ∀ place, place ∉ quest.table.map (·.2) →
      network.cluster.holdings quest.taker.client place = [])
    (installs : network.Installs errand set quest.taker.client step job posted?) :
    quest.Phase (record ++ network.posting quest.job posted?) network.cluster
      (network.parcels ++ posted?.getD [])
      (network.exchanges + if posted?.isSome then 1 else 0) job := by
  cases goes with
  | tends table quiet tends =>
      exact tends_installed table quiet tends own numbered names inside installs
  | fails other quiet parting =>
      cases installs with
      | ended ends =>
          refine .unposted ?_
          cases ends with
          | finished => exact .ended quiet (parting.parts other)
          | retried retries transport =>
              exact .begins ⟨own.session, own.operation⟩ rfl quiet parting
  | waits table asks underway =>
      cases installs with
      | wentOn =>
          exact .unposted (.takes ⟨own.session, own.operation⟩ rfl table asks underway)
  | frees other asks underway freed =>
      cases installs with
      | wentOn =>
          exact .unposted (.abandons ⟨own.session, own.operation⟩ rfl other asks underway freed)

end Quest

end TupleSpace
