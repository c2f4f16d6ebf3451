import TupleSpace.Proofs.Dispatch
import TupleSpace.Proofs.JobMail

/-!
# What a take has removed

A take may share its client with other takes, which then free and remove what it believes to hold.
So a replica may refuse to remove the tuple that the take has chosen, and others carry the removal
out. But no take asks for a removal twice: once one was refused, it has failed for good.
-/

namespace TupleSpace

/-- The tuples that a job has had removed at a replica by whoever held them. -/
def removedFor (log : List Labour) (job place : Nat) : List String :=
  doneFor StoreEvent.committed? log job place

/-! ## Requests of a take -/

namespace Request

inductive Yields : Request → Except StoreError Answer → Option String → Prop
  | refused {request : Request} {cause : StoreError} : Yields request (.error cause) none
  | reserved {pattern : String} {client : ClientId} {tuples : List String} :
      Yields (.reserve pattern client) (.ok (.tuples tuples)) none
  | released {client : ClientId} : Yields (.release client) (.ok .done) none
  | removed {tuple : String} {client : ClientId} :
      Yields (.commit tuple client) (.ok .done) (some tuple)

variable {request : Request} {result : Except StoreError Answer} {removed? : Option String}

theorem Belongs.yields {client : ClientId} {source : String} {task : Task}
    (belongs : request.Belongs client source) (made : request.task = .ok task)
    (replica : Replica) :
    ∃ result removed?, (replica.step task).move = .finish result ∧
      (replica.step task).signals = [] ∧
      replica.event task = removed?.elim .quiet .committed ∧ request.Yields result removed? := by
  cases belongs with
  | reserve =>
      change (Pattern.parse source).map (.reserve · client) = .ok task at made
      cases parsed : Pattern.parse source with
      | error cause =>
          rw [parsed] at made
          cases made
      | ok pattern =>
          rw [parsed] at made
          cases made
          exact ⟨_, none, rfl, rfl, rfl, .reserved⟩
  | release =>
      cases made
      exact ⟨_, none, rfl, rfl, rfl, .released⟩
  | @commit tuple =>
      cases made
      cases done : replica.store.space.commit tuple client with
      | error cause =>
          exact ⟨.error cause, none, by simp [Replica.step, done], by simp [Replica.step, done],
            by simp [Replica.event, Replica.step, done], .refused⟩
      | ok space =>
          exact ⟨.ok .done, some tuple, by simp [Replica.step, done],
            by simp [Replica.step, done], by simp [Replica.event, Replica.step, done], .removed⟩

/-- Only a request for a removal has anything removed, and that is its own tuple. -/
theorem Yields.removal (yields : request.Yields result removed?) :
    removed? = none ∨ ∃ tuple client, request = .commit tuple client ∧ removed? = some tuple := by
  cases yields with
  | removed => exact Or.inr ⟨_, _, rfl, rfl⟩
  | _ => exact Or.inl rfl

end Request

/-! ## An exchange under way -/

/-- An exchange with all of its targets that a job has posted. All of the mail of the job is for
it. -/
structure Undertaking (record : List Deed) (job : Nat) (cluster : Cluster) (mail : List Parcel)
    (number : Nat) (table : List (String × Nat)) (idle : Nat → Prop)
    (settled : Nat → Except StoreError Answer → Prop) (targets : List String)
    (exchange : Exchange) : Prop where
  own : poster? record number = some job
  numbers : ∀ parcel ∈ mail, parcel.exchange = number
  any : exchange.expected? = none
  failures : ∀ cause ∈ exchange.collector.failures,
    ∃ replica source, cause = .rejected replica source
  dispatch : Dispatch table (Parcel.Bides cluster idle settled)
    (fun place answer => settled place (.ok answer)) mail targets exchange

namespace Undertaking

variable {record deeds : List Deed} {job number call : Nat} {cluster next : Cluster}
  {mail later rest : List Parcel} {table : List (String × Nat)} {idle still : Nat → Prop}
  {settled afterwards : Nat → Except StoreError Answer → Prop} {targets : List String}
  {exchange : Exchange} {parcel : Parcel} {result : Except StoreError Answer}

theorem spared
    (undertaking : Undertaking record job cluster mail number table idle settled targets exchange)
    (same : later.Perm mail) (spares : cluster.Spares next mail) :
    Undertaking (record ++ deeds) job next later number table idle settled targets exchange where
  own := poster_still undertaking.own
  numbers := fun parcel member => undertaking.numbers parcel (same.mem_iff.mp member)
  any := undertaking.any
  failures := undertaking.failures
  dispatch := by
    refine (undertaking.dispatch.mono ?_ fun _ _ _ _ _ => id).perm same.symm
    exact fun parcel member bides => bides.mono spares member id fun _ => id

theorem delivered
    (undertaking : Undertaking record job cluster mail number table idle settled targets exchange)
    (split : mail.Perm (parcel :: rest))
    (moved : later.Perm ({ parcel with state := .delivered call false } :: rest))
    (unsent : parcel.state = .unsent)
    (made : next.call? parcel.handle.node call = some (.ofTask parcel.request.task))
    (spares : cluster.Spares next rest)
    (refused : ∀ cause, idle parcel.handle.node → settled parcel.handle.node (.error cause)) :
    Undertaking (record ++ deeds) job next later number table idle settled targets exchange where
  own := poster_still undertaking.own
  numbers := fun other member => by
    rcases List.mem_cons.mp (moved.mem_iff.mp member) with rfl | old
    · exact undertaking.numbers parcel (split.mem_iff.mpr List.mem_cons_self)
    · exact undertaking.numbers other (split.mem_iff.mpr (List.mem_cons_of_mem _ old))
  any := undertaking.any
  failures := undertaking.failures
  dispatch := by
    have dispatch := undertaking.dispatch.perm split
    have bides := (dispatch.posted parcel List.mem_cons_self).2.2
    have there : Parcel.Bides next idle settled { parcel with state := .delivered call false } :=
      bides.delivered unsent made fun cause _ => refused cause
    refine ((dispatch.mono ?_ fun _ _ _ _ _ => id).changed _ there).perm moved.symm
    intro other member stands
    rcases List.mem_cons.mp member with rfl | old
    · exact .unsent unsent (stands.waits unsent)
    · exact stands.mono spares old id fun _ => id

theorem running {task : Task}
    (undertaking : Undertaking record job cluster mail number table idle settled targets exchange)
    (split : mail.Perm (parcel :: rest)) (state : parcel.state.call? = some call)
    (running : cluster.call? parcel.handle.node call = some (.running task)) :
    exchange.request.task = .ok task ∧ idle parcel.handle.node := by
  obtain ⟨request, _, bides⟩ :=
    undertaking.dispatch.posted parcel (split.mem_iff.mpr List.mem_cons_self)
  rw [← request]
  exact bides.of_running state running

theorem worked
    (undertaking : Undertaking record job cluster mail number table idle settled targets exchange)
    (places : (table.map (·.2)).Nodup) (split : mail.Perm (parcel :: rest))
    (state : parcel.state.call? = some call)
    (finished : next.call? parcel.handle.node call = some (.finished result))
    (spares : cluster.Spares next rest)
    (waiting : ∀ place, place ≠ parcel.handle.node → idle place → still place)
    (settling : ∀ place result, place ≠ parcel.handle.node → settled place result →
      afterwards place result)
    (here : afterwards parcel.handle.node result) :
    Undertaking (record ++ deeds) job next mail number table still afterwards targets
      exchange where
  own := poster_still undertaking.own
  numbers := undertaking.numbers
  any := undertaking.any
  failures := undertaking.failures
  dispatch := by
    have dispatch := undertaking.dispatch.perm split
    refine (dispatch.mono ?_ ?_).perm split.symm
    · intro other member stands
      rcases List.mem_cons.mp member with rfl | old
      · exact .finished state finished here
      · have elsewhere := dispatch.apart places old
        exact stands.mono spares old (waiting _ elsewhere) fun result => settling _ result elsewhere
    · intro reply member place answer row left
      exact settling place _ (dispatch.replied_apart places member row) left

theorem answered
    (undertaking : Undertaking record job cluster mail number table idle settled targets exchange)
    (split : mail.Perm (parcel :: rest)) (fewer : later.Perm rest)
    (state : parcel.state.call? = some call)
    (finished : cluster.call? parcel.handle.node call = some (.finished result)) :
    Undertaking (record ++ deeds) job cluster later number table idle settled targets
      (exchange.record parcel.handle.qualifier (.ok (parcel.request.reply result))) where
  own := poster_still undertaking.own
  numbers := fun other member =>
    undertaking.numbers other (split.mem_iff.mpr (List.mem_cons_of_mem _ (fewer.mem_iff.mp member)))
  any := undertaking.any
  failures := by
    intro cause member
    unfold Exchange.record Exchange.outcome at member
    cases result with
    | error source =>
        rcases List.mem_append.mp member with old | new
        · exact undertaking.failures cause old
        · exact ⟨_, _, List.mem_singleton.mp new⟩
    | ok answer =>
        simp only [Request.reply, Except.map, undertaking.any] at member
        exact undertaking.failures cause member
  dispatch := by
    have dispatch := undertaking.dispatch.perm split
    have bides := (dispatch.posted parcel List.mem_cons_self).2.2
    refine (dispatch.record ?_).perm fewer.symm
    intro response replied
    cases result with
    | error source => cases replied
    | ok answer =>
        cases replied
        exact ⟨answer, rfl, bides.of_finished state finished⟩

/-- Once all requests are answered, the exchange goes on, has failed with a rejection, or is over
with a reply from every replica that was asked. -/
theorem looks {progress : Exchange.Progress}
    (undertaking : Undertaking record job cluster mail number table idle settled targets exchange)
    (looked : exchange.look? = some progress) :
    mail = [] ∧
      ((∃ next, progress = .goOn { exchange with next } ∧
          Undertaking record job cluster mail number table idle settled targets
            { exchange with next }) ∨
        (∃ replica source, progress = .finished (.error (.rejected replica source))) ∨
        (progress = .finished (.ok exchange.collector.responses) ∧
          (exchange.collector.responses.map (·.1)).Perm targets)) := by
  obtain ⟨landed, ⟨look, rfl, dispatch⟩ | ⟨cause, rfl, _⟩ | replied⟩ :=
    undertaking.dispatch.looks looked
  · exact ⟨landed, Or.inl ⟨look, rfl, undertaking.own, undertaking.numbers, undertaking.any,
      undertaking.failures, dispatch⟩⟩
  · have failed : cause ∈ exchange.collector.failures := by
      unfold Exchange.look? at looked
      split at looked
      · split at looked <;> cases looked
      · split at looked
        · rename_i first
          cases looked
          exact List.mem_of_head? first
        · cases looked
      · cases looked
    obtain ⟨replica, source, rfl⟩ := undertaking.failures cause failed
    exact ⟨landed, Or.inr (Or.inl ⟨replica, source, rfl⟩)⟩
  · exact ⟨landed, Or.inr (Or.inr replied)⟩

theorem posted {set : ReplicaSet} {request : Request} {handles : List Handle} (clock : Nat)
    (own : poster? record number = some job)
    (asked : set.fanOut targets request = .ok (exchange, handles)) (distinct : targets.Nodup)
    (same : set.table = table) (waits : ∀ place, idle place) :
    Undertaking record job cluster
      (handles.map fun handle =>
        { exchange := number, handle, request := exchange.request, due := clock + handle.delay })
      number table idle settled targets exchange where
  own := own
  numbers := by
    intro parcel member
    obtain ⟨handle, _, rfl⟩ := List.mem_map.mp member
    rfl
  any := by rw [(ReplicaSet.fan_out_asks asked).1]
  failures := by
    rw [(ReplicaSet.fan_out_asks asked).1]
    simp
  dispatch := by
    subst same
    exact Dispatch.just_posted number clock asked distinct (Or.inl rfl)
      fun handle _ => .unsent rfl (waits _)

end Undertaking

/-! ## The job of a take -/

/-- What a take that has failed may have had removed: nothing, or one tuple at some replicas, if
another one refused to remove it. -/
def Loses (removed : Nat → List String) (cause : ClientError) : Prop :=
  (∀ place, removed place = []) ∨
    ∃ tuple replica source, cause = .rejected replica source ∧
      ∀ place, removed place = [] ∨ removed place = [tuple]

/-- What a take that has ended has had removed at the replicas of a table. -/
def Removes (table : List (String × Nat)) (removed : Nat → List String) :
    Except ClientError Outcome → Prop
  | .ok outcome => ∃ tuple, outcome = .tuple tuple ∧ ∀ row ∈ table, removed row.2 = [tuple]
  | .error cause => Loses removed cause

theorem Loses.nothing {removed : Nat → List String} {cause : ClientError}
    (loses : Loses removed cause) (transport : cause.isTransport = true) :
    ∀ place, removed place = [] := by
  rcases loses with nothing | ⟨_, _, _, rfl, _⟩
  · exact nothing
  · cases transport

def Labour.IsPlain (labour : Labour) : Prop :=
  (labour.replica.step labour.task).signals = [] ∧
    ∃ removed? : Option String,
      labour.replica.event labour.task = removed?.elim .quiet .committed

structure Errand.Takes (errand : Errand) (session : Nat) (taker : Taker) : Prop where
  session : errand.session = session
  operation : errand.operation = .take taker.pattern

/-- How far the job of a take has come. Only its removals have anything removed. -/
inductive TakeProgress (record : List Deed) (job : Nat) (cluster : Cluster) (mail : List Parcel)
    (removed : Nat → List String) (session : Nat) (taker : Taker) (table : List (String × Nat)) :
    Job → Prop
  | begins {errand : Errand} (takes : errand.Takes session taker)
      (idle : errand.attempt? = none) (unsent : mail = [])
      (nothing : ∀ place, removed place = []) :
      TakeProgress record job cluster mail removed session taker table (.running errand)
  | pauses {errand : Errand} {set : ReplicaSet} {machine : TakeMachine} {pause : Pause}
      (takes : errand.Takes session taker)
      (attempt : errand.attempt? = some ⟨set, taker.client, .pausing machine pause⟩)
      (same : set.table = table) (serves : machine.Serves taker (table.map (·.1)))
      (stage : machine.stage = .reserve) (unsent : mail = [])
      (nothing : ∀ place, removed place = []) :
      TakeProgress record job cluster mail removed session taker table (.running errand)
  | asks {errand : Errand} {set : ReplicaSet} {machine : TakeMachine} {exchange : Exchange}
      (takes : errand.Takes session taker)
      (attempt : errand.attempt? = some ⟨set, taker.client, .taking machine exchange⟩)
      (same : set.table = table) (asks : machine.Asks taker table (fun _ => []) exchange.request)
      (far : ∀ place, removed place = [] ∨
        ∃ tuple client, exchange.request = .commit tuple client ∧ removed place = [tuple])
      (undertaking : Undertaking record job cluster mail errand.exchange table
        (fun place => removed place = [])
        (fun place result => ∃ removed?, exchange.request.Yields result removed? ∧
          removed place = removed?.toList) machine.awaiting exchange) :
      TakeProgress record job cluster mail removed session taker table (.running errand)
  | abandons {errand : Errand} {set : ReplicaSet} {cause : ClientError} {exchange : Exchange}
      (takes : errand.Takes session taker)
      (attempt : errand.attempt? = some ⟨set, taker.client, .abandoning cause exchange⟩)
      (request : exchange.request = .release taker.client) (loses : Loses removed cause)
      (undertaking : Undertaking record job cluster mail errand.exchange table (fun _ => True)
        (fun _ _ => True) set.qualifiers exchange) :
      TakeProgress record job cluster mail removed session taker table (.running errand)
  | ended {result : Except ClientError Outcome} (answered : mail = [])
      (removes : Removes table removed result) :
      TakeProgress record job cluster mail removed session taker table (.finished result)

namespace TakeProgress

variable {record deeds : List Deed} {job session call : Nat} {cluster next : Cluster}
  {mail later rest : List Parcel} {removed after : Nat → List String} {taker : Taker}
  {table : List (String × Nat)} {own : Job} {parcel : Parcel}

theorem undisturbed (progress : TakeProgress record job cluster mail removed session taker table own)
    {exchange : Nat} (other : poster? record exchange ≠ some job) (replica : String)
    (answer : Except TransportError Reply) : own.record exchange replica answer = own := by
  have elsewhere : ∀ errand : Errand, poster? record errand.exchange = some job →
      errand.record exchange replica answer = errand := by
    intro errand posted
    rw [Errand.record, if_neg]
    rintro rfl
    exact other posted
  cases progress with
  | begins takes idle => rw [Job.record, Network.record_idle idle]
  | pauses takes attempt =>
      rename_i errand set machine pause _ _ _ _ _
      obtain ⟨_, _, _, _, _, _, _⟩ := errand
      cases attempt
      rw [Job.record, Errand.record]
      split <;> rfl
  | asks takes attempt same asks far undertaking => rw [Job.record, elsewhere _ undertaking.own]
  | abandons takes attempt request loses undertaking =>
      rw [Job.record, elsewhere _ undertaking.own]
  | ended => rfl

theorem idle {errand : Errand}
    (progress : TakeProgress record job cluster mail removed session taker table (.running errand))
    (idle : errand.attempt? = none) :
    errand.Takes session taker ∧ mail = [] ∧ ∀ place, removed place = [] := by
  cases progress with
  | begins takes _ unsent nothing => exact ⟨takes, unsent, nothing⟩
  | pauses _ attempt =>
      rw [idle] at attempt
      cases attempt
  | asks _ attempt =>
      rw [idle] at attempt
      cases attempt
  | abandons _ attempt =>
      rw [idle] at attempt
      cases attempt

theorem row (progress : TakeProgress record job cluster mail removed session taker table own)
    (inside : parcel ∈ mail) : (parcel.handle.qualifier, parcel.handle.node) ∈ table := by
  cases progress with
  | begins _ _ none => simp [none] at inside
  | pauses _ _ _ _ _ none => simp [none] at inside
  | ended none => simp [none] at inside
  | asks _ _ _ _ _ undertaking => exact (undertaking.dispatch.posted parcel inside).2.1
  | abandons _ _ _ _ undertaking => exact (undertaking.dispatch.posted parcel inside).2.1

theorem spared (progress : TakeProgress record job cluster mail removed session taker table own)
    (same : later.Perm mail) (spares : cluster.Spares next mail) :
    TakeProgress (record ++ deeds) job next later removed session taker table own := by
  have empty : mail = [] → later = [] := by
    rintro rfl
    exact same.eq_nil
  cases progress with
  | begins takes idle unsent nothing => exact .begins takes idle (empty unsent) nothing
  | pauses takes attempt table serves stage unsent nothing =>
      exact .pauses takes attempt table serves stage (empty unsent) nothing
  | asks takes attempt table asks far undertaking =>
      exact .asks takes attempt table asks far (undertaking.spared same spares)
  | abandons takes attempt request loses undertaking =>
      exact .abandons takes attempt request loses (undertaking.spared same spares)
  | ended answered removes => exact .ended (empty answered) removes

theorem delivered (progress : TakeProgress record job cluster mail removed session taker table own)
    (split : mail.Perm (parcel :: rest))
    (moved : later.Perm ({ parcel with state := .delivered call false } :: rest))
    (unsent : parcel.state = .unsent)
    (made : next.call? parcel.handle.node call = some (.ofTask parcel.request.task))
    (spares : cluster.Spares next rest) :
    TakeProgress (record ++ deeds) job next later removed session taker table own := by
  have some : mail ≠ [] := by
    rintro rfl
    exact absurd split.nil_eq (by simp)
  cases progress with
  | begins _ _ none => exact absurd none some
  | pauses _ _ _ _ _ none => exact absurd none some
  | ended none => exact absurd none some
  | asks takes attempt table asks far undertaking =>
      refine .asks takes attempt table asks far
        (undertaking.delivered split moved unsent made spares ?_)
      exact fun cause waits => ⟨none, .refused, waits⟩
  | abandons takes attempt request loses undertaking =>
      exact .abandons takes attempt request loses
        (undertaking.delivered split moved unsent made spares fun _ => id)

theorem worked (progress : TakeProgress record job cluster mail removed session taker table own)
    {replica : Replica} {task : Task} (places : (table.map (·.2)).Nodup)
    (split : mail.Perm (parcel :: rest)) (state : parcel.state.call? = some call)
    (running : cluster.call? parcel.handle.node call = some (.running task))
    (moved : next.call? parcel.handle.node call =
      some ((CallState.ofMove task (replica.step task).move).woken (replica.step task).signals))
    (spares : cluster.Spares next rest)
    (grown : ∀ place, after place = removed place ++
      if parcel.handle.node = place then (replica.event task).committed?.toList else []) :
    TakeProgress (record ++ deeds) job next mail after session taker table own ∧
      Labour.IsPlain ⟨some job, parcel.handle.node, replica, task⟩ := by
  have some : mail ≠ [] := by
    rintro rfl
    exact absurd split.nil_eq (by simp)
  have elsewhere : ∀ place, place ≠ parcel.handle.node → after place = removed place := by
    intro place apart
    rw [grown, if_neg (Ne.symm apart), List.append_nil]
  cases progress with
  | begins _ _ none => exact absurd none some
  | pauses _ _ _ _ _ none => exact absurd none some
  | ended none => exact absurd none some
  | asks takes attempt table asks far undertaking =>
      obtain ⟨made, waits⟩ := undertaking.running split state running
      obtain ⟨result, removed?, finish, silent, event, yields⟩ := asks.belongs.yields made replica
      have here : after parcel.handle.node = removed?.toList := by
        rw [grown, if_pos rfl, waits, event]
        cases removed? <;> rfl
      rw [finish] at moved
      refine ⟨.asks takes attempt table asks ?_ ?_, silent, removed?, event⟩
      · intro place
        by_cases there : place = parcel.handle.node
        · subst there
          rw [here]
          rcases yields.removal with rfl | ⟨tuple, client, request, rfl⟩
          · exact Or.inl rfl
          · exact Or.inr ⟨tuple, client, request, rfl⟩
        · rw [elsewhere place there]
          exact far place
      · refine undertaking.worked places split state moved spares ?_ ?_ ⟨removed?, yields, here⟩
        · exact fun place apart waits => (elsewhere place apart).trans waits
        · rintro place result apart ⟨removed?, yields, known⟩
          exact ⟨removed?, yields, (elsewhere place apart).trans known⟩
  | @abandons _ _ _ exchange takes attempt request loses undertaking =>
      obtain ⟨made, _⟩ := undertaking.running split state running
      have belongs : exchange.request.Belongs taker.client taker.pattern := by
        rw [request]
        exact .release
      obtain ⟨result, removed?, finish, silent, event, yields⟩ := belongs.yields made replica
      have nothing : removed? = none := by
        rcases yields.removal with none | ⟨tuple, client, other, _⟩
        · exact none
        · rw [request] at other
          cases other
      subst nothing
      have same : after = removed := by
        funext place
        rw [grown, event]
        simp [StoreEvent.committed?]
      rw [finish] at moved
      refine ⟨.abandons takes attempt request (same ▸ loses) ?_, silent, none, event⟩
      exact undertaking.worked places split state moved spares (fun _ _ => id) (fun _ _ _ => id)
        trivial

theorem answered (progress : TakeProgress record job cluster mail removed session taker table own)
    {result : Except StoreError Answer} (split : mail.Perm (parcel :: rest))
    (fewer : later.Perm rest) (state : parcel.state.call? = some call)
    (finished : cluster.call? parcel.handle.node call = some (.finished result)) :
    TakeProgress (record ++ deeds) job cluster later removed session taker table
      (own.record parcel.exchange parcel.handle.qualifier
        (.ok (parcel.request.reply result))) := by
  have inside : parcel ∈ mail := split.mem_iff.mpr List.mem_cons_self
  cases progress with
  | begins _ _ none => simp [none] at inside
  | pauses _ _ _ _ _ none => simp [none] at inside
  | ended none => simp [none] at inside
  | asks takes attempt table asks far undertaking =>
      rw [undertaking.numbers parcel inside, Job.record, Errand.record, if_pos rfl, attempt]
      exact .asks ⟨takes.session, takes.operation⟩ rfl table asks far
        (undertaking.answered split fewer state finished)
  | abandons takes attempt request loses undertaking =>
      rw [undertaking.numbers parcel inside, Job.record, Errand.record, if_pos rfl, attempt]
      exact .abandons ⟨takes.session, takes.operation⟩ rfl request loses
        (undertaking.answered split fewer state finished)

end TakeProgress

/-! ## Steps of a take -/

namespace AttemptStep

variable {set : ReplicaSet} {taker : Taker} {machine : TakeMachine} {locked : Holdings}
  {replies : List (String × Response)}

theorem failing_abandons (names : (set.table.map (·.1)).Nodup) (client : ClientId)
    {cause : ClientError} (other : ∀ retries, cause ≠ .backoffExceeded retries) :
    ∃ exchange, set.fanOut set.qualifiers (.release client) = .ok (exchange, set.handles) ∧
      failingTake set client cause =
        .post (.abandoning cause exchange) exchange.request set.handles := by
  obtain ⟨exchange, asked⟩ := set.fan_out_all (set.qualifiers_eq ▸ names) (.release client)
  refine ⟨exchange, asked, ?_⟩
  unfold failingTake
  split
  · exact absurd rfl (other _)
  · rw [abandoning, asked]

theorem failing_untaken (set : ReplicaSet) (client : ClientId) (cause : ClientError)
    (outcome : Outcome) : failingTake set client cause ≠ .ended (.ok outcome) := by
  unfold failingTake abandoning
  split
  · simp [failing]
  · split <;> simp [failing]

theorem driving_untaken
    (decision : TakeMachine.Decision taker (set.table.map (·.1)) locked (machine.step replies))
    (outcome : Outcome) : driving set machine replies ≠ .ended (.ok outcome) := by
  unfold driving
  generalize machine.step replies = decided at decision
  cases decision with
  | fails whose => exact failing_untaken set _ _ outcome
  | pauses serves stage kept => simp
  | _ =>
      dsimp only
      split
      · simp
      · exact failing_untaken set _ _ outcome

end AttemptStep

/-- What a take goes on with that has not had anything removed. -/
structure AttemptStep.GoesOn (set : ReplicaSet) (taker : Taker) (step : AttemptStep) : Prop where
  tends : step.Tends set taker fun _ => []
  untaken : ∀ outcome, step ≠ .ended (.ok outcome)

namespace AttemptStep

variable {set : ReplicaSet} {taker : Taker} {machine : TakeMachine} {locked : Holdings}
  {request : Request} {replies : List (String × Response)}

theorem driving_goes_on (names : (set.table.map (·.1)).Nodup)
    (decision : TakeMachine.Decision taker (set.table.map (·.1)) locked (machine.step replies)) :
    (driving set machine replies).GoesOn set taker where
  tends := driving_tends names decision (fun _ _ _ _ _ _ _ => rfl) fun _ _ _ _ _ => rfl
  untaken := driving_untaken decision

theorem taking_goes_on (names : (set.table.map (·.1)).Nodup) :
    (∃ cause, taking set taker.client taker.policy taker.pattern = .failing (.invalid cause)) ∨
      (taking set taker.client taker.policy taker.pattern).GoesOn set taker := by
  unfold taking
  split
  · exact Or.inl ⟨_, rfl⟩
  · have serves : (taker.machine set.qualifiers).Serves taker (set.table.map (·.1)) :=
      ⟨rfl, rfl, set.qualifiers_eq, rfl⟩
    exact Or.inr (driving_goes_on names (TakeMachine.step_from_reserve serves rfl))

end AttemptStep

theorem offers_given {replies : List (String × Response)}
    (reserved : ∀ reply ∈ replies, ∃ tuples, reply.2 = .reserved tuples) :
    ∃ offers : List (String × List String),
      replies = offers.map fun offer => (offer.1, .reserved offer.2) := by
  induction replies with
  | nil => exact ⟨[], rfl⟩
  | cons reply rest induction =>
      obtain ⟨tuples, same⟩ := reserved reply List.mem_cons_self
      obtain ⟨offers, rfl⟩ := induction fun other member =>
        reserved other (List.mem_cons_of_mem _ member)
      exact ⟨(reply.1, tuples) :: offers, by rw [List.map_cons, ← same]⟩

theorem TakeMachine.Asks.loses {machine : TakeMachine} {taker : Taker}
    {table : List (String × Nat)} {held removed : Nat → List String} {request : Request}
    (asks : machine.Asks taker table held request)
    (far : ∀ place, removed place = [] ∨
      ∃ tuple client, request = .commit tuple client ∧ removed place = [tuple])
    (replica : String) (source : StoreError) : Loses removed (.rejected replica source) := by
  cases asks with
  | @removal tuple =>
      refine Or.inr ⟨tuple, replica, source, rfl, fun place => (far place).imp_right ?_⟩
      rintro ⟨_, _, same, removed⟩
      cases same
      exact removed
  | _ =>
      refine Or.inl fun place => (far place).resolve_right ?_
      rintro ⟨_, _, other, _⟩
      cases other

/-- With a reply from every replica that was asked, a take goes on, or it has had its tuple removed
everywhere. -/
theorem TakeMachine.Asks.replied {set : ReplicaSet} {taker : Taker} {machine : TakeMachine}
    {request : Request} {replies : List (String × Response)} {removed : Nat → List String}
    (asks : machine.Asks taker set.table (fun _ => []) request)
    (names : (set.table.map (·.1)).Nodup)
    (answered : (replies.map (·.1)).Perm machine.awaiting)
    (yielded : ∀ reply ∈ replies, ∃ place answer, (reply.1, place) ∈ set.table ∧
      reply.2 = request.response answer ∧
      ∃ removed?, request.Yields (.ok answer) removed? ∧ removed place = removed?.toList) :
    (AttemptStep.driving set machine replies).GoesOn set taker ∧
        (∀ tuple client, request ≠ .commit tuple client) ∨
      ∃ tuple, AttemptStep.driving set machine replies = .ended (.ok (.tuple tuple)) ∧
        ∀ row ∈ set.table, removed row.2 = [tuple] := by
  cases asks with
  | reservations serves stage asked =>
      obtain ⟨offers, rfl⟩ := offers_given fun reply member => by
        obtain ⟨place, answer, _, same, _, yields, _⟩ := yielded reply member
        cases yields
        exact ⟨_, same⟩
      have given : (offers.map (·.1)).Perm machine.awaiting := by
        simpa [List.map_map, Function.comp_def] using answered
      exact Or.inl ⟨AttemptStep.driving_goes_on names
        (TakeMachine.step_from_reserving serves stage given), by simp⟩
  | release serves stage nothing others =>
      have acknowledged : ∀ reply ∈ replies, reply.2.isAcknowledgement = true := by
        intro reply member
        obtain ⟨place, answer, _, same, _⟩ := yielded reply member
        rw [same]
        rfl
      exact Or.inl ⟨AttemptStep.driving_goes_on names
        (TakeMachine.step_from_releasing serves stage nothing answered acknowledged), by simp⟩
  | @removal tuple serves stage chosen asked =>
      have acknowledged : ∀ reply ∈ replies, reply.2.isAcknowledgement = true := by
        intro reply member
        obtain ⟨place, answer, _, same, _⟩ := yielded reply member
        rw [same]
        rfl
      have taken := TakeMachine.step_from_committing stage chosen answered acknowledged
      refine Or.inr ⟨tuple, ?_, fun row member => ?_⟩
      · unfold AttemptStep.driving
        rw [show machine.step replies = ((machine.step replies).1, .ok (.taken tuple)) from
          Prod.ext rfl taken]
      · have known : row.1 ∈ replies.map (·.1) := by
          rw [answered.mem_iff, asked]
          exact List.mem_map_of_mem member
        obtain ⟨reply, inside, name⟩ := List.mem_map.mp known
        obtain ⟨place, answer, there, _, removed?, yields, same⟩ := yielded reply inside
        have here : place = row.2 :=
          congrArg Prod.snd (List.inj_on_of_nodup_map names there member name)
        subst here
        cases yields
        exact same

namespace Network

variable {network after first : Network} {record deeds : List Deed} {log labours : List Labour}
  {job session index : Nat} {cluster : Cluster} {mail later : List Parcel}
  {removed grown : Nat → List String} {taker : Taker} {table : List (String × Nat)} {own : Job}
  {errand : Errand} {set : ReplicaSet} {step : AttemptStep} {posted? : Option (List Parcel)}

theorem Ends.take_fails {cause : ClientError} (ends : Ends errand (.error cause) own)
    (takes : errand.Takes session taker) (loses : Loses removed cause) :
    TakeProgress record job cluster [] removed session taker table own := by
  cases ends with
  | finished => exact .ended rfl loses
  | retried retries transport =>
      exact .begins ⟨takes.session, takes.operation⟩ rfl rfl (loses.nothing transport)

theorem Installs.take_abandons {cause : ClientError} {exchange : Exchange}
    (installs : Installs network errand set taker.client
      (.post (.abandoning cause exchange) exchange.request set.handles) own posted?)
    (asked : set.fanOut set.qualifiers (.release taker.client) = .ok (exchange, set.handles))
    (takes : errand.Takes session taker) (same : set.table = table)
    (names : (table.map (·.1)).Nodup)
    (posts : posted?.isSome → poster? record network.exchanges = some job)
    (loses : Loses removed cause) :
    TakeProgress record job cluster (posted?.getD []) removed session taker table own := by
  cases installs with
  | posted =>
      have distinct : set.qualifiers.Nodup := by
        rw [set.qualifiers_eq, same]
        exact names
      refine .abandons ⟨takes.session, takes.operation⟩ rfl ?_ loses
        (.posted network.clock (posts rfl) asked distinct same fun _ => trivial)
      rw [(ReplicaSet.fan_out_asks asked).1]

theorem Installs.take_goes
    (installs : Installs network errand set taker.client step own posted?)
    (goes : step.GoesOn set taker) (takes : errand.Takes session taker)
    (same : set.table = table) (names : (table.map (·.1)).Nodup)
    (posts : posted?.isSome → poster? record network.exchanges = some job)
    (nothing : ∀ place, removed place = []) :
    TakeProgress record job cluster (posted?.getD []) removed session taker table own := by
  obtain ⟨tends, untaken⟩ := goes
  cases tends with
  | abandons other asked =>
      exact installs.take_abandons asked takes same names posts (Or.inl nothing)
  | exhausted =>
      cases installs with
      | ended ends => exact ends.take_fails takes (Or.inl nothing)
  | takes => exact absurd rfl (untaken _)
  | pauses serves stage =>
      cases installs with
      | wentOn =>
          exact .pauses ⟨takes.session, takes.operation⟩ rfl same (same ▸ serves) stage rfl nothing
  | @asks machine request exchange handles asks distinct asked =>
      cases installs with
      | posted =>
          have request : exchange.request = request := by rw [(ReplicaSet.fan_out_asks asked).1]
          rw [same, ← request] at asks
          exact .asks ⟨takes.session, takes.operation⟩ rfl same asks
            (fun place => Or.inl (nothing place))
            (.posted network.clock (posts rfl) asked distinct same nothing)

theorem Installs.take_steps {attempt : Attempt}
    (progress : TakeProgress record job network.cluster mail removed session taker table
      (.running errand)) (under : errand.attempt? = some attempt)
    (stepped : attempt.advance? = some step)
    (installs : Installs network errand attempt.replicas attempt.client step own posted?)
    (names : (table.map (·.1)).Nodup)
    (posts : posted?.isSome → poster? (record ++ deeds) network.exchanges = some job) :
    TakeProgress (record ++ deeds) job network.cluster (mail ++ posted?.getD []) removed session
      taker table own := by
  cases progress with
  | begins _ idle =>
      rw [idle] at under
      cases under
  | pauses takes attempt same serves stage unsent nothing =>
      rw [attempt] at under
      cases under
      cases stepped
      subst unsent
      have goes := AttemptStep.driving_goes_on (same ▸ names)
        (TakeMachine.step_from_reserve (same ▸ serves) stage)
      exact installs.take_goes goes takes same names posts nothing
  | asks takes attempt same asks far undertaking =>
      rw [attempt] at under
      cases under
      obtain ⟨progress, looked, rfl⟩ := Option.map_eq_some_iff.mp stepped
      have answers := undertaking.dispatch.answers
      obtain ⟨landed, ⟨look, rfl, waiting⟩ | ⟨replica, source, rfl⟩ | ⟨rfl, answered⟩⟩ :=
        undertaking.looks looked
      · subst landed
        cases installs with
        | wentOn =>
            exact .asks ⟨takes.session, takes.operation⟩ rfl same asks far
              (waiting.spared (.refl _) (.refl _ _))
      · subst landed
        have other : ∀ retries, ClientError.rejected replica source ≠ .backoffExceeded retries := by
          simp
        obtain ⟨exchange, asked, failing⟩ :=
          AttemptStep.failing_abandons (same ▸ names) taker.client other
        dsimp only at installs
        rw [failing] at installs
        exact installs.take_abandons asked takes same names posts (asks.loses far _ _)
      · subst landed
        rw [← same] at asks names answers
        obtain ⟨goes, other⟩ | ⟨tuple, taken, removes⟩ := asks.replied names answered
          fun reply member => (answers reply member).2
        · refine installs.take_goes goes takes same (same ▸ names) posts fun place => ?_
          rcases far place with none | ⟨tuple, client, request, _⟩
          · exact none
          · exact absurd request (other tuple client)
        · dsimp only at installs
          rw [taken] at installs
          cases installs with
          | ended ends =>
              cases ends with
              | finished => exact .ended rfl ⟨tuple, rfl, same ▸ removes⟩
  | abandons takes attempt request loses undertaking =>
      rw [attempt] at under
      cases under
      obtain ⟨progress, looked, rfl⟩ := Option.map_eq_some_iff.mp stepped
      obtain ⟨landed, ⟨look, rfl, waiting⟩ | ⟨replica, source, rfl⟩ | ⟨rfl, _⟩⟩ :=
        undertaking.looks looked
      · subst landed
        cases installs with
        | wentOn =>
            exact .abandons ⟨takes.session, takes.operation⟩ rfl request loses
              (waiting.spared (.refl _) (.refl _ _))
      · subst landed
        cases installs with
        | ended ends => exact ends.take_fails takes loses
      · subst landed
        cases installs with
        | ended ends => exact ends.take_fails takes loses

theorem Advances.take_goes (advances : Advances network job own posted?)
    (progress : ∃ before, network.jobs[job]? = some before ∧
      TakeProgress record job network.cluster mail removed session taker table before)
    (names : (table.map (·.1)).Nodup)
    (finds : ∀ found, network.sessions[session]? = some found → network.Finds found table ∧
      found.client = taker.client ∧ found.config.take.policy = taker.policy)
    (posts : posted?.isSome → poster? (record ++ deeds) network.exchanges = some job) :
    TakeProgress (record ++ deeds) job network.cluster (mail ++ posted?.getD []) removed session
      taker table own := by
  obtain ⟨before, there, progress⟩ := progress
  cases advances with
  | woke found =>
      rw [found] at there
      cases there
      cases progress
  | unresolved found idle _ ends =>
      rw [found] at there
      cases there
      obtain ⟨takes, rfl, nothing⟩ := progress.idle idle
      exact ends.take_fails takes (Or.inl nothing)
  | began found idle known same installs =>
      rw [found] at there
      cases there
      obtain ⟨takes, rfl, nothing⟩ := progress.idle idle
      obtain ⟨finds, client, policy⟩ := finds _ (takes.session ▸ known)
      have same := same _ finds
      rw [client, policy, takes.operation, Attempt.start] at installs
      rcases AttemptStep.taking_goes_on (same ▸ names) with ⟨cause, refused⟩ | goes
      · rw [refused] at installs
        cases installs with
        | ended ends => exact ends.take_fails takes (Or.inl nothing)
      · exact installs.take_goes goes takes same names posts nothing
  | advanced found under stepped installs =>
      rw [found] at there
      cases there
      exact installs.take_steps progress under stepped names posts

theorem Affects.take_goes (affects : network.Affects after record deeds job mail later labours)
    (progress : ∃ before, network.jobs[job]? = some before ∧ TakeProgress record job
      network.cluster mail (removedFor log job) session taker table before)
    (names : (table.map (·.1)).Nodup) (places : (table.map (·.2)).Nodup)
    (finds : ∀ found, network.sessions[session]? = some found → network.Finds found table ∧
      found.client = taker.client ∧ found.config.take.policy = taker.policy)
    (reached : ∀ row ∈ table, network.cluster.Reaches row.2) :
    (∃ own, after.jobs[job]? = some own ∧ TakeProgress (record ++ deeds) job after.cluster later
      (removedFor (log ++ labours) job) session taker table own) ∧
      ∀ labour ∈ labours, labour.job? = some job → labour.IsPlain := by
  obtain ⟨before, there, progress⟩ := progress
  cases affects with
  | apart same spares others still =>
      have nothing : removedFor (log ++ labours) job = removedFor log job := by
        funext place
        rw [removedFor, done_append, done_nothing others, List.append_nil]
        rfl
      rw [nothing]
      refine ⟨⟨before, ?_, progress.spared same spares⟩,
        fun labour member own => absurd own (others labour member)⟩
      rcases still with still | ⟨exchange, replica, answer, other, told⟩
      · exact still.trans there
      · rw [told, there, Option.map_some, progress.undisturbed other]
  | refused inside away => exact absurd (reached _ (progress.row inside)) away
  | delivered split moved made spares unsent still =>
      rw [List.append_nil]
      exact ⟨⟨_, still.trans there, progress.delivered split moved unsent made spares⟩, by simp⟩
  | @worked parcel rest call replica task split same state running moved spares still =>
      subst same
      have grown : ∀ place, removedFor (log ++ [⟨some job, parcel.handle.node, replica, task⟩])
          job place = removedFor log job place ++
            if parcel.handle.node = place then (replica.event task).committed?.toList else [] :=
        fun place => by rw [removedFor, done_append, done_one, removedFor]
      obtain ⟨goes, plain⟩ := progress.worked places split state running moved spares grown
      refine ⟨⟨_, still.trans there, goes⟩, fun labour member _ => ?_⟩
      rw [List.mem_singleton.mp member]
      exact plain
  | received split fewer state finished same told =>
      rw [List.append_nil, same]
      rw [there, Option.map_some] at told
      exact ⟨⟨_, told, progress.answered split fewer state finished⟩, by simp⟩
  | advanced advances now posted posts same =>
      rw [List.append_nil, same]
      subst posted
      exact ⟨⟨_, now, advances.take_goes ⟨before, there, progress⟩ names finds posts⟩, by simp⟩

/-- The job of a take is on its way or has ended, and replicas have only been asked for what takes
ask for. -/
structure Taking (job session : Nat) (taker : Taker) (table : List (String × Nat))
    (network : Network) (record : List Deed) (log : List Labour) : Prop where
  progress : ∃ own, network.jobs[job]? = some own ∧ TakeProgress record job network.cluster
    (TupleSpace.mail record job network.parcels) (removedFor log job) session taker table own
  plain : ∀ labour ∈ log, labour.job? = some job → labour.IsPlain

namespace Taking

variable {found : Session} (stems : first.Stems network record log)
  (there : first.sessions[index]? = some found)
include stems there

theorem of_begins {own : Job} {sequencer : Sequencer} {next : Network}
    (quorum : found.config.takeMode = .quorum) {pattern : String}
    (begins : Begins network index (.take pattern) own sequencer)
    (adds : network.Adds next own sequencer) (last : network.jobs.length = job)
    (operation? : Option Operation) :
    Taking job index ⟨found.client, pattern, found.config.take.policy⟩ table next
      (record ++ [.begins job index (.take pattern) operation?]) log := by
  have nothing : ∀ place, removedFor log job place = [] := fun place =>
    stems.traceable.done_before (Nat.le_of_eq last) _ place
  refine ⟨⟨own, by simp [adds.jobs, ← last], ?_⟩, fun labour member mine => ?_⟩
  · rw [stems.traceable.mail_begun (Nat.le_of_eq last)]
    cases begins with
    | @ended _ result delays =>
        cases result with
        | error cause => exact .ended rfl (Or.inl nothing)
        | ok outcome =>
            obtain ⟨_, _, other⟩ := delays outcome rfl
            cases other
    | takes => exact .begins ⟨rfl, rfl⟩ rfl rfl nothing
    | takesInOrder known sequenced =>
        rw [(stems.continues there known).config, quorum] at sequenced
        cases sequenced
  · have known := stems.traceable.employed labour member job mine
    omega

theorem befalls {next : Network} {deeds : List Deed} {labours : List Labour} {pattern : String}
    (fixed : first.IsFixed found table) (reached : ∀ row ∈ table, first.cluster.Reaches row.2)
    (known : job < network.jobs.length) (befalls : network.Befalls record deeds labours next)
    (taking : Taking job index ⟨found.client, pattern, found.config.take.policy⟩ table network
      record log) :
    Taking job index ⟨found.client, pattern, found.config.take.policy⟩ table next
      (record ++ deeds) (log ++ labours) := by
  have goes := (stems.traceable.affects befalls known).take_goes taking.progress fixed.names
    fixed.places
    (fun later here =>
      have continues := stems.continues there here
      ⟨continues.finds table fixed.finds, continues.client, by rw [continues.config]⟩)
    fun row member => stems.reaches _ (reached row member)
  refine ⟨goes.1, fun labour member mine => ?_⟩
  rcases List.mem_append.mp member with old | new
  · exact taking.plain labour old mine
  · exact goes.2 labour new mine

end Taking

/-- A take by quorum that has succeeded has had its tuple removed once at every replica. One that
has failed has had nothing removed, unless a replica rejected its removal: then the others may have
lost one copy of one tuple each. -/
theorem Chronicle.take_removes {last : Network} {found : Session} {pattern : String}
    {operation? : Option Operation} (chronicle : Chronicle first record log last)
    (faultless : first.faults = []) (still : first.parcels = [])
    (there : first.sessions[index]? = some found) (quorum : found.config.takeMode = .quorum)
    (fixed : first.IsFixed found table) (reached : ∀ row ∈ table, first.cluster.Reaches row.2)
    (begun : .begins job index (.take pattern) operation? ∈ record) :
    (∀ result, last.jobs[job]? = some (.finished result) →
        Removes table (removedFor log job) result) ∧
      ∀ labour ∈ log, labour.job? = some job → labour.IsPlain := by
  have finish : Taking job index ⟨found.client, pattern, found.config.take.policy⟩ table last
      record log := by
    refine chronicle.kept_from_begin (Taking job index _ table) faultless still begun ?_ ?_
    · intro network next record log own sequencer stems begins adds last
      exact .of_begins stems there quorum begins adds last _
    · intro network next record deeds log labours stems known befalls taking
      exact .befalls stems there fixed reached known befalls taking
  obtain ⟨own, known, progress⟩ := finish.progress
  refine ⟨fun result ended => ?_, finish.plain⟩
  rw [ended] at known
  cases known
  cases progress with
  | ended answered removes => exact removes

end Network

end TupleSpace
