import TupleSpace.Proofs.Dispatch
import TupleSpace.Proofs.NumberedTakes
import TupleSpace.Proofs.OtherJobs

/-!
# Queries under numbers

A job that carries out a query under a number asks every replica and waits for every answer. Each
answer tells what came of the number at the replica, now or when the query was asked before. So if
the job succeeds, the operation was applied everywhere, and a take has obtained the same tuple
everywhere. Ledgers of the replicas, by their places, stand for what the replicas have done.
-/

namespace TupleSpace

open Network

namespace Query

def number? : Query → Option Nat
  | sequencedPut number _ | sequencedTake number _ => some number
  | _ => none

def expected? : Query → Option Expected
  | sequencedPut _ _ => some .acknowledgement
  | sequencedTake _ _ => some .tuple
  | _ => none

/-- A query that changes nothing, or carries a number that was drawn for it. -/
def InOrder (drawn : List (Nat × SequencedOp)) : Query → Prop
  | read _ | state _ => True
  | sequencedPut number tuple => (number, .put tuple) ∈ drawn
  | sequencedTake number pattern => (number, .take pattern) ∈ drawn
  | put _ | fanOut _ _ => False

def Fulfils (table : List (String × Nat)) (ledgers : Nat → Ledger) (outcome : Outcome) :
    Query → Prop
  | sequencedPut number _ => ∀ row ∈ table, (number, .ok .stored) ∈ (ledgers row.2).turns
  | sequencedTake number _ => ∃ tuple, outcome = .tuple tuple ∧
      ∀ row ∈ table, (ledgers row.2).Settled number tuple
  | _ => True

variable {query : Query} {drawn more : List (Nat × SequencedOp)} {number : Nat}
  {table : List (String × Nat)} {ledgers later : Nat → Ledger} {outcome : Outcome}

theorem InOrder.mono (order : query.InOrder drawn) (grown : drawn ⊆ more) :
    query.InOrder more := by
  cases query with
  | sequencedPut _ _ => exact grown order
  | sequencedTake _ _ => exact grown order
  | _ => exact order

theorem Fulfils.mono (fulfils : query.Fulfils table ledgers outcome)
    (grown : ∀ place, (ledgers place).Extends (later place)) :
    query.Fulfils table later outcome := by
  cases query with
  | sequencedPut number tuple => exact fun row member => (grown row.2).1 (fulfils row member)
  | sequencedTake number pattern =>
      obtain ⟨tuple, same, settled⟩ := fulfils
      exact ⟨tuple, same, fun row member => (settled row member).mono (grown row.2)⟩
  | _ => trivial

theorem fulfils_unnumbered (unnumbered : query.number? = none) :
    query.Fulfils table ledgers outcome := by
  cases query with
  | sequencedPut _ _ => cases unnumbered
  | sequencedTake _ _ => cases unnumbered
  | _ => trivial

theorem InOrder.admits {op : Nat → SequencedOp} (order : query.InOrder drawn)
    (agrees : ∀ entry ∈ drawn, op entry.1 = entry.2) (ledger : Ledger) :
    ledger.Admits op query.request.task := by
  cases query with
  | read pattern =>
      simp only [request, Request.task]
      cases Pattern.parse pattern <;> trivial
  | state _ => trivial
  | sequencedPut number tuple => exact ⟨(agrees _ order).symm, tuple, rfl⟩
  | sequencedTake number pattern => exact ⟨(agrees _ order).symm, pattern, rfl⟩
  | put _ => exact order.elim
  | fanOut _ _ => exact order.elim

theorem InOrder.number_of_task {asked : Task} (order : query.InOrder drawn)
    (made : query.request.task = .ok asked) : asked.number? = query.number? := by
  cases query with
  | read pattern =>
      simp only [request, Request.task] at made
      cases parsed : Pattern.parse pattern with
      | error cause =>
          rw [parsed] at made
          cases made
      | ok parsed_ =>
          rw [parsed] at made
          cases made
          rfl
  | put _ => exact order.elim
  | fanOut _ _ => exact order.elim
  | _ =>
      cases made
      rfl

theorem task_under_number (numbered : query.number? = some number) :
    ∃ asked, query.request.task = .ok asked ∧ asked.number? = some number := by
  cases query with
  | sequencedPut _ _ =>
      cases numbered
      exact ⟨_, rfl, rfl⟩
  | sequencedTake _ _ =>
      cases numbered
      exact ⟨_, rfl, rfl⟩
  | _ => cases numbered

theorem InOrder.drawn_for (order : query.InOrder drawn) (numbered : query.number? = some number) :
    ∃ op, (number, op) ∈ drawn := by
  cases query with
  | sequencedPut _ _ =>
      cases numbered
      exact ⟨_, order⟩
  | sequencedTake _ _ =>
      cases numbered
      exact ⟨_, order⟩
  | _ => cases numbered

/-- Under a number every replica is asked, and all of them are waited for. -/
theorem ask_under_number {set : ReplicaSet} (numbered : query.number? = some number) :
    query.ask set =
      set.ask set.qualifiers query.request query.expected? (.count set.qualifiers.length) := by
  have size : set.size = set.qualifiers.length := by simp [ReplicaSet.size, ReplicaSet.qualifiers]
  cases query <;> cases numbered <;> rw [← size] <;> rfl

end Query

/-! ## Answers of all replicas -/

namespace Replica

variable {op : Nat → SequencedOp} {first number : Nat} {ledger : Ledger} {replica : Replica}

theorem Follows.stored_of_answered (follows : replica.Follows op first ledger) {tuple : String}
    {answer : Answer} (put : op number = .put tuple)
    (answered : ledger.Answered first number (.ok answer)) :
    (number, .ok .stored) ∈ ledger.turns := by
  have gave : ∀ {result : Except StoreError Applied}, (number, result) ∈ ledger.turns →
      (∀ cause, result ≠ .error cause) → result = .ok .stored := by
    intro result turn fine
    obtain ⟨_, _, applies⟩ := follows.turn_result turn
    rw [put] at applies
    cases applies with
    | refused => exact absurd rfl (fine _)
    | handed _ => rfl
    | stored => rfl
  cases answer with
  | done => exact answered
  | tuples _ => exact answered.elim
  | queued ticket => cases gave answered (by simp)
  | tuple other =>
      rcases answered with turn | ⟨ticket, turn, _⟩
      · cases gave turn (by simp)
      · cases gave turn (by simp)

end Replica

/-- If the answer to a parcel is a reply, it tells what came of a number at the replica. -/
def Parcel.Reports (parcel : Parcel) (ledger : Ledger) (first number : Nat)
    (answer : Except TransportError Reply) : Prop :=
  ∀ response, answer = .ok (.ok response) → ∃ result,
    response = parcel.request.response result ∧ ledger.Answered first number (.ok result)

/-- An exchange that asks all replicas for an operation under a number. Whoever has answered has
told what came of it. -/
structure Polls (table : List (String × Nat)) (first : Nat) (ledgers : Nat → Ledger)
    (parcels : List Parcel) (query : Query) (number : Nat) (set : ReplicaSet)
    (exchange : Exchange) : Prop where
  known : set.table = table
  request : exchange.request = query.request
  expected : exchange.expected? = query.expected?
  dispatch : Dispatch table (fun _ => True)
    (fun place answer => (ledgers place).Answered first number (.ok answer)) parcels
    set.qualifiers exchange

namespace Polls

variable {table : List (String × Nat)} {first : Nat} {ledgers later : Nat → Ledger}
  {parcels : List Parcel} {query : Query} {number : Nat} {set : ReplicaSet} {exchange : Exchange}
  {op : Nat → SequencedOp} {drawn : List (Nat × SequencedOp)} {outcome : Outcome}

theorem mono (polls : Polls table first ledgers parcels query number set exchange)
    (grown : ∀ place, (ledgers place).Extends (later place)) :
    Polls table first later parcels query number set exchange :=
  ⟨polls.known, polls.request, polls.expected, polls.dispatch.mono (fun _ _ _ => trivial)
    fun _ _ place _ _ answered => answered.mono (grown place)⟩

theorem answered {current index : Nat} {others : List Parcel} {parcel : Parcel}
    {answer : Except TransportError Reply}
    (polls : Polls table first ledgers (transit current others) query number set exchange)
    (found : others[index]? = some parcel)
    (told : parcel.request = query.request →
      parcel.Reports (ledgers parcel.handle.node) first number answer) :
    Polls table first ledgers (transit current (others.eraseIdx index)) query number set
      (if parcel.exchange = current then exchange.record parcel.handle.qualifier answer
        else exchange) := by
  by_cases own : parcel.exchange = current
  · rw [if_pos own]
    have inside : parcel ∈ transit current others :=
      mem_transit.mpr ⟨List.mem_of_getElem? found, own⟩
    have request := (polls.dispatch.posted parcel inside).1.trans polls.request
    exact ⟨polls.known, polls.request, polls.expected,
      polls.dispatch.answered found own (told request)⟩
  · rw [if_neg own]
    exact ⟨polls.known, polls.request, polls.expected,
      polls.dispatch.answered_elsewhere found own⟩

theorem reply_of_row (polls : Polls table first ledgers parcels query number set exchange)
    (names : (table.map (·.1)).Nodup)
    (all : (exchange.collector.responses.map (·.1)).Perm set.qualifiers) {row : String × Nat}
    (member : row ∈ table) :
    ∃ answer, (ledgers row.2).Answered first number (.ok answer) ∧
      ∀ expected, query.expected? = some expected →
        (query.request.response answer).meets expected = true := by
  have named : row.1 ∈ exchange.collector.responses.map (·.1) := by
    rw [all.mem_iff, ReplicaSet.qualifiers_eq, polls.known]
    exact List.mem_map_of_mem member
  obtain ⟨reply, replied, same⟩ := List.mem_map.mp named
  obtain ⟨meets, place, answer, here, response, answered⟩ := polls.dispatch.answers reply replied
  rw [same] at here
  have there : place = row.2 :=
    congrArg Prod.snd (List.inj_on_of_nodup_map names here member rfl)
  subst there
  rw [polls.expected] at meets
  rw [response, polls.request] at meets
  exact ⟨answer, answered, meets⟩

theorem tuple_of_expected {pattern : String} {answer : Answer}
    (meets : ∀ expected, (Query.sequencedTake number pattern).expected? = some expected →
      ((Query.sequencedTake number pattern).request.response answer).meets expected = true) :
    ∃ tuple, answer = .tuple tuple := by
  have tells := meets _ rfl
  cases answer with
  | tuple tuple => exact ⟨tuple, rfl⟩
  | _ => cases tells

/-- The first reply to a take tells the tuple that the take is concluded with. -/
theorem head_of_take {pattern : String}
    (polls : Polls table first ledgers parcels (.sequencedTake number pattern) number set exchange)
    (concluded : (Query.sequencedTake number pattern).conclude exchange.collector.responses =
      .ok outcome) :
    ∃ row tuple, row ∈ table ∧ (ledgers row.2).Settled number tuple ∧ outcome = .tuple tuple := by
  unfold Query.conclude at concluded
  dsimp only at concluded
  split at concluded
  · rename_i tuple found
    cases concluded
    obtain ⟨reply, head, told⟩ := Option.bind_eq_some_iff.mp found
    obtain ⟨_, place, answer, here, response, answered⟩ :=
      polls.dispatch.answers reply (List.mem_of_head? head)
    rw [response, polls.request] at told
    refine ⟨_, tuple, here, ?_, rfl⟩
    cases answer with
    | tuple other =>
        cases told
        exact answered
    | _ => cases told
  · cases concluded

/-- A query whose replies are all there has been carried out by every replica. -/
theorem fulfilled (polls : Polls table first ledgers parcels query number set exchange)
    (names : (table.map (·.1)).Nodup)
    (runs : ∀ place, ∃ service, Service.Run first op (ledgers place) service)
    (order : query.InOrder drawn) (agrees : ∀ entry ∈ drawn, op entry.1 = entry.2)
    (numbered : query.number? = some number)
    (all : (exchange.collector.responses.map (·.1)).Perm set.qualifiers)
    (concluded : query.conclude exchange.collector.responses = .ok outcome) :
    query.Fulfils table ledgers outcome := by
  cases query with
  | sequencedPut _ tuple =>
      cases numbered
      intro row member
      obtain ⟨answer, answered, _⟩ := polls.reply_of_row names all member
      obtain ⟨service, run⟩ := runs row.2
      exact (Service.sound_run run).follows.stored_of_answered (agrees _ order) answered
  | sequencedTake _ pattern =>
      cases numbered
      have settled : ∀ row ∈ table, ∃ tuple, (ledgers row.2).Settled number tuple := by
        intro row member
        obtain ⟨answer, answered, meets⟩ := polls.reply_of_row names all member
        obtain ⟨tuple, rfl⟩ := tuple_of_expected meets
        exact ⟨tuple, answered⟩
      obtain ⟨row, tuple, member, taken, rfl⟩ := polls.head_of_take concluded
      refine ⟨tuple, rfl, fun other inside => ?_⟩
      obtain ⟨same, there⟩ := settled other inside
      obtain ⟨_, run⟩ := runs row.2
      obtain ⟨_, also⟩ := runs other.2
      rw [Service.settled_agree run also taken there] at there
      exact there
  | _ => cases numbered

end Polls

/-! ## Jobs -/

structure Duty where
  table : List (String × Nat)
  first : Nat
  query : Query

/-- A job that is to carry out a query, or has done so. -/
inductive Duty.Serves (duty : Duty) (ledgers : Nat → Ledger) (parcels : List Parcel)
    (exchanges : Nat) : Job → Prop
  | idle {errand : Errand} (operation : errand.operation = .query duty.query)
      (idle : errand.attempt? = none) : Serves duty ledgers parcels exchanges (.running errand)
  | asks {errand : Errand} {set : ReplicaSet} {client : ClientId} {exchange : Exchange}
      (operation : errand.operation = .query duty.query)
      (under : errand.attempt? = some ⟨set, client, .asking duty.query exchange⟩)
      (started : errand.exchange < exchanges)
      (polls : ∀ number, duty.query.number? = some number →
        Polls duty.table duty.first ledgers (transit errand.exchange parcels) duty.query number set
          exchange) :
      Serves duty ledgers parcels exchanges (.running errand)
  | ended {result : Except ClientError Outcome}
      (fulfils : ∀ outcome, result = .ok outcome →
        duty.query.Fulfils duty.table ledgers outcome) :
      Serves duty ledgers parcels exchanges (.finished result)

namespace Duty

variable {duty : Duty} {ledgers later : Nat → Ledger} {parcels : List Parcel}
  {exchanges index : Nat} {job : Job} {parcel : Parcel}

theorem Serves.operation {errand : Errand}
    (serves : duty.Serves ledgers parcels exchanges (.running errand)) :
    errand.operation = .query duty.query := by
  cases serves with
  | idle operation _ => exact operation
  | asks operation _ _ _ => exact operation

theorem Serves.fulfilled {outcome : Outcome}
    (serves : duty.Serves ledgers parcels exchanges (.finished (.ok outcome))) :
    duty.query.Fulfils duty.table ledgers outcome := by
  cases serves with
  | ended fulfils => exact fulfils outcome rfl

theorem Serves.mono (serves : duty.Serves ledgers parcels exchanges job)
    (grown : ∀ place, (ledgers place).Extends (later place)) :
    duty.Serves later parcels exchanges job := by
  cases serves with
  | idle operation idle => exact .idle operation idle
  | asks operation under started polls =>
      exact .asks operation under started fun number numbered => (polls number numbered).mono grown
  | ended fulfils => exact .ended fun outcome same => (fulfils outcome same).mono grown

theorem Serves.beside {others : List Parcel} (serves : duty.Serves ledgers parcels exchanges job)
    (more : Nat) (fresh : ∀ parcel ∈ others, parcel.exchange = exchanges) :
    duty.Serves ledgers (parcels ++ others) (exchanges + more) job := by
  cases serves with
  | idle operation idle => exact .idle operation idle
  | ended fulfils => exact .ended fulfils
  | @asks errand set client exchange operation under started polls =>
      refine .asks operation under (Nat.lt_add_right more started) fun number numbered => ?_
      rw [transit_append fun parcel member => ?_]
      · exact polls number numbered
      · rw [fresh parcel member]
        exact Nat.ne_of_gt started

theorem Serves.moved (serves : duty.Serves ledgers parcels exchanges job)
    (found : parcels[index]? = some parcel) (state : ParcelState) :
    duty.Serves ledgers (parcels.set index { parcel with state }) exchanges job := by
  cases serves with
  | idle operation idle => exact .idle operation idle
  | ended fulfils => exact .ended fulfils
  | asks operation under started polls =>
      refine .asks operation under started fun number numbered => ?_
      have before := polls number numbered
      exact ⟨before.known, before.request, before.expected,
        before.dispatch.moved found state fun _ => trivial⟩

theorem Serves.answered (serves : duty.Serves ledgers parcels exchanges job)
    (found : parcels[index]? = some parcel) {answer : Except TransportError Reply}
    (told : ∀ number, duty.query.number? = some number → parcel.request = duty.query.request →
      parcel.Reports (ledgers parcel.handle.node) duty.first number answer) :
    duty.Serves ledgers (parcels.eraseIdx index) exchanges
      (job.record parcel.exchange parcel.handle.qualifier answer) := by
  cases serves with
  | ended fulfils => exact .ended fulfils
  | @idle errand operation idle =>
      refine .idle ?_ ?_
      · rw [Errand.record_eq]
        exact operation
      · rw [Errand.attempt_record, idle, Option.map_none, ite_self]
  | @asks errand set client exchange operation under started polls =>
      have noted : (errand.record parcel.exchange parcel.handle.qualifier answer).attempt? =
          some ⟨set, client, .asking duty.query
            (if parcel.exchange = errand.exchange then
              exchange.record parcel.handle.qualifier answer else exchange)⟩ := by
        rw [Errand.attempt_record, under]
        split <;> rfl
      have same : (errand.record parcel.exchange parcel.handle.qualifier answer).exchange =
          errand.exchange := by
        rw [Errand.record_eq]
      refine .asks ?_ noted (same ▸ started) fun number numbered => ?_
      · rw [Errand.record_eq]
        exact operation
      · rw [same]
        exact (polls number numbered).answered found (told number numbered)

/-! ## Steps of a job -/

section

variable {network : Network} {errand : Errand} {next : Job} {set : ReplicaSet}
  {client : ClientId} {posted? : Option (List Parcel)}

theorem ended_serves {result : Except ClientError Outcome} (ends : Ends errand result next)
    (operation : errand.operation = .query duty.query)
    (fulfils : ∀ outcome, result = .ok outcome →
      duty.query.Fulfils duty.table ledgers outcome) :
    duty.Serves ledgers parcels exchanges next := by
  cases ends with
  | finished => exact .ended fulfils
  | retried retries transport => exact .idle operation rfl

theorem begun_serves (numbered : network.Numbered) (names : (duty.table.map (·.1)).Nodup)
    (operation : errand.operation = .query duty.query) (table : set.table = duty.table)
    (policy : TakePolicy)
    (installs : Installs network errand set client
      (Attempt.start set client policy (.query duty.query)) next posted?) :
    duty.Serves ledgers (network.parcels ++ posted?.getD [])
        (network.exchanges + if posted?.isSome then 1 else 0) next ∧
      ∀ parcel ∈ posted?.getD [], parcel.request = duty.query.request := by
  unfold Attempt.start AttemptStep.asking at installs
  dsimp only at installs
  cases checked : duty.query.check with
  | error cause =>
      rw [checked] at installs
      cases installs with
      | ended ends => exact ⟨ended_serves ends operation (by simp), by simp⟩
  | ok _ =>
      rw [checked] at installs
      cases asked : duty.query.ask set with
      | error cause =>
          simp only [asked] at installs
          cases installs with
          | ended ends => exact ⟨ended_serves ends operation (by simp), by simp⟩
      | ok pair =>
          obtain ⟨exchange, handles⟩ := pair
          simp only [asked] at installs
          cases installs with
          | posted =>
              have request := Query.request_asked asked
              refine ⟨.asks operation rfl (by simp) fun number under => ?_, fun parcel member => ?_⟩
              · have distinct : set.qualifiers.Nodup := by
                  rwa [ReplicaSet.qualifiers_eq, table]
                rw [Query.ask_under_number under] at asked
                have dispatch : Dispatch set.table (fun _ => True)
                    (fun place answer => (ledgers place).Answered duty.first number (.ok answer))
                    _ set.qualifiers exchange :=
                  .just_posted network.exchanges network.clock asked distinct (.inr rfl) (by simp)
                refine ⟨table, request, (ReplicaSet.ask_poses asked).2, ?_⟩
                dsimp only [Option.getD_some]
                rw [transit_posted (fun parcel member => Nat.ne_of_lt (numbered parcel member))
                  (by simp), ← table]
                exact dispatch
              · obtain ⟨handle, _, rfl⟩ := List.mem_map.mp member
                exact request

theorem looked_serves {exchange : Exchange} {step : AttemptStep} {op : Nat → SequencedOp}
    {drawn : List (Nat × SequencedOp)} (names : (duty.table.map (·.1)).Nodup)
    (runs : ∀ place, ∃ service, Service.Run duty.first op (ledgers place) service)
    (order : duty.query.InOrder drawn) (agrees : ∀ entry ∈ drawn, op entry.1 = entry.2)
    (operation : errand.operation = .query duty.query)
    (started : errand.exchange < network.exchanges)
    (polls : ∀ number, duty.query.number? = some number →
      Polls duty.table duty.first ledgers (transit errand.exchange network.parcels) duty.query
        number set exchange)
    (stepped : (⟨set, client, .asking duty.query exchange⟩ : Attempt).advance? = some step)
    (installs : Installs network errand set client step next posted?) :
    duty.Serves ledgers (network.parcels ++ posted?.getD [])
        (network.exchanges + if posted?.isSome then 1 else 0) next ∧
      ∀ parcel ∈ posted?.getD [], parcel.request = duty.query.request := by
  obtain ⟨progress, looked, rfl⟩ := Option.map_eq_some_iff.mp stepped
  cases progress with
  | goOn later =>
      cases installs with
      | wentOn =>
          refine ⟨.asks operation rfl (Nat.lt_add_right _ started) fun number under => ?_, by simp⟩
          have before := polls number under
          obtain ⟨_, ⟨look, same, dispatch⟩ | ⟨cause, same, _⟩ | ⟨same, _⟩⟩ :=
            before.dispatch.looks looked
          · cases same
            rw [Option.getD_none, List.append_nil]
            exact ⟨before.known, before.request, before.expected, dispatch⟩
          · cases same
          · cases same
  | finished result =>
      cases result with
      | error cause =>
          cases installs with
          | ended ends => exact ⟨ended_serves ends operation (by simp), by simp⟩
      | ok replies =>
          cases installs with
          | ended ends =>
              refine ⟨ended_serves ends operation fun outcome concluded => ?_, by simp⟩
              cases under : duty.query.number? with
              | none => exact Query.fulfils_unnumbered under
              | some number =>
                  have before := polls number under
                  obtain ⟨_, ⟨look, same, _⟩ | ⟨cause, same, _⟩ | ⟨same, all⟩⟩ :=
                    before.dispatch.looks looked
                  · cases same
                  · cases same
                  · cases same
                    exact before.fulfilled names runs order agrees under all concluded

theorem Serves.advanced {op : Nat → SequencedOp} {drawn : List (Nat × SequencedOp)}
    (serves : duty.Serves ledgers network.parcels network.exchanges job)
    (here : network.jobs[index]? = some job) (numbered : network.Numbered)
    (names : (duty.table.map (·.1)).Nodup)
    (fixed : ∀ (index : Nat) session, network.sessions[index]? = some session →
      network.IsFixed session duty.table)
    (runs : ∀ place, ∃ service, Service.Run duty.first op (ledgers place) service)
    (order : duty.query.InOrder drawn) (agrees : ∀ entry ∈ drawn, op entry.1 = entry.2)
    (advances : Advances network index next posted?) :
    duty.Serves ledgers (network.parcels ++ posted?.getD [])
        (network.exchanges + if posted?.isSome then 1 else 0) next ∧
      ∀ parcel ∈ posted?.getD [], parcel.request = duty.query.request := by
  cases advances with
  | woke found =>
      rw [here] at found
      cases found
      cases serves
  | @unresolved errand cause _ found idle other ends =>
      rw [here] at found
      cases found
      exact ⟨ended_serves ends serves.operation (by simp), by simp⟩
  | @began errand session set _ _ found idle there table installs =>
      rw [here] at found
      cases found
      cases serves with
      | idle operation _ =>
          rw [operation] at installs
          exact begun_serves numbered names operation (table _ (fixed _ session there).finds)
            session.config.take.policy installs
      | asks _ under _ _ =>
          rw [idle] at under
          cases under
  | advanced found attempt stepped installs =>
      rw [here] at found
      cases found
      cases serves with
      | idle _ idle =>
          rw [idle] at attempt
          cases attempt
      | asks operation under started polls =>
          rw [under] at attempt
          cases attempt
          exact looked_serves names runs order agrees operation started polls stepped installs

end

end Duty

end TupleSpace
