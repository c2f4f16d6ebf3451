import TupleSpace.Proofs.NetworkHistory
import TupleSpace.Proofs.Dispatch

/-!
# The course of an exchange

The answers to the requests of an exchange arrive in any order, each once, and the asking thread
looks at what was recorded whenever it gets to. How far it is decides what it has gone by: of the
answers that arrived before its first look it knows that they were enough, of those before the
second what failed, and of those before the third what they replied. Whatever else a network does,
each of its exchanges takes such a course.
-/

namespace TupleSpace

namespace ReplicaSet

variable {set : ReplicaSet} {targets : List String} {name : String}

theorem handle_known (known : name ∈ set.qualifiers) :
    ∃ handle ∈ set.handles, set.handle name = .ok handle ∧ handle.qualifier = name := by
  obtain ⟨one, member, named⟩ := List.mem_map.mp known
  unfold handle
  cases found : set.handles.find? (fun handle => handle.qualifier == name) with
  | none => exact absurd named (by simpa using List.find?_eq_none.mp found one member)
  | some handle =>
      exact ⟨handle, List.mem_of_find?_eq_some found, rfl, by simpa using List.find?_some found⟩

theorem handle_unknown (unknown : name ∉ set.qualifiers) :
    set.handle name = .error (.unknownReplica name) := by
  unfold handle
  cases found : set.handles.find? (fun handle => handle.qualifier == name) with
  | none => rfl
  | some handle =>
      have named : handle.qualifier = name := by simpa using List.find?_some found
      exact absurd (List.mem_map.mpr ⟨handle, List.mem_of_find?_eq_some found, named⟩) unknown

theorem handles_of_known (known : ∀ name ∈ targets, name ∈ set.qualifiers) :
    ∃ handles, set.handlesOf targets = .ok handles ∧ handles.map (·.qualifier) = targets ∧
      ∀ handle ∈ handles, handle ∈ set.handles := by
  induction targets with
  | nil => exact ⟨[], rfl, rfl, by simp⟩
  | cons name rest induction =>
      obtain ⟨handle, inside, found, named⟩ := handle_known (known name List.mem_cons_self)
      obtain ⟨handles, others, names, members⟩ :=
        induction fun other member => known other (List.mem_cons_of_mem _ member)
      refine ⟨handle :: handles, ?_, by rw [List.map_cons, named, names], ?_⟩
      · rw [handlesOf] at others ⊢
        rw [List.mapM_cons, found, others]
        rfl
      · intro other member
        rcases List.mem_cons.mp member with rfl | later
        · exact inside
        · exact members other later

theorem handles_of_unknown {before after : List String}
    (known : ∀ name ∈ before, name ∈ set.qualifiers) (unknown : name ∉ set.qualifiers) :
    set.handlesOf (before ++ name :: after) = .error (.unknownReplica name) := by
  unfold handlesOf
  induction before with
  | nil =>
      rw [List.nil_append, List.mapM_cons, handle_unknown unknown]
      rfl
  | cons other rest induction =>
      obtain ⟨handle, _, found, _⟩ := handle_known (known other List.mem_cons_self)
      rw [List.cons_append, List.mapM_cons, found,
        induction fun name member => known name (List.mem_cons_of_mem _ member)]
      rfl

end ReplicaSet

structure Arrival where
  handle : Handle
  answer : Except TransportError Reply

inductive CourseEvent
  | arrived (arrival : Arrival)
  | looked

namespace CourseEvent

def arrival? : CourseEvent → Option Arrival
  | arrived arrival => some arrival
  | looked => none

def arrivals (events : List CourseEvent) : List Arrival := events.filterMap arrival?

def looks : List CourseEvent → Nat
  | [] => 0
  | .arrived _ :: rest => looks rest
  | .looked :: rest => looks rest + 1

/-- What had arrived when the look was due that follows the given number of looks. -/
def heardBefore : Nat → List CourseEvent → List Arrival
  | _, [] => []
  | number, .arrived arrival :: rest => arrival :: heardBefore number rest
  | 0, .looked :: _ => []
  | number + 1, .looked :: rest => heardBefore number rest

variable {events : List CourseEvent} {number : Nat}

@[simp] theorem arrivals_arrived (events : List CourseEvent) (arrival : Arrival) :
    arrivals (events ++ [.arrived arrival]) = arrivals events ++ [arrival] := by
  simp [arrivals, arrival?]

@[simp] theorem arrivals_looked (events : List CourseEvent) :
    arrivals (events ++ [.looked]) = arrivals events := by
  simp [arrivals, arrival?]

theorem looks_append (events more : List CourseEvent) :
    looks (events ++ more) = looks events + looks more := by
  induction events with
  | nil => exact (Nat.zero_add _).symm
  | cons event rest induction =>
      cases event with
      | arrived arrival => exact induction
      | looked =>
          simp only [looks, List.cons_append, induction]
          omega

@[simp] theorem looks_arrived (events : List CourseEvent) (arrival : Arrival) :
    looks (events ++ [.arrived arrival]) = looks events := looks_append events _

@[simp] theorem looks_looked (events : List CourseEvent) :
    looks (events ++ [.looked]) = looks events + 1 := looks_append events _

theorem heard_before_all (ahead : looks events ≤ number) :
    heardBefore number events = arrivals events := by
  induction events generalizing number with
  | nil => cases number <;> rfl
  | cons event rest induction =>
      cases event with
      | arrived arrival =>
          have heard := induction ahead
          simp only [heardBefore, heard, arrivals, List.filterMap_cons, arrival?]
      | looked =>
          cases number with
          | zero => exact absurd ahead (Nat.not_succ_le_zero _)
          | succ number =>
              simpa only [heardBefore, arrivals, List.filterMap_cons, arrival?] using
                induction (Nat.le_of_succ_le_succ ahead)

theorem heard_before_past (past : number < looks events) (event : CourseEvent) :
    heardBefore number (events ++ [event]) = heardBefore number events := by
  induction events generalizing number with
  | nil => exact absurd past (Nat.not_lt_zero _)
  | cons earlier rest induction =>
      cases earlier with
      | arrived arrival =>
          exact congrArg (arrival :: ·) (induction past)
      | looked =>
          cases number with
          | zero => rfl
          | succ number => exact induction (Nat.lt_of_succ_lt_succ past)

theorem heard_before_look (events : List CourseEvent) :
    heardBefore (looks events) (events ++ [.looked]) = arrivals events := by
  induction events with
  | nil => rfl
  | cons event rest induction =>
      cases event with
      | arrived arrival =>
          simpa only [looks, heardBefore, List.cons_append, arrivals, List.filterMap_cons,
            arrival?] using congrArg (arrival :: ·) induction
      | looked => exact induction

theorem heard_before_mono {later : Nat} (ordered : number ≤ later) (events : List CourseEvent) :
    heardBefore number events <+: heardBefore later events := by
  induction events generalizing number later with
  | nil => cases number <;> exact List.nil_prefix
  | cons event rest induction =>
      cases event with
      | arrived arrival => exact (List.prefix_cons_inj arrival).mpr (induction ordered)
      | looked =>
          cases number with
          | zero => exact List.nil_prefix
          | succ number =>
              cases later with
              | zero => exact absurd ordered (Nat.not_succ_le_zero _)
              | succ later => exact induction (Nat.le_of_succ_le_succ ordered)

theorem heard_from_start (number : Nat) (events : List CourseEvent) :
    heardBefore number events <+: arrivals events := by
  rw [← heard_before_all (Nat.le_max_left (looks events) number)]
  exact heard_before_mono (Nat.le_max_right ..) events

end CourseEvent

open CourseEvent

namespace Exchange

variable (first : Exchange) (heard : List Arrival) (arrival : Arrival)

def note : Except ClientError (String × Response) :=
  first.outcome arrival.handle.qualifier arrival.answer

def replied? : Option (String × Response) := (first.note arrival).toOption

def failed? : Option ClientError :=
  match first.note arrival with
  | .ok _ => none
  | .error cause => some cause

def collected : Collector (String × Response) :=
  heard.foldl (fun collector arrival => collector.record (first.note arrival)) first.collector

theorem collected_arrived :
    first.collected (heard ++ [arrival]) =
      (first.collected heard).record (first.note arrival) := by
  rw [collected, List.foldl_append]
  rfl

theorem replied_iff {reply : String × Response} :
    first.replied? arrival = some reply ↔ first.note arrival = .ok reply := by
  unfold replied?
  cases first.note arrival with
  | ok other => simp [Except.toOption]
  | error cause => simp [Except.toOption]

theorem failed_iff {cause : ClientError} :
    first.failed? arrival = some cause ↔ first.note arrival = .error cause := by
  unfold failed?
  cases first.note arrival with
  | ok other => simp
  | error other => simp

theorem unfailed_iff :
    first.failed? arrival = none ↔ ∃ reply, first.note arrival = .ok reply := by
  unfold failed?
  cases first.note arrival with
  | ok other => simp
  | error other => simp

/-- Replies and failures are collected in the order of their arrival, and each takes one off the
count of tasks. -/
theorem collected_eq :
    first.collected heard =
      { responses := first.collector.responses ++ heard.filterMap first.replied?
        failures := first.collector.failures ++ heard.filterMap first.failed?
        outstanding := first.collector.outstanding - heard.length } := by
  unfold collected
  generalize first.collector = collector
  induction heard generalizing collector with
  | nil => simp
  | cons arrival rest induction =>
      rw [List.foldl_cons, induction]
      cases noted : first.note arrival with
      | ok reply =>
          simp [Collector.record, replied?, failed?, noted, Except.toOption, Nat.sub_sub,
            Nat.add_comm]
      | error cause =>
          simp [Collector.record, replied?, failed?, noted, Except.toOption, Nat.sub_sub,
            Nat.add_comm]

section

variable {first heard}

theorem first_failure_eq (clean : first.collector.failures = []) :
    (first.collected heard).firstFailure? = heard.findSome? first.failed? := by
  rw [collected_eq, Collector.firstFailure?, clean, List.nil_append, List.head?_filterMap]

theorem no_failure_iff (clean : first.collector.failures = []) :
    (first.collected heard).firstFailure? = none ↔
      ∀ arrival ∈ heard, ∃ reply, first.note arrival = .ok reply := by
  rw [first_failure_eq clean, List.findSome?_eq_none_iff]
  simp only [unfailed_iff]

theorem first_failure_iff (clean : first.collector.failures = []) {cause : ClientError} :
    (first.collected heard).firstFailure? = some cause ↔
      ∃ before failed after, heard = before ++ failed :: after ∧
        first.note failed = .error cause ∧
          ∀ arrival ∈ before, ∃ reply, first.note arrival = .ok reply := by
  rw [first_failure_eq clean, List.findSome?_eq_some_iff]
  simp only [unfailed_iff, failed_iff]

end

/-- What may become of an exchange. A request is open until its answer has arrived, which may be
when the exchange is over. -/
inductive Course (handles : List Handle) :
    List CourseEvent → List Handle → Progress → Prop
  | posted : Course handles [] handles (.goOn first)
  | arrived {events : List CourseEvent} {opened rest : List Handle} {exchange : Exchange}
      {arrival : Arrival} (earlier : Course handles events opened (.goOn exchange))
      (asked : opened.Perm (arrival.handle :: rest)) :
      Course handles (events ++ [.arrived arrival]) rest
        (.goOn (exchange.record arrival.handle.qualifier arrival.answer))
  | looked {events : List CourseEvent} {opened : List Handle} {exchange : Exchange}
      {progress : Progress} (earlier : Course handles events opened (.goOn exchange))
      (looked : exchange.look? = some progress) :
      Course handles (events ++ [.looked]) opened progress
  | late {events : List CourseEvent} {opened rest : List Handle}
      {result : Except ClientError (List (String × Response))} {arrival : Arrival}
      (earlier : Course handles events opened (.finished result))
      (asked : opened.Perm (arrival.handle :: rest)) :
      Course handles (events ++ [.arrived arrival]) rest (.finished result)

variable {first} {handles opened : List Handle} {events : List CourseEvent} {progress : Progress}

theorem split_arrived {rest : List Handle} {arrival : Arrival}
    (split : ((arrivals events).map (·.handle) ++ opened).Perm handles)
    (asked : opened.Perm (arrival.handle :: rest)) :
    ((arrivals (events ++ [.arrived arrival])).map (·.handle) ++ rest).Perm handles := by
  rw [arrivals_arrived, List.map_append, List.append_assoc]
  exact (asked.symm.append_left _).trans split

theorem Course.split (course : first.Course handles events opened progress) :
    ((arrivals events).map (·.handle) ++ opened).Perm handles := by
  induction course with
  | posted => exact List.Perm.refl _
  | arrived _ asked induction => exact split_arrived induction asked
  | looked _ _ induction =>
      rw [arrivals_looked]
      exact induction
  | late _ asked induction => exact split_arrived induction asked

/-- How far an exchange is, with what it has gone by at each of its looks. -/
inductive Told (events : List CourseEvent) : Progress → Prop
  | unlooked (after : looks events = 0) :
      Told events
        (.goOn { first with next := .count, collector := first.collected (arrivals events) })
  | counted (after : looks events = 1)
      (enough : (first.collected (heardBefore 0 events)).satisfies first.wait = true) :
      Told events
        (.goOn { first with next := .failure, collector := first.collected (arrivals events) })
  | unfailed (after : looks events = 2)
      (enough : (first.collected (heardBefore 0 events)).satisfies first.wait = true)
      (none : (first.collected (heardBefore 1 events)).firstFailure? = none) :
      Told events
        (.goOn { first with next := .replies, collector := first.collected (arrivals events) })
  | failed {cause : ClientError} (after : looks events = 2)
      (enough : (first.collected (heardBefore 0 events)).satisfies first.wait = true)
      (failed : (first.collected (heardBefore 1 events)).firstFailure? = some cause) :
      Told events (.finished (.error cause))
  | replied (after : looks events = 3)
      (enough : (first.collected (heardBefore 0 events)).satisfies first.wait = true)
      (none : (first.collected (heardBefore 1 events)).firstFailure? = none) :
      Told events (.finished (.ok (first.collected (heardBefore 2 events)).responses))

theorem Told.arrived {exchange : Exchange} (told : first.Told events (.goOn exchange))
    (arrival : Arrival) :
    first.Told (events ++ [.arrived arrival])
      (.goOn (exchange.record arrival.handle.qualifier arrival.answer)) := by
  have recorded : ∀ next, Exchange.record
      { first with next, collector := first.collected (arrivals events) }
        arrival.handle.qualifier arrival.answer =
      { first with
        next, collector := first.collected (arrivals (events ++ [.arrived arrival])) } := by
    intro next
    rw [arrivals_arrived, collected_arrived]
    rfl
  cases told with
  | unlooked after =>
      rw [recorded]
      exact .unlooked (by rw [looks_arrived, after])
  | counted after enough =>
      rw [recorded]
      refine .counted (by rw [looks_arrived, after]) ?_
      rw [heard_before_past (by omega)]
      exact enough
  | unfailed after enough none =>
      rw [recorded]
      refine .unfailed (by rw [looks_arrived, after]) ?_ ?_
      · rw [heard_before_past (by omega)]
        exact enough
      · rw [heard_before_past (by omega)]
        exact none

theorem Told.late {result : Except ClientError (List (String × Response))}
    (told : first.Told events (.finished result)) (arrival : Arrival) :
    first.Told (events ++ [.arrived arrival]) (.finished result) := by
  cases told with
  | failed after enough failed =>
      refine .failed (by rw [looks_arrived, after]) ?_ ?_
      · rw [heard_before_past (by omega)]
        exact enough
      · rw [heard_before_past (by omega)]
        exact failed
  | replied after enough none =>
      rw [← heard_before_past (show 2 < looks events by omega) (.arrived arrival)]
      refine .replied (by rw [looks_arrived, after]) ?_ ?_
      · rw [heard_before_past (by omega)]
        exact enough
      · rw [heard_before_past (by omega)]
        exact none

theorem Told.looked {exchange : Exchange} (told : first.Told events (.goOn exchange))
    (looked : exchange.look? = some progress) : first.Told (events ++ [.looked]) progress := by
  have seen := heard_before_look events
  cases told with
  | unlooked after =>
      rw [after] at seen
      unfold look? at looked
      dsimp only at looked
      split at looked
      · rename_i enough
        cases looked
        rw [← arrivals_looked]
        exact .counted (by rw [looks_looked, after]) (by rw [seen]; exact enough)
      · cases looked
  | counted after enough =>
      rw [after] at seen
      have counted : (first.collected (heardBefore 0 (events ++ [.looked]))).satisfies first.wait =
          true := by
        rw [heard_before_past (by omega)]
        exact enough
      unfold look? at looked
      dsimp only at looked
      split at looked
      · rename_i cause failed
        cases looked
        exact .failed (by rw [looks_looked, after]) counted (by rw [seen]; exact failed)
      · rename_i none
        cases looked
        rw [← arrivals_looked]
        exact .unfailed (by rw [looks_looked, after]) counted (by rw [seen]; exact none)
  | unfailed after enough none =>
      rw [after] at seen
      cases looked
      rw [← seen]
      refine .replied (by rw [looks_looked, after]) ?_ ?_
      · rw [heard_before_past (by omega)]
        exact enough
      · rw [heard_before_past (by omega)]
        exact none

/-- An exchange that starts with its first look goes by what it has heard at each look. -/
theorem Course.told (course : first.Course handles events opened progress)
    (fresh : first.next = .count) : first.Told events progress := by
  induction course with
  | posted =>
      obtain ⟨request, expected?, wait, next, collector⟩ := first
      cases fresh
      exact .unlooked rfl
  | arrived _ _ induction => exact induction.arrived _
  | looked _ looked induction => exact induction.looked looked
  | late _ _ induction => exact induction.late _

/-! ## Looks that follow at once -/

/-- A few looks more end the exchange, although nothing else arrives. -/
def Returns (first : Exchange) (handles : List Handle) (events : List CourseEvent)
    (opened : List Handle) : Prop :=
  ∃ looks result, looks ≤ 3 ∧
    first.Course handles (events ++ List.replicate looks .looked) opened (.finished result)

theorem Told.counts {exchange : Exchange} (told : first.Told events (.goOn exchange))
    (next : exchange.next = .count) :
    exchange.wait = first.wait ∧ exchange.collector = first.collected (arrivals events) := by
  cases told with
  | unlooked after => exact ⟨rfl, rfl⟩
  | counted after enough => cases next
  | unfailed after enough none => cases next

/-- As soon as enough has arrived, three looks at the most end an exchange. -/
theorem Course.returns (course : first.Course handles events opened progress)
    (fresh : first.next = .count)
    (enough : (first.collected (arrivals events)).satisfies first.wait = true) :
    first.Returns handles events opened := by
  -- Each look that does not end the exchange leads to the next one.
  have replies : ∀ {events : List CourseEvent} {exchange : Exchange},
      first.Course handles events opened (.goOn exchange) → exchange.next = .replies →
        ∃ result, first.Course handles (events ++ [.looked]) opened (.finished result) := by
    intro events exchange course next
    exact ⟨_, .looked course (by rw [look?, next])⟩
  have failure : ∀ {events : List CourseEvent} {exchange : Exchange},
      first.Course handles events opened (.goOn exchange) → exchange.next = .failure →
        ∃ looks result, looks ≤ 2 ∧
          first.Course handles (events ++ List.replicate looks .looked) opened
            (.finished result) := by
    intro events exchange course next
    cases failed : exchange.collector.firstFailure? with
    | some cause => exact ⟨1, _, by omega, .looked course (by rw [look?, next, failed])⟩
    | none =>
        obtain ⟨result, finished⟩ :=
          replies (.looked course (by rw [look?, next, failed])) rfl
        exact ⟨2, result, by omega, by simpa [List.replicate] using finished⟩
  cases progress with
  | finished result => exact ⟨0, result, by omega, by simpa using course⟩
  | goOn exchange =>
      cases next : exchange.next with
      | count =>
          have counted : exchange.look? = some (.goOn { exchange with next := .failure }) := by
            obtain ⟨wait, collector⟩ := (course.told fresh).counts next
            rw [look?, next]
            exact if_pos (by rw [wait, collector, enough])
          obtain ⟨looks, result, few, finished⟩ := failure (.looked course counted) rfl
          refine ⟨looks + 1, result, by omega, ?_⟩
          simpa [List.replicate_succ] using finished
      | failure =>
          obtain ⟨looks, result, few, finished⟩ := failure course next
          exact ⟨looks, result, by omega, finished⟩
      | replies =>
          obtain ⟨result, finished⟩ := replies course next
          exact ⟨1, result, by omega, finished⟩

end Exchange

/-! ## Exchanges in a network -/

def AttemptStage.exchange? : AttemptStage → Option Exchange
  | .asking _ exchange | .taking _ exchange | .abandoning _ exchange => some exchange
  | .pausing _ _ => none

namespace Attempt

variable {attempt : Attempt} {exchange : Exchange}

theorem exchange_record (under : attempt.stage.exchange? = some exchange) (replica : String)
    (answer : Except TransportError Reply) :
    (attempt.record replica answer).stage.exchange? = some (exchange.record replica answer) := by
  obtain ⟨replicas, client, stage⟩ := attempt
  cases stage with
  | asking query other =>
      cases under
      rfl
  | taking machine other =>
      cases under
      rfl
  | abandoning cause other =>
      cases under
      rfl
  | pausing machine pause => cases under

theorem advance_looks {step : AttemptStep} (under : attempt.stage.exchange? = some exchange)
    (stepped : attempt.advance? = some step) :
    ∃ progress, exchange.look? = some progress ∧
      ∀ later, progress = .goOn later → ∃ stage, step = .goOn stage ∧
        stage.exchange? = some later := by
  obtain ⟨replicas, client, stage⟩ := attempt
  cases stage with
  | asking query other =>
      cases under
      obtain ⟨progress, looked, rfl⟩ := Option.map_eq_some_iff.mp stepped
      refine ⟨progress, looked, ?_⟩
      rintro later rfl
      exact ⟨_, rfl, rfl⟩
  | taking machine other =>
      cases under
      obtain ⟨progress, looked, rfl⟩ := Option.map_eq_some_iff.mp stepped
      refine ⟨progress, looked, ?_⟩
      rintro later rfl
      exact ⟨_, rfl, rfl⟩
  | abandoning cause other =>
      cases under
      obtain ⟨progress, looked, rfl⟩ := Option.map_eq_some_iff.mp stepped
      refine ⟨progress, looked, ?_⟩
      rintro later rfl
      exact ⟨_, rfl, rfl⟩
  | pausing machine pause => cases under

end Attempt

namespace Network

def Runs (network : Network) (index number : Nat) (exchange : Exchange) : Prop :=
  ∃ errand attempt, network.jobs[index]? = some (.running errand) ∧ errand.exchange = number ∧
    errand.attempt? = some attempt ∧ attempt.stage.exchange? = some exchange

/-- What is open of an exchange is in transit, and until the exchange is over its job runs it. -/
structure Shows (network : Network) (index number : Nat) (opened : List Handle)
    (progress : Exchange.Progress) : Prop where
  started : number < network.exchanges
  opened : ((transit number network.parcels).map (·.handle)).Perm opened
  running : ∀ exchange, progress = .goOn exchange → network.Runs index number exchange

variable {network next : Network} {index number : Nat} {first exchange : Exchange}
  {handles opened : List Handle} {events : List CourseEvent} {progress : Exchange.Progress}

theorem handles_moved {parcels : List Parcel} {position : Nat} {parcel : Parcel}
    (found : parcels[position]? = some parcel) (state : ParcelState) :
    ((transit number (parcels.set position { parcel with state })).map (·.handle)).Perm
      ((transit number parcels).map (·.handle)) := by
  have after : (transit number (parcels.set position { parcel with state })).Perm
      (transit number ({ parcel with state } :: parcels.eraseIdx position)) := transit_set found _
  have before : (transit number parcels).Perm
      (transit number (parcel :: parcels.eraseIdx position)) := transit_apart found
  refine (after.map (·.handle)).trans (List.Perm.trans ?_ (before.map (·.handle)).symm)
  by_cases same : parcel.exchange = number
  · rw [transit_own same, transit_own (show ({ parcel with state } : Parcel).exchange = number
      from same)]
    exact List.Perm.refl _
  · rw [transit_other same, transit_other (show ({ parcel with state } : Parcel).exchange ≠ number
      from same)]

def OnCourse (network : Network) (first : Exchange) (handles : List Handle) (index number : Nat) :
    Prop :=
  ∃ events opened progress, first.Course handles events opened progress ∧
    network.Shows index number opened progress

theorem Runs.record_other (runs : network.Runs index number exchange) {position : Nat}
    {parcel : Parcel} {answer : Except TransportError Reply} (other : parcel.exchange ≠ number)
    (sent : List (String × Request)) (faults : List Fault) :
    Runs ({ network with sent, faults }.record position parcel answer) index number exchange := by
  obtain ⟨errand, attempt, found, own, under, stage⟩ := runs
  refine ⟨errand, attempt, ?_, own, under, stage⟩
  have unmatched : errand.record parcel.exchange parcel.handle.qualifier answer = errand := by
    rw [Errand.record, if_neg fun same => other (same.symm.trans own)]
  simp [record, found, Job.record, unmatched]

theorem Runs.record_own (runs : network.Runs index number exchange) {position : Nat}
    {parcel : Parcel} {answer : Except TransportError Reply} (same : parcel.exchange = number)
    (sent : List (String × Request)) (faults : List Fault) :
    Runs ({ network with sent, faults }.record position parcel answer) index number
      (exchange.record parcel.handle.qualifier answer) := by
  obtain ⟨errand, attempt, found, own, under, stage⟩ := runs
  have recorded := errand.attempt_record parcel.exchange parcel.handle.qualifier answer
  rw [if_pos (same.trans own.symm), under] at recorded
  refine ⟨errand.record parcel.exchange parcel.handle.qualifier answer, _, ?_, ?_, recorded,
    Attempt.exchange_record stage _ _⟩
  · simp [record, found, Job.record]
  · rw [Errand.record_eq]
    exact own

theorem OnCourse.recorded (course : network.OnCourse first handles index number) {position : Nat}
    {parcel : Parcel} (found : network.parcels[position]? = some parcel)
    (answer : Except TransportError Reply) (sent : List (String × Request)) (faults : List Fault) :
    OnCourse ({ network with sent, faults }.record position parcel answer) first handles index
      number := by
  obtain ⟨events, opened, progress, course, shows⟩ := course
  have transits : (transit number network.parcels).Perm
      (transit number (parcel :: network.parcels.eraseIdx position)) := transit_apart found
  by_cases same : parcel.exchange = number
  · rw [transit_own same] at transits
    have asked : opened.Perm ((⟨parcel.handle, answer⟩ : Arrival).handle ::
        (transit number (network.parcels.eraseIdx position)).map (·.handle)) :=
      shows.opened.symm.trans (transits.map (·.handle))
    cases progress with
    | goOn exchange =>
        refine ⟨_, _, _, .arrived course asked,
          shows.started, List.Perm.refl _, ?_⟩
        intro later went
        cases went
        exact (shows.running exchange rfl).record_own same sent faults
    | finished result =>
        exact ⟨_, _, _, .late course asked,
          shows.started, List.Perm.refl _, by simp⟩
  · rw [transit_other same] at transits
    refine ⟨events, opened, progress, course, shows.started,
      (transits.symm.map (·.handle)).trans shows.opened, ?_⟩
    intro exchange going
    exact (shows.running exchange going).record_other same sent faults

theorem OnCourse.kept (course : network.OnCourse first handles index number)
    (started : network.exchanges ≤ next.exchanges)
    (transits : ((transit number next.parcels).map (·.handle)).Perm
      ((transit number network.parcels).map (·.handle)))
    (jobs : ∀ job, network.jobs[index]? = some job → next.jobs[index]? = some job) :
    next.OnCourse first handles index number := by
  obtain ⟨events, opened, progress, course, shows⟩ := course
  refine ⟨events, opened, progress, course, Nat.lt_of_lt_of_le shows.started started,
    transits.trans shows.opened, ?_⟩
  intro exchange going
  obtain ⟨errand, attempt, found, rest⟩ := shows.running exchange going
  exact ⟨errand, attempt, jobs _ found, rest⟩

theorem OnCourse.advanced (course : network.OnCourse first handles index number) {other : Nat}
    {job : Job} {posted? : Option (List Parcel)} (advances : Advances network other job posted?)
    (changes : network.Changes next other job posted?) :
    next.OnCourse first handles index number := by
  obtain ⟨events, opened, progress, course, shows⟩ := course
  have started : number < next.exchanges := by
    rw [changes.exchanges]
    exact Nat.lt_add_right _ shows.started
  have fresh : ∀ parcel ∈ posted?.getD [], parcel.exchange ≠ number := by
    intro parcel member
    rw [(advances.posted_fresh parcel member).1]
    exact Nat.ne_of_gt shows.started
  have transits : ((transit number next.parcels).map (·.handle)).Perm opened := by
    rw [changes.parcels, transit_append fresh]
    exact shows.opened
  cases progress with
  | finished result => exact ⟨events, opened, _, course, started, transits, by simp⟩
  | goOn exchange =>
      obtain ⟨errand, attempt, found, own, under, stage⟩ := shows.running exchange rfl
      by_cases same : other = index
      · subst other
        cases advances with
        | woke there => cases found.symm.trans there
        | unresolved there idle =>
            cases found.symm.trans there
            cases under.symm.trans idle
        | began there idle =>
            cases found.symm.trans there
            cases under.symm.trans idle
        | advanced there running stepped installs =>
            cases found.symm.trans there
            cases under.symm.trans running
            obtain ⟨progress, looked, went⟩ := Attempt.advance_looks stage stepped
            refine ⟨_, opened, progress, .looked course looked, started, transits, ?_⟩
            intro later going
            obtain ⟨reached, rfl, stage⟩ := went later going
            cases installs with
            | @wentOn _ wake =>
                let later : Attempt := ⟨attempt.replicas, attempt.client, reached⟩
                refine ⟨{ errand with attempt? := some later, wake }, later, ?_, own, rfl, stage⟩
                rw [changes.job_at, if_pos rfl, found]
                rfl
      · refine ⟨events, opened, _, course, started, transits, ?_⟩
        intro later going
        cases going
        refine ⟨errand, attempt, ?_, own, under, stage⟩
        rw [changes.job_at, if_neg same]
        exact found

theorem OnCourse.happens (course : network.OnCourse first handles index number)
    {deeds : List Deed} (happens : network.Happens deeds next) :
    next.OnCourse first handles index number := by
  cases happens with
  | failed found unsent left => exact course.recorded found _ _ _
  | forged found unsent left why => exact course.recorded found _ _ _
  | received found answered => exact course.recorded found _ network.sent network.faults
  | @delivered position parcel _ _ node isReplyLost found unsent left target =>
      exact course.kept (Nat.le_refl _) (handles_moved found _) fun job there => there
  | worked target running stepped =>
      exact course.kept (Nat.le_refl _) (List.Perm.refl _) fun job there => there
  | passed => exact course.kept (Nat.le_refl _) (List.Perm.refl _) fun job there => there
  | advanced advances changes => exact course.advanced advances changes
  | begun begins adds =>
      refine course.kept (Nat.le_of_eq adds.exchanges.symm) ?_ fun job there =>
        adds.job_before there
      rw [adds.parcels]

/-- An exchange that a job has posted takes a course, whatever happens. -/
theorem on_course_of_history {job : Job} {errand : Errand} {set : ReplicaSet} {client : ClientId}
    {stage : AttemptStage} {record : List Deed} (numbered : network.Numbered)
    (found : network.jobs[index]? = some job) (posts : stage.exchange? = some first)
    (history : History
      (network.install index errand set client (.post stage first.request handles)) record next) :
    next.OnCourse first handles index network.exchanges := by
  induction history with
  | start =>
      refine ⟨[], handles, .goOn first, .posted, Nat.lt_succ_self _, ?_, ?_⟩
      · have old : ∀ parcel ∈ network.parcels, parcel.exchange ≠ network.exchanges :=
          fun parcel member => Nat.ne_of_lt (numbered parcel member)
        have own : ∀ parcel ∈ handles.map (fun handle =>
            { exchange := network.exchanges, handle, request := first.request,
              due := network.clock + handle.delay : Parcel }),
            parcel.exchange = network.exchanges := by
          intro parcel member
          obtain ⟨handle, _, rfl⟩ := List.mem_map.mp member
          rfl
        refine List.Perm.of_eq ?_
        rw [install]
        dsimp only [setJob]
        rw [transit_posted old own, List.map_map]
        exact List.map_id _
      · intro exchange going
        cases going
        let attempt : Attempt := ⟨set, client, stage⟩
        refine ⟨{ errand with attempt? := some attempt, exchange := network.exchanges }, attempt,
          ?_, rfl, rfl, posts⟩
        rw [install]
        dsimp only
        rw [job_set found, if_pos rfl]
  | step _ undergone induction => exact induction.happens (happens_of_undergo undergone)

end Network

end TupleSpace
