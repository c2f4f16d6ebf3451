import TupleSpace.Proofs.ExchangeCourse

/-!
# Fan-outs

A fan-out sends one request to each of its targets and waits until every one of them was answered.
So it is over only when nothing of it is on its way any more, and what it returns tells of all of
its targets. A take relies on that when it gives up: no request of its last round can overtake the
release that it sends next.
-/

namespace TupleSpace

open CourseEvent

def Arrival.IsReply (arrival : Arrival) : Prop := ∃ response, arrival.answer = .ok (.ok response)

namespace Exchange

/-- What a fan-out returns, by what has arrived in order. -/
structure Gathers (exchange : Exchange) (targets : List String) (heard : List Arrival)
    (result : Except ClientError (List (String × Response))) : Prop where
  complete : (heard.map (·.handle.qualifier)).Perm targets
  succeeds : (∃ replies, result = .ok replies) ↔ ∀ arrival ∈ heard, arrival.IsReply
  replies : ∀ replies, result = .ok replies → (replies.map (·.1)).Perm targets ∧
    replies.map (fun reply => (reply.1, Except.ok (Except.ok reply.2))) =
      heard.map fun arrival => (arrival.handle.qualifier, arrival.answer)
  fails : ∀ cause, result = .error cause → ∃ before failed after,
    heard = before ++ failed :: after ∧ exchange.note failed = .error cause ∧
      ∀ arrival ∈ before, arrival.IsReply

variable {request : Request} {handles opened : List Handle} {events : List CourseEvent}
  {progress : Progress} {targets : List String}

def ofFanOut (request : Request) (handles : List Handle) : Exchange :=
  { request, wait := .tasks, collector := { outstanding := handles.length } }

theorem reply_of_note {arrival : Arrival} {reply : String × Response}
    (noted : (ofFanOut request handles).note arrival = .ok reply) :
    reply.1 = arrival.handle.qualifier ∧ arrival.answer = .ok (.ok reply.2) := by
  obtain ⟨handle, answer⟩ := arrival
  rcases answer with cause | cause | response
  · cases noted
  · cases noted
  · cases noted
    exact ⟨rfl, rfl⟩

theorem note_iff_reply {arrival : Arrival} :
    (∃ reply, (ofFanOut request handles).note arrival = .ok reply) ↔ arrival.IsReply := by
  constructor
  · rintro ⟨reply, noted⟩
    exact ⟨reply.2, (reply_of_note noted).2⟩
  · rintro ⟨response, answered⟩
    refine ⟨(arrival.handle.qualifier, response), ?_⟩
    rw [note, answered]
    rfl

theorem replies_heard {heard : List Arrival} (all : ∀ arrival ∈ heard, arrival.IsReply) :
    (heard.filterMap (ofFanOut request handles).replied?).map
        (fun reply => (reply.1, (Except.ok (Except.ok reply.2) : Except TransportError Reply))) =
      heard.map fun arrival => (arrival.handle.qualifier, arrival.answer) := by
  induction heard with
  | nil => rfl
  | cons arrival rest induction =>
      obtain ⟨reply, noted⟩ := note_iff_reply.mpr (all arrival List.mem_cons_self)
      obtain ⟨name, answer⟩ := reply_of_note noted
      rw [List.filterMap_cons, (replied_iff _ _).mpr noted]
      simp only [List.map_cons, name, answer,
        induction fun other member => all other (List.mem_cons_of_mem _ member)]

theorem Course.drained
    (course : (ofFanOut request handles).Course handles events opened progress)
    (enough : ((ofFanOut request handles).collected (heardBefore 0 events)).satisfies .tasks =
      true) :
    opened = [] ∧ ∀ number, heardBefore number events = arrivals events := by
  have sizes := course.split.length_eq
  have first := (heard_from_start 0 events).length_le
  have waited : handles.length - (heardBefore 0 events).length = 0 := by
    rw [collected_eq] at enough
    exact eq_of_beq enough
  rw [List.length_append, List.length_map] at sizes
  refine ⟨List.length_eq_zero_iff.mp (by omega), ?_⟩
  intro number
  refine (heard_from_start number events).eq_of_length_le ?_
  have later := (heard_before_mono (Nat.zero_le number) events).length_le
  omega

theorem Course.waits (course : (ofFanOut request handles).Course handles events opened progress)
    (pending : opened ≠ []) :
    ∃ exchange, progress = .goOn exchange ∧ exchange.look? = none := by
  cases course.told rfl with
  | unlooked after =>
      refine ⟨_, rfl, ?_⟩
      have heard := heard_before_all (show looks events ≤ 0 by omega)
      have missing : ((ofFanOut request handles).collected (arrivals events)).satisfies .tasks ≠
          true := by
        intro enough
        rw [← heard] at enough
        exact pending (course.drained enough).1
      exact if_neg missing
  | counted after enough => exact absurd (course.drained enough).1 pending
  | unfailed after enough none => exact absurd (course.drained enough).1 pending
  | failed after enough failed => exact absurd (course.drained enough).1 pending
  | replied after enough none => exact absurd (course.drained enough).1 pending

theorem Course.answered (course : (ofFanOut request handles).Course handles events [] progress) :
    ((ofFanOut request handles).collected (arrivals events)).satisfies .tasks = true := by
  have sizes := course.split.length_eq
  rw [List.append_nil, List.length_map] at sizes
  rw [collected_eq]
  simp [Collector.satisfies, ofFanOut, sizes]

/-- What a fan-out returns tells of every target. -/
theorem Course.gathers {result : Except ClientError (List (String × Response))}
    (course : (ofFanOut request handles).Course handles events opened (.finished result))
    (names : handles.map (·.qualifier) = targets) :
    opened = [] ∧ (ofFanOut request handles).Gathers targets (arrivals events) result := by
  have split := course.split
  have complete : opened = [] → ((arrivals events).map (·.handle.qualifier)).Perm targets := by
    intro none
    rw [none, List.append_nil] at split
    have named := split.map (·.qualifier)
    rwa [List.map_map, names] at named
  have replied (heard : List Arrival) : (∀ arrival ∈ heard, ∃ reply,
      (ofFanOut request handles).note arrival = .ok reply) ↔
        ∀ arrival ∈ heard, arrival.IsReply := by
    simp only [note_iff_reply]
  cases course.told rfl with
  | @failed cause after enough failed =>
      obtain ⟨none, heard⟩ := course.drained enough
      rw [heard] at failed
      obtain ⟨before, arrival, later, split, noted, earlier⟩ := (first_failure_iff rfl).mp failed
      refine ⟨none, complete none, ?_, by simp, ?_⟩
      · constructor
        · rintro ⟨replies, impossible⟩
          cases impossible
        · intro all
          have member : arrival ∈ arrivals events := by simp [split]
          obtain ⟨reply, succeeded⟩ := note_iff_reply.mpr (all arrival member)
          cases noted.symm.trans succeeded
      · intro other same
        cases same
        exact ⟨before, arrival, later, split, noted, (replied before).mp earlier⟩
  | replied after enough unfailed =>
      obtain ⟨none, heard⟩ := course.drained enough
      rw [heard] at unfailed
      have all := (replied _).mp ((no_failure_iff rfl).mp unfailed)
      refine ⟨none, complete none, ⟨fun _ => all, fun _ => ⟨_, rfl⟩⟩, ?_, by simp⟩
      rw [heard, collected_eq]
      intro replies same
      cases same
      have paired := @replies_heard request handles _ all
      refine ⟨?_, paired⟩
      have names := congrArg (List.map (·.1)) paired
      rw [List.map_map, List.map_map] at names
      exact names ▸ complete none

end Exchange

namespace Network

def WaitsFor (network : Network) (index number : Nat) : Prop :=
  ∃ exchange, network.Runs index number exchange ∧ exchange.look? = none

variable {network next : Network} {index number : Nat}

theorem parcel_of_reached {deeds : List Deed} {place : Nat} {request : Request}
    (happens : network.Happens deeds next) (reached : .reaches number place request ∈ deeds) :
    ∃ parcel ∈ network.parcels, parcel.exchange = number := by
  cases happens with
  | delivered found unsent left target =>
      cases List.mem_singleton.mp reached
      exact ⟨_, List.mem_of_getElem? found, rfl⟩
  | worked target running stepped => cases List.mem_singleton.mp reached
  | advanced advances changes =>
      obtain ⟨exchange, requests, impossible⟩ := posts_of_posting reached
      cases impossible
  | begun begins adds => cases List.mem_singleton.mp reached
  | failed found unsent left => cases reached
  | forged found unsent left why => cases reached
  | received found answered => cases reached
  | passed => cases reached

theorem OnCourse.waits {request : Request} {handles : List Handle}
    (course : network.OnCourse (.ofFanOut request handles) handles index number) {parcel : Parcel}
    (inside : parcel ∈ network.parcels) (own : parcel.exchange = number) :
    network.WaitsFor index number := by
  obtain ⟨events, opened, progress, course, shows⟩ := course
  have pending : opened ≠ [] := by
    rintro rfl
    have nothing := List.map_eq_nil_iff.mp shows.opened.eq_nil
    exact List.ne_nil_of_mem (mem_transit.mpr ⟨inside, own⟩) nothing
  obtain ⟨exchange, going, blocked⟩ := course.waits pending
  exact ⟨exchange, shows.running exchange going, blocked⟩

end Network

namespace ReplicaSet

theorem fan_out_known {set : ReplicaSet} {targets : List String} (request : Request)
    (known : ∀ name ∈ targets, name ∈ set.qualifiers) :
    ∃ handles, set.fanOut targets request = .ok (.ofFanOut request handles, handles) ∧
      handles.map (·.qualifier) = targets ∧ ∀ handle ∈ handles, handle ∈ set.handles := by
  obtain ⟨handles, found, names, inside⟩ := handles_of_known known
  have count : targets.length = handles.length := by simp [← names]
  refine ⟨handles, ?_, names, inside⟩
  rw [fanOut, ask, found, Exchange.ofFanOut, ← count]
  rfl

/-- A fan-out stops at its first unknown target and sends nothing. One whose targets are all known
is over once each of them was answered, and tells of all of them. In a network no request of it
reaches a replica unless its job still waits. -/
theorem fan_out_tells_of_all (set : ReplicaSet) (targets : List String) (request : Request) :
    (∀ before unknown after, targets = before ++ unknown :: after →
      (∀ name ∈ before, name ∈ set.qualifiers) → unknown ∉ set.qualifiers →
        set.fanOut targets request = .error (.unknownReplica unknown) ∧
          ∀ (network : Network) index errand client policy,
            network.install index errand set client
                (Attempt.start set client policy (.query (.fanOut targets request))) =
              network.setJob index (.finished (.error (.unknownReplica unknown)))) ∧
    ((∀ name ∈ targets, name ∈ set.qualifiers) →
      ∃ exchange handles, set.fanOut targets request = .ok (exchange, handles) ∧
        handles.map (·.qualifier) = targets ∧ (∀ handle ∈ handles, handle ∈ set.handles) ∧
        (∀ events opened result, exchange.Course handles events opened (.finished result) →
          opened = [] ∧ exchange.Gathers targets (arrivals events) result) ∧
        (∀ events progress, exchange.Course handles events [] progress →
          exchange.Returns handles events []) ∧
        ∀ (network later : Network) index job errand client stage record, network.Numbered →
          network.jobs[index]? = some job → stage.exchange? = some exchange →
          Network.History
              (network.install index errand set client (.post stage request handles)) record
              later →
            later.OnCourse exchange handles index network.exchanges ∧
              ∀ occurrence deeds next place other,
                later.undergo? occurrence = some (deeds, next) →
                  .reaches network.exchanges place other ∈ deeds →
                    later.WaitsFor index network.exchanges) := by
  constructor
  · intro before unknown after split known absent
    have stopped : set.fanOut targets request = .error (.unknownReplica unknown) := by
      rw [fanOut, ask, split, handles_of_unknown known absent]
      rfl
    refine ⟨stopped, ?_⟩
    intro network index errand client policy
    have failing : Attempt.start set client policy (.query (.fanOut targets request)) =
        .failing (.unknownReplica unknown) := by
      simp only [Attempt.start, AttemptStep.asking, Query.check, Query.ask, stopped]
    simp [failing, Network.install, Network.conclude, AttemptStep.failing, ClientError.isTransport]
  · intro known
    obtain ⟨handles, asked, names, inside⟩ := fan_out_known request known
    refine ⟨.ofFanOut request handles, handles, asked, names, inside, ?_, ?_, ?_⟩
    · intro events opened result course
      exact course.gathers names
    · intro events progress course
      exact course.returns rfl course.answered
    · intro network later index job errand client stage record numbered found posts history
      have course := Network.on_course_of_history numbered found posts history
      refine ⟨course, ?_⟩
      intro occurrence deeds next place other undergone reached
      have happens := Network.happens_of_undergo undergone
      obtain ⟨parcel, there, own⟩ := Network.parcel_of_reached happens reached
      exact course.waits there own

private def twoHandles : List Handle := [⟨⟨"A", "local:1"⟩, 0, 0⟩, ⟨⟨"B", "local:2"⟩, 1, 0⟩]

private def freeing : Query := .fanOut ["A", "B"] (.release ⟨1⟩)

/-- A job that is about to have two replicas free what a client holds. -/
private def idleNetwork : Network :=
  { cluster :=
      { nodes :=
          [{ qualifier := "A", service := .start 1 }, { qualifier := "B", service := .start 1 }] }
    jobs := [.running { session := 0, operation := .query freeing }] }

/-- The second replica cannot be reached, and the first one answers after that is known. Sent
through a network, the request reaches the second replica while the job waits. -/
theorem fan_out_tells_of_all_of_release :
    ReplicaSet.fanOut ⟨twoHandles⟩ ["A", "C", "D"] (.release ⟨1⟩) =
        .error (.unknownReplica "C") ∧
      ∃ exchange, ReplicaSet.fanOut ⟨twoHandles⟩ ["A", "B"] (.release ⟨1⟩) =
          .ok (exchange, twoHandles) ∧
        (∃ events, exchange.Course twoHandles events []
            (.finished (.error (.transport (.unreachable "B" "request dropped")))) ∧
          exchange.Gathers ["A", "B"] (arrivals events)
            (.error (.transport (.unreachable "B" "request dropped")))) ∧
        Network.WaitsFor
          (idleNetwork.install 0 { session := 0, operation := .query freeing } ⟨twoHandles⟩ ⟨1⟩
            (.post (.asking freeing exchange) (.release ⟨1⟩) twoHandles)) 0 0 := by
  have unknown := (fan_out_tells_of_all ⟨twoHandles⟩ ["A", "C", "D"] (.release ⟨1⟩)).1 ["A"] "C"
    ["D"] rfl (by decide) (by decide)
  obtain ⟨exchange, handles, asked, _, _, tells, _, confined⟩ :=
    (fan_out_tells_of_all ⟨twoHandles⟩ ["A", "B"] (.release ⟨1⟩)).2 (by decide)
  have posted : ReplicaSet.fanOut ⟨twoHandles⟩ ["A", "B"] (.release ⟨1⟩) =
      .ok (.ofFanOut (.release ⟨1⟩) twoHandles, twoHandles) := rfl
  cases posted.symm.trans asked
  refine ⟨unknown.1, _, posted, ?_, ?_⟩
  · have first : twoHandles.Perm
        ((⟨twoHandles[1], .error (.unreachable "B" "request dropped")⟩ : Arrival).handle ::
          [twoHandles[0]]) := List.Perm.swap ..
    have second : [twoHandles[0]].Perm
        ((⟨twoHandles[0], .ok (.ok .released)⟩ : Arrival).handle :: []) := List.Perm.refl _
    have sent : (Exchange.ofFanOut (.release ⟨1⟩) twoHandles).Course twoHandles [] twoHandles _ :=
      .posted
    have heard := Exchange.Course.arrived (.arrived sent first) second
    have counted := Exchange.Course.looked heard rfl
    have course := Exchange.Course.looked counted rfl
    exact ⟨_, course, (tells _ _ _ course).2⟩
  · obtain ⟨_, waits⟩ := confined idleNetwork _ 0 _ { session := 0, operation := .query freeing }
      ⟨1⟩ (.asking freeing (.ofFanOut (.release ⟨1⟩) twoHandles)) [] (by simp [Network.Numbered,
        idleNetwork]) rfl rfl .start
    exact waits (.event (.send 1)) _ _ 1 (.release ⟨1⟩) rfl (by decide)

end ReplicaSet

end TupleSpace
