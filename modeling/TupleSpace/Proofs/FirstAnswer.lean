import TupleSpace.Proofs.ExchangeCourse

/-!
# The first answer to a read

A read asks every replica and waits for one answer. That it has one, that nothing failed, and what
was replied it sees at three moments, between which other answers arrive. So the tuple that arrives
first is what the read returns, unless a failure arrives before the second of these moments: then
the read fails although it had its answer.
-/

namespace TupleSpace

open CourseEvent

namespace Exchange

variable {pattern : String} {handles opened : List Handle} {events : List CourseEvent}

def ofRead (pattern : String) (handles : List Handle) : Exchange :=
  { request := .read pattern
    expected? := some .tuple
    wait := .count 1
    collector := { outstanding := handles.length } }

def readResult (pattern : String) (result : Except ClientError (List (String × Response))) :
    Except ClientError Outcome :=
  result.bind (Query.conclude · (.read pattern))

theorem advance_reads {attempt : Attempt} {exchange : Exchange}
    {result : Except ClientError (List (String × Response))}
    (reading : attempt.stage = .asking (.read pattern) exchange)
    (looked : exchange.look? = some (.finished result)) :
    attempt.advance? = some (.ended (readResult pattern result)) := by
  rw [Attempt.advance?, reading]
  simp only [looked, Option.map_some]
  cases result with
  | error cause => rfl
  | ok replies => rfl

theorem counted_arrivals (exchange : Exchange) (heard : List Arrival) :
    (heard.filterMap exchange.replied?).length + (heard.filterMap exchange.failed?).length =
      heard.length := by
  induction heard with
  | nil => rfl
  | cons arrival rest induction =>
      cases noted : exchange.note arrival with
      | ok reply =>
          simp only [List.filterMap_cons, replied?, failed?, noted, Except.toOption,
            List.length_cons] at induction ⊢
          omega
      | error cause =>
          simp only [List.filterMap_cons, replied?, failed?, noted, Except.toOption,
            List.length_cons] at induction ⊢
          omega

/-- Whether a read has its answer depends on whether anything has arrived. -/
theorem enough_iff {heard : List Arrival} :
    ((ofRead pattern handles).collected heard).satisfies (.count 1) = true ↔ heard ≠ [] := by
  have counted := counted_arrivals (ofRead pattern handles) heard
  rw [collected_eq, Collector.satisfies, decide_eq_true_iff, ← List.length_pos_iff]
  simp only [ofRead, List.nil_append] at counted ⊢
  omega

theorem heard_first {number : Nat} {arrival : Arrival}
    (enough : ((ofRead pattern handles).collected (heardBefore 0 events)).satisfies (.count 1) =
      true)
    (first : (arrivals events).head? = some arrival) :
    (heardBefore number events).head? = some arrival := by
  have known := (heard_before_mono (Nat.zero_le number) events).length_le
  have something := List.length_pos_iff.mpr (enough_iff.mp enough)
  obtain ⟨after, whole⟩ := heard_from_start number events
  rw [← whole] at first
  cases heard : heardBefore number events with
  | nil =>
      rw [heard] at known
      simp only [List.length_nil] at known
      omega
  | cons other rest =>
      rw [heard] at first
      exact first

/-- If the first arrival is a tuple, a read returns it or the first failure that arrived before the
second look. -/
theorem Course.read_result {result : Except ClientError (List (String × Response))}
    {arrival : Arrival} {reply : String × Response} {tuple : String}
    (course : (ofRead pattern handles).Course handles events opened (.finished result))
    (first : (arrivals events).head? = some arrival)
    (noted : (ofRead pattern handles).note arrival = .ok reply)
    (answer : reply.2.tuple? = some tuple) :
    readResult pattern result =
      match ((ofRead pattern handles).collected (heardBefore 1 events)).firstFailure? with
      | some cause => .error cause
      | none => .ok (.tuple tuple) := by
  cases course.told rfl with
  | failed after enough failed =>
      rw [failed]
      rfl
  | replied after enough none =>
      rw [none]
      have heard : (heardBefore 2 events).head? = some arrival := heard_first enough first
      obtain ⟨rest, split⟩ := List.head?_eq_some_iff.mp heard
      have replies : ((ofRead pattern handles).collected (heardBefore 2 events)).responses =
          reply :: rest.filterMap (ofRead pattern handles).replied? := by
        rw [collected_eq, split, List.filterMap_cons, (replied_iff _ _).mpr noted]
        rfl
      rw [replies]
      simp [readResult, Except.bind, Query.conclude, answer]

end Exchange

namespace ReplicaSet

theorem read_asks {set : ReplicaSet} (inhabited : set.isEmpty = false) (pattern : String) :
    ∃ handles, Query.ask set (.read pattern) = .ok (.ofRead pattern handles, handles) ∧
      handles.map (·.qualifier) = set.qualifiers := by
  obtain ⟨handles, found, names, _⟩ := handles_of_known fun name (known : name ∈ set.qualifiers) =>
    known
  have count : set.qualifiers.length = handles.length := by simp [← names]
  refine ⟨handles, ?_, names⟩
  rw [Query.ask, inhabited, askAll, ask, found, Exchange.ofRead, ← count]
  rfl

/-- Once anything has arrived a read comes to a result. If the first that arrived is a tuple, the
read returns it just if nothing that arrived before its second look has failed, and else the first
of these failures. -/
theorem read_returns_first_iff (set : ReplicaSet) (inhabited : set.isEmpty = false)
    (pattern : String) :
    ∃ exchange handles, Query.ask set (.read pattern) = .ok (exchange, handles) ∧
      handles.map (·.qualifier) = set.qualifiers ∧
      ∀ events opened arrival, (arrivals events).head? = some arrival →
        (∀ progress, exchange.Course handles events opened progress →
          exchange.Returns handles events opened) ∧
        ∀ result reply tuple, exchange.Course handles events opened (.finished result) →
          exchange.note arrival = .ok reply → reply.2.tuple? = some tuple →
            (Exchange.readResult pattern result = .ok (.tuple tuple) ↔
              ∀ other ∈ heardBefore 1 events, ∃ reply, exchange.note other = .ok reply) ∧
            ∀ before failed after cause, heardBefore 1 events = before ++ failed :: after →
              (∀ other ∈ before, ∃ reply, exchange.note other = .ok reply) →
                exchange.note failed = .error cause →
                  Exchange.readResult pattern result = .error cause := by
  obtain ⟨handles, asked, names⟩ := read_asks inhabited pattern
  refine ⟨.ofRead pattern handles, handles, asked, names, ?_⟩
  intro events opened arrival first
  constructor
  · intro progress course
    refine course.returns rfl (Exchange.enough_iff.mpr ?_)
    intro none
    rw [none] at first
    cases first
  · intro result reply tuple course noted answer
    have clean : (Exchange.ofRead pattern handles).collector.failures = [] := rfl
    have read := course.read_result first noted answer
    refine ⟨?_, ?_⟩
    · rw [← Exchange.no_failure_iff clean, read]
      cases (Exchange.collected _ _).firstFailure? with
      | none => simp
      | some cause => simp
    · intro before failed after cause split earlier refused
      have failure := (Exchange.first_failure_iff clean).mpr
        ⟨before, failed, after, split, refused, earlier⟩
      rw [read, failure]

private def nearAndFar : List Handle := [⟨⟨"A", "local:1"⟩, 0, 0⟩, ⟨⟨"B", "local:2"⟩, 1, 0⟩]

private def nearTuple : Arrival := ⟨⟨⟨"A", "local:1"⟩, 0, 0⟩, .ok (.ok (.read "<a>"))⟩

private def farLoss : Arrival :=
  ⟨⟨⟨"B", "local:2"⟩, 1, 0⟩, .error (.unreachable "B" "request dropped")⟩

/-- The failure of the other replica arrives when the read has looked for failures already. -/
theorem read_returns_first_of_late_failure :
    ∃ exchange events result, Query.ask ⟨nearAndFar⟩ (.read "<a>") = .ok (exchange, nearAndFar) ∧
      exchange.Course nearAndFar events [] (.finished result) ∧
      arrivals events = [nearTuple, farLoss] ∧
      Exchange.readResult "<a>" result = .ok (.tuple "<a>") := by
  obtain ⟨exchange, handles, asked, _, reads⟩ :=
    read_returns_first_iff ⟨nearAndFar⟩ (by decide) "<a>"
  have posted : Query.ask ⟨nearAndFar⟩ (.read "<a>") =
      .ok (.ofRead "<a>" nearAndFar, nearAndFar) := rfl
  cases posted.symm.trans asked
  have near : nearAndFar.Perm (nearTuple.handle :: [farLoss.handle]) := List.Perm.refl _
  have far : [farLoss.handle].Perm (farLoss.handle :: []) := List.Perm.refl _
  have sent : (Exchange.ofRead "<a>" nearAndFar).Course nearAndFar [] nearAndFar _ := .posted
  have counted := Exchange.Course.looked (.arrived sent near) rfl
  have unfailed := Exchange.Course.looked counted rfl
  have course := Exchange.Course.looked (.arrived unfailed far) rfl
  have first : (arrivals [.arrived nearTuple, .looked, .looked, .arrived farLoss, .looked]).head? =
      some nearTuple := rfl
  have returned := ((reads _ _ _ first).2 _ ("A", .read "<a>") "<a>" course rfl rfl).1.mpr
  refine ⟨_, _, _, posted, course, rfl, returned ?_⟩
  intro other member
  rw [List.mem_singleton.mp member]
  exact ⟨_, rfl⟩

/-- The first arrival is the tuple, and the read fails, for the other replica fails between the
first two looks. -/
theorem first_answer_lost :
    ∃ exchange events result, Query.ask ⟨nearAndFar⟩ (.read "<a>") = .ok (exchange, nearAndFar) ∧
      exchange.Course nearAndFar events [] (.finished result) ∧
      (arrivals events).head? = some nearTuple ∧
      exchange.note nearTuple = .ok ("A", .read "<a>") ∧
      Exchange.readResult "<a>" result =
        .error (.transport (.unreachable "B" "request dropped")) := by
  have near : nearAndFar.Perm (nearTuple.handle :: [farLoss.handle]) := List.Perm.refl _
  have far : [farLoss.handle].Perm (farLoss.handle :: []) := List.Perm.refl _
  have sent : (Exchange.ofRead "<a>" nearAndFar).Course nearAndFar [] nearAndFar _ := .posted
  have counted := Exchange.Course.looked (.arrived sent near) rfl
  have course := Exchange.Course.looked (.arrived counted far) rfl
  exact ⟨_, _, _, rfl, course, rfl, rfl, rfl⟩

end ReplicaSet

end TupleSpace
