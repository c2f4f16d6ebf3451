import TupleSpace.Client.Gathering

/-!
# Wakeups of a collector

Threads record replies in a collector, set its count of tasks and wait on it, each under its lock
and in any order. A thread parks on a collector that it has just seen, and whoever changes the
collector wakes all threads that are parked. So a parked thread has always seen the collector as
it is, and none of them is parked although what it waits for has come.
-/

namespace TupleSpace

inductive GatheringEvent (α : Type)
  /-- Records a reply or a failure, by itself or through a callback. -/
  | record (reply : Except ClientError α)
  | setTaskCount (count : Nat)
  | arrive (wait : Wait)
  /-- Looks, having come or having been woken, and passes or parks. -/
  | look (waiter : Nat)

namespace Gathering

variable {α : Type}

/-- What an event does, if it is possible: only a thread that is about to look does so. -/
def perform? (gathering : Gathering α) : GatheringEvent α → Option (Gathering α)
  | .record reply => some (gathering.record reply)
  | .setTaskCount count => some (gathering.setTaskCount count)
  | .arrive wait => some (gathering.arrive wait)
  | .look index => do
      let waiter ← gathering.waiters[index]?
      if waiter.state = .looking then
        some { gathering with
          waiters := gathering.waiters.set index (look gathering.collector waiter) }
      else none

inductive Run : List (GatheringEvent α) → Gathering α → Prop
  | start : Run [] {}
  | event {events : List (GatheringEvent α)} {gathering next : Gathering α}
      {event : GatheringEvent α} (earlier : Run events gathering)
      (performed : gathering.perform? event = some next) : Run (events ++ [event]) next

variable {gathering next : Gathering α} {events : List (GatheringEvent α)} {index : Nat}
  {wait : Wait}

theorem performs_next {before after : List Waiter} {waiter : Waiter}
    (looking : waiter.state = .looking) (collector : Collector α) :
    perform? ⟨collector, before ++ waiter :: after⟩ (.look before.length) =
      some ⟨collector, before ++ look collector waiter :: after⟩ := by
  simp [perform?, looking]

/-- Letting all threads look that are about to is a run of single looks. -/
theorem run_settle (run : Run events gathering) :
    ∃ looks, Run (events ++ looks) gathering.settle := by
  -- The threads in front have looked, and those behind have not.
  have partly : ∀ (after before : List Waiter) (events : List (GatheringEvent α)),
      Run events ⟨gathering.collector, before ++ after⟩ →
        ∃ looks, Run (events ++ looks)
          ⟨gathering.collector, before ++ after.map (look gathering.collector)⟩ := by
    intro after
    induction after with
    | nil => exact fun before events run => ⟨[], by simpa using run⟩
    | cons waiter rest induction =>
        intro before events run
        by_cases looking : waiter.state = .looking
        · have next := Run.event run (performs_next looking gathering.collector)
          rw [List.append_cons before] at next
          obtain ⟨looks, done⟩ := induction _ _ next
          exact ⟨.look before.length :: looks, by simpa using done⟩
        · have still : look gathering.collector waiter = waiter := if_neg looking
          rw [List.append_cons before] at run
          obtain ⟨looks, done⟩ := induction _ _ run
          exact ⟨looks, by simpa [still] using done⟩
  exact partly gathering.waiters [] events run

def replay? (gathering : Gathering α) : List (GatheringEvent α) → Option (Gathering α)
  | [] => some gathering
  | event :: later => (gathering.perform? event).bind (·.replay? later)

theorem run_of_replay {more : List (GatheringEvent α)} (earlier : Run events gathering)
    (replayed : gathering.replay? more = some next) : Run (events ++ more) next := by
  induction more generalizing events gathering with
  | nil =>
      cases replayed
      simpa using earlier
  | cons event later induction =>
      obtain ⟨middle, performed, replayed⟩ := Option.bind_eq_some_iff.mp replayed
      simpa using induction (.event earlier performed) replayed

end Gathering

end TupleSpace
