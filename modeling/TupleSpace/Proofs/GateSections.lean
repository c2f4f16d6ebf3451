import TupleSpace.Proofs.Wakeups

/-!
# Sections at the gate

Threads that share a gate act on it and on its store in sections. The sections so far tell what has
happened: which turns have ended and with what, which tickets were given out, each for one number
or for a take without one, and which tuples were collected and reported. No section lets the gate or
the store disagree with that.
-/

namespace TupleSpace

/-! ## Outcomes of an operation -/

/-- What may come of an operation. Nothing but its argument is ever at fault. -/
inductive OpOutcome.Befits : OpOutcome → SequencedOp → Prop
  | stored {tuple : String} : Befits .stored (.put tuple)
  | taken {source tuple : String} : Befits (.taken tuple) (.take source)
  | waiting {source : String} : Befits .waiting (.take source)
  | failed {op : SequencedOp} {cause : StoreError} (fault : cause = op.refusal) :
      Befits (.failed cause) op

theorem SequencedOp.befits_apply (op : SequencedOp) (store : Store) :
    (OpOutcome.ofResult (op.apply store).1).Befits op := by
  cases result : (op.apply store).1 with
  | error cause => exact .failed (refused_for result)
  | ok applied =>
      have applies := op.applies store
      rw [result] at applies
      generalize (op.apply store).2 = next at applies
      cases applies <;> constructor

theorem Deliveries.CameTo.befits {past : Deliveries} {turn : AppliedTurn} {outcome : OpOutcome}
    (came : past.CameTo turn outcome) (befits : (OpOutcome.ofResult turn.result).Befits turn.op) :
    outcome.Befits turn.op := by
  obtain ⟨number, op, result⟩ := turn
  cases came with
  | settled => exact befits
  | received queued =>
      cases queued
      cases befits
      exact .taken
  | waiting queued =>
      cases queued
      exact befits

theorem Gate.repeated_final {gate : Gate} {number ticket : Nat} {op : SequencedOp} :
    gate.repeated number op ≠ .answer (.ok (.queued ticket)) := by
  unfold repeated
  split
  · split
    · split <;> nofun
    · nofun
  · nofun

/-! ## Tickets -/

def StoreEvent.queued? : StoreEvent → Option Nat
  | queued ticket => some ticket
  | _ => none

theorem Store.Undergoes.range {store next : Store} {event : StoreEvent}
    (undergoes : store.Undergoes event next) :
    List.range next.nextTicket = List.range store.nextTicket ++ event.queued?.toList := by
  cases undergoes with
  | queued => exact List.range_succ
  | collected collected =>
      obtain ⟨before, behind, _, rfl⟩ := collect_split collected
      exact (List.append_nil _).symm
  | _ => exact (List.append_nil _).symm

namespace Store.Accounts

variable {store : Store} {events : List StoreEvent} {ticket : Nat}

/-- A ticket that was given out is queued, has a tuple on hand, or has had one. -/
theorem place (accounts : store.Accounts events) (below : ticket < store.nextTicket) :
    ticket ∈ store.pending.map (·.ticket) ∨ ticket ∈ store.handoffs.map (·.1) ∨
      ∃ tuple, (ticket, tuple) ∈ events.filterMap (·.collected?) := by
  have member := accounts.tickets.mem_iff.mpr (List.mem_range.mpr below)
  simp only [List.mem_append, or_assoc] at member
  refine member.imp_right (Or.imp_right fun spent => ?_)
  obtain ⟨⟨_, tuple⟩, collected, rfl⟩ := List.mem_map.mp spent
  exact ⟨tuple, collected⟩

theorem collected_below (accounts : store.Accounts events) {tuple : String}
    (collected : (ticket, tuple) ∈ events.filterMap (·.collected?)) :
    ticket < store.nextTicket := by
  refine List.mem_range.mp (accounts.tickets.mem_iff.mp ?_)
  exact List.mem_append_right _ (List.mem_map_of_mem (f := (·.1)) collected)

end Store.Accounts

namespace Replica

variable {replica : Replica} {task : Task} {ticket : Nat} {tuple : String}

theorem turn_of_none {number : Nat} {op : SequencedOp} {goal : TurnGoal}
    (ordinary : replica.turnOf? (.turn number op goal) = none) : number ≠ replica.gate.next := by
  intro now
  simp [turnOf?, now] at ordinary

theorem next_of_ordinary (ordinary : replica.turnOf? task = none) :
    (replica.step task).replica.gate.next = replica.gate.next := by
  cases task with
  | turn number op goal => rw [replica.step_out_of_turn (turn_of_none ordinary)]
  | note number tuple => exact replica.gate.next_of_amend ..
  | _ => rw [gate_step replica rfl]

/-- What a task goes on with: a wait under the ticket that it was given, or a report of the tuple
that it has collected. -/
inductive LeadsTo (replica : Replica) : Task → Task → Prop
  | turn {op : SequencedOp} {goal : TurnGoal} {ticket : Nat}
      (queued : (op.apply replica.store).1 = .ok (.queued ticket)) :
      LeadsTo replica (.turn replica.gate.next op goal) (.handoff ticket (some replica.gate.next))
  | take {pattern : Pattern} {ticket : Nat}
      (queued : replica.event (.take pattern) = .queued ticket) :
      LeadsTo replica (.take pattern) (.handoff ticket none)
  | handoff {ticket number : Nat} {tuple : String}
      (collected : replica.event (.handoff ticket (some number)) = .collected ticket tuple) :
      LeadsTo replica (.handoff ticket (some number)) (.note number tuple)

theorem leads_to {following : Task} (move : (replica.step task).move = .goOn following) :
    replica.LeadsTo task following := by
  cases task with
  | turn number op goal =>
      rcases Nat.lt_trichotomy number replica.gate.next with below | rfl | ahead
      · rw [step_past below] at move
        cases repeated : replica.gate.repeated number op with
        | wait =>
            rw [repeated] at move
            cases move
        | answer result =>
            rw [repeated] at move
            obtain ⟨ticket, rfl, _⟩ := TurnGoal.goes_on move
            exact absurd repeated Gate.repeated_final
      · rw [step_now] at move
        obtain ⟨ticket, queued, rfl⟩ := TurnGoal.goes_on move
        exact .turn queued
      · rw [step_ahead ahead] at move
        cases move
  | take pattern =>
      rcases taking : replica.store.takeOrEnqueue pattern with ⟨_ | ticket, store⟩
      · simp [step, taking] at move
      · simp only [step, taking] at move
        cases move
        exact .take (by simp [event, step, taking])
  | handoff ticket number? =>
      cases found : replica.store.collect? ticket with
      | none => simp [step, found] at move
      | some pair =>
          cases number? with
          | none => simp [step, found] at move
          | some number =>
              simp only [step, found] at move
              cases move
              exact .handoff (by simp [event, step, found])
  | _ =>
      simp only [step] at move
      first
        | cases move
        | split at move <;> cases move

theorem waits_of_collected (collected : replica.event task = .collected ticket tuple) :
    ∃ number?, task = .handoff ticket number? := by
  unfold event at collected
  split at collected
  case h_7 | h_8 =>
    cases collected
    exact ⟨_, rfl⟩
  case h_9 op _ =>
    split at collected
    · have other := StoreEvent.collected_of_turn op (op.apply replica.store).1
      rw [collected] at other
      cases other
    · cases collected
  all_goals cases collected

theorem reports_of_collected {number : Nat}
    (collected : replica.event (.handoff ticket (some number)) = .collected ticket tuple) :
    (replica.step (.handoff ticket (some number))).move = .goOn (.note number tuple) := by
  cases found : replica.store.collect? ticket with
  | none => simp [event, step, found] at collected
  | some pair =>
      simp only [event, step, found] at collected ⊢
      cases collected
      rfl

end Replica

namespace Threads

/-! ## Sections of threads -/

/-- A section that a thread carried out: where the thread stood, and on which replica. -/
structure Passage where
  index : Nat
  before : Replica
  state : Thread

namespace Passage

def turn? : Passage → Option AppliedTurn
  | ⟨_, before, .inTurn op _ result⟩ => some ⟨before.gate.next, op, result⟩
  | _ => none

/-- What happened to the store. In a turn that is when the operation is applied. -/
def event : Passage → StoreEvent
  | ⟨_, before, .ready task⟩ => before.event task
  | _ => .quiet

def delivered? : Passage → Option (Nat × String)
  | ⟨_, before, .ready task⟩ => before.delivered? task
  | _ => none

/-- The ticket that was given out, with the number of the take if it had one. -/
def issued? : Passage → Option (Nat × Option Nat)
  | ⟨_, before, .ready task⟩ =>
      (before.event task).queued?.map fun ticket => (ticket, task.number?)
  | _ => none

theorem issued_tickets (passage : Passage) :
    passage.issued?.toList.map (·.1) = passage.event.queued?.toList := by
  obtain ⟨index, before, state⟩ := passage
  cases state with
  | ready task =>
      simp only [issued?, event]
      cases (before.event task).queued? <;> rfl
  | _ => rfl

theorem collected_of_issued {passage : Passage} {ticket : Nat} {number? : Option Nat}
    (issued : passage.issued? = some (ticket, number?)) : passage.event.collected? = none := by
  have tickets := passage.issued_tickets
  rw [issued] at tickets
  cases event : passage.event with
  | collected => simp [event, StoreEvent.queued?] at tickets
  | _ => rfl

theorem collected_event {passage : Passage} {ticket : Nat} {tuple : String}
    (collected : passage.event.collected? = some (ticket, tuple)) :
    passage.event = .collected ticket tuple := by
  generalize passage.event = event at collected ⊢
  cases event <;> cases collected
  rfl

end Passage

def deliveries (log : List Passage) : Deliveries where
  turns := log.filterMap (·.turn?)
  collected := (log.map (·.event)).filterMap (·.collected?)
  delivered := log.filterMap (·.delivered?)

def issued (log : List Passage) : List (Nat × Option Nat) := log.filterMap (·.issued?)

/-- A turn is after what its operation gives. A wait without a number is under the ticket of a take
without a number. -/
def Regular (log : List Passage) : Task → Prop
  | .turn _ op goal => goal.Suits op
  | .handoff ticket none => (ticket, none) ∈ issued log
  | _ => True

/-- The states that a gate and its store come to under calls from several threads, in any order of
the sections, with the sections so far. A number and a ticket are waited for only where a turn was
answered with them. -/
inductive Gated (first : Nat) : List Passage → Threads → Prop
  | start : Gated first [] ⟨{ gate := { next := first } }, []⟩
  | call {log : List Passage} {threads : Threads} {task : Except StoreError Task}
      (earlier : Gated first log threads) (admitted : (deliveries log).Admits task)
      (regular : ∀ asked, task = .ok asked → Regular log asked) :
      Gated first log (threads.call task)
  | act {log : List Passage} {threads next : Threads} {index : Nat} {state : Thread}
      (earlier : Gated first log threads) (stands : threads.states[index]? = some state)
      (acted : threads.act? index = some next) :
      Gated first (log ++ [⟨index, threads.replica, state⟩]) next

/-- What a section does, by where its thread stands. -/
inductive Passes (threads : Threads) (index : Nat) : Thread → Threads → Prop
  | enter {op : SequencedOp} {goal : TurnGoal} (unlocked : threads.isLocked = false) :
      Passes threads index (.ready (.turn threads.replica.gate.next op goal))
        (threads.enter index op goal)
  | leave {op : SequencedOp} {goal : TurnGoal} {result : Except StoreError Applied} :
      Passes threads index (.inTurn op goal result) (threads.leave index op goal result)
  | step {task : Task} (ordinary : threads.replica.turnOf? task = none) :
      Passes threads index (.ready task)
        (threads.install index (threads.replica.step task).replica
          (.ofMove threads.replica.gate task (threads.replica.step task).move)
          (threads.replica.step task).signals)

variable {threads next : Threads} {index position : Nat} {state moved : Thread}
  {replica : Replica} {signals : List Signal}

theorem passes_of_act (stands : threads.states[index]? = some state)
    (acted : threads.act? index = some next) : threads.Passes index state next := by
  unfold act? at acted
  rw [stands] at acted
  cases state with
  | ready task =>
      dsimp only at acted
      split at acted
      · cases acted
      · rename_i free
        cases turn : threads.replica.turnOf? task with
        | none =>
            rw [turn] at acted
            cases acted
            exact .step turn
        | some pair =>
            obtain ⟨op, goal⟩ := pair
            rw [turn] at acted
            cases acted
            cases task with
            | turn number asked aim =>
                unfold Replica.turnOf? at turn
                dsimp only at turn
                split at turn
                · rename_i now
                  subst now
                  cases turn
                  exact .enter (by simpa [Task.concernsGate] using free)
                · cases turn
            | _ => cases turn
  | inTurn op goal result =>
      cases acted
      exact .leave
  | _ => cases acted

theorem installed_own (stands : threads.states[index]? = some state) :
    (threads.install index replica moved signals).states[index]? = some (moved.woken signals) := by
  have within := (List.getElem?_eq_some_iff.mp stands).1
  rw [install, List.getElem?_map, List.getElem?_set_self within]
  rfl

theorem installed_other (other : position ≠ index) :
    (threads.install index replica moved signals).states[position]? =
      threads.states[position]?.map (.woken signals) := by
  rw [install, List.getElem?_map, List.getElem?_set_ne other.symm]

theorem called_stands (stands : threads.states[position]? = some state)
    (task : Except StoreError Task) : (threads.call task).states[position]? = some state := by
  rw [Threads.call, List.getElem?_append_left (List.getElem?_eq_some_iff.mp stands).1, stands]

def inTurnAt (threads : Threads) (position : Nat) : Bool :=
  threads.states[position]?.any (·.isInTurn)

theorem in_turn_at_unlocked (unlocked : threads.isLocked = false) (position : Nat) :
    threads.inTurnAt position = false := by
  unfold inTurnAt
  cases stands : threads.states[position]? with
  | none => rfl
  | some state =>
      simpa using List.any_eq_false.mp unlocked state (List.mem_of_getElem? stands)

theorem in_turn_at_call {task : Except StoreError Task}
    (inTurn : (threads.call task).inTurnAt position = true) :
    threads.inTurnAt position = true := by
  unfold inTurnAt at inTurn ⊢
  rw [Threads.call, List.getElem?_append] at inTurn
  split at inTurn
  · exact inTurn
  · rw [List.getElem?_singleton] at inTurn
    split at inTurn
    · cases task <;> cases inTurn
    · cases inTurn

theorem woken_in_turn (signals : List Signal) (state : Thread) :
    (state.woken signals).isInTurn = state.isInTurn := by
  cases state with
  | parked task signal wait? =>
      rw [Thread.woken]
      split <;> rfl
  | _ => rfl

theorem not_in_turn_of_move (gate : Gate) (task : Task) (move : Move) :
    (Thread.ofMove gate task move).isInTurn ≠ true := by
  cases move <;> nofun

theorem in_turn_at_install (stands : threads.states[index]? = some state) (position : Nat) :
    (threads.install index replica moved signals).inTurnAt position =
      if position = index then moved.isInTurn else threads.inTurnAt position := by
  unfold inTurnAt
  split
  · rename_i own
    rw [own, installed_own stands, Option.any_some, woken_in_turn]
  · rename_i other
    rw [installed_other other, Option.any_map]
    simp only [woken_in_turn]

theorem installed_cases (stands : threads.states[index]? = some state) {now : Thread}
    (found : (threads.install index replica moved signals).states[position]? = some now) :
    ∃ before, now = before.woken signals ∧
      (position = index ∧ before = moved ∨
        position ≠ index ∧ threads.states[position]? = some before) := by
  by_cases own : position = index
  · subst own
    rw [installed_own stands] at found
    exact ⟨moved, (Option.some.inj found).symm, Or.inl ⟨rfl, rfl⟩⟩
  · rw [installed_other own] at found
    obtain ⟨before, stood, same⟩ := Option.map_eq_some_iff.mp found
    exact ⟨before, same.symm, Or.inr ⟨own, stood⟩⟩

/-! ## The gate and its store -/

theorem deliveries_concat (log : List Passage) (passage : Passage) :
    deliveries (log ++ [passage]) =
      { turns := (deliveries log).turns ++ passage.turn?.toList
        collected := (deliveries log).collected ++ passage.event.collected?.toList
        delivered := (deliveries log).delivered ++ passage.delivered?.toList } := by
  simp only [deliveries, List.map_append, List.map_singleton, filter_map_concat]

theorem issued_concat (log : List Passage) (passage : Passage) :
    issued (log ++ [passage]) = issued log ++ passage.issued?.toList :=
  filter_map_concat ..

theorem extends_concat (log : List Passage) (passage : Passage) :
    (deliveries log).Extends (deliveries (log ++ [passage])) := by
  rw [deliveries_concat]
  exact ⟨List.subset_append_left _ _, List.subset_append_left _ _⟩

structure Books (first : Nat) (log : List Passage) (replica : Replica) : Prop where
  recounts : replica.gate.Recounts first (deliveries log)
  accounts : replica.store.Accounts (log.map (·.event))
  tickets : (issued log).map (·.1) = List.range replica.store.nextTicket
  befits : ∀ turn ∈ (deliveries log).turns, (OpOutcome.ofResult turn.result).Befits turn.op
  queued : ∀ turn ∈ (deliveries log).turns, ∀ ticket, turn.result = .ok (.queued ticket) →
    (ticket, some turn.number) ∈ issued log

namespace Books

variable {first ticket number : Nat} {log : List Passage} {tuple : String} {number? : Option Nat}
  {op : SequencedOp} {goal : TurnGoal} {result : Except StoreError Applied} {task : Task}

theorem below (books : Books first log replica) (given : (ticket, number?) ∈ issued log) :
    ticket < replica.store.nextTicket := by
  have member := List.mem_map_of_mem (f := (·.1)) given
  rwa [books.tickets, List.mem_range] at member

theorem once (books : Books first log replica) {other? : Option Nat}
    (given : (ticket, number?) ∈ issued log) (again : (ticket, other?) ∈ issued log) :
    number? = other? := by
  have distinct : ((issued log).map (·.1)).Nodup := books.tickets ▸ List.nodup_range
  exact congrArg (·.2) (List.inj_on_of_nodup_map distinct given again rfl)

theorem uncollected {passage : Passage} {before : Replica} (books : Books first log before)
    (later : Books first (log ++ [passage]) replica)
    (given : passage.issued? = some (ticket, number?)) :
    (ticket, tuple) ∉ (deliveries log).collected := by
  intro collected
  have earlier : ticket ∈ (issued log).map (·.1) := by
    rw [books.tickets]
    exact List.mem_range.mpr (books.accounts.collected_below collected)
  have distinct : ((issued (log ++ [passage])).map (·.1)).Nodup :=
    later.tickets ▸ List.nodup_range
  rw [issued_concat, given, List.map_append] at distinct
  exact (List.nodup_append.mp distinct).2.2 ticket earlier ticket (List.mem_singleton_self _) rfl

theorem record_befits (books : Books first log replica) {record : OpRecord}
    (found : replica.gate.record? number = some record) : record.outcome.Befits record.op := by
  obtain ⟨turn, member, _, asked, came⟩ := books.recounts.records found
  exact asked ▸ came.befits (books.befits turn member)

/-- A section whose turn, if it ends one, has a fitting result keeps the books. -/
theorem after {passage : Passage} (books : Books first log passage.before)
    (undergoes : passage.before.store.Undergoes passage.event replica.store)
    (recounts : replica.gate.Recounts first (deliveries (log ++ [passage])))
    (befits : ∀ turn, passage.turn? = some turn →
      (OpOutcome.ofResult turn.result).Befits turn.op)
    (queued : ∀ turn, passage.turn? = some turn → ∀ ticket, turn.result = .ok (.queued ticket) →
      (ticket, some turn.number) ∈ issued log) : Books first (log ++ [passage]) replica := by
  have turns : ∀ turn ∈ (deliveries (log ++ [passage])).turns,
      turn ∈ (deliveries log).turns ∨ passage.turn? = some turn := by
    intro turn member
    rw [deliveries_concat] at member
    exact (List.mem_append.mp member).imp_right Option.mem_toList.mp
  constructor
  case recounts => exact recounts
  case accounts =>
    rw [List.map_append]
    exact books.accounts.after undergoes
  case tickets =>
    rw [issued_concat, List.map_append, books.tickets, passage.issued_tickets, undergoes.range]
  case befits =>
    exact fun turn member => (turns turn member).elim (books.befits turn) (befits turn)
  case queued =>
    intro turn member ticket same
    rw [issued_concat]
    exact List.mem_append_left _
      ((turns turn member).elim (books.queued turn · ticket same) (queued turn · ticket same))

theorem enter (books : Books first log replica) (index : Nat) (op : SequencedOp)
    (goal : TurnGoal) :
    Books first (log ++ [⟨index, replica, .ready (.turn replica.gate.next op goal)⟩])
      { replica with store := (op.apply replica.store).2 } := by
  have event : Passage.event ⟨index, replica, .ready (.turn replica.gate.next op goal)⟩ =
      .ofTurn op (op.apply replica.store).1 := if_pos rfl
  refine books.after ?_ ?_ nofun nofun
  · rw [event]
    exact replica.store.undergoes_apply op
  · rw [deliveries_concat, event, StoreEvent.collected_of_turn]
    simpa [Passage.turn?, Passage.delivered?, Replica.delivered?] using books.recounts

theorem leave (books : Books first log replica) (index : Nat)
    (befits : (OpOutcome.ofResult result).Befits op)
    (queued : ∀ ticket, result = .ok (.queued ticket) →
      (ticket, some replica.gate.next) ∈ issued log) :
    Books first (log ++ [⟨index, replica, .inTurn op goal result⟩])
      { replica with gate := replica.gate.advance ⟨op, .ofResult result⟩ } := by
  refine books.after replica.store.undergoes_nothing ?_ ?_ ?_
  · rw [deliveries_concat]
    simpa [Passage.turn?, Passage.event, Passage.delivered?, StoreEvent.collected?] using
      books.recounts.turn op result
  · rintro _ ⟨⟩
    exact befits
  · rintro _ ⟨⟩
    exact queued

theorem step (books : Books first log replica) (index : Nat)
    (ordinary : replica.turnOf? task = none) (warrants : (deliveries log).Warrants task) :
    Books first (log ++ [⟨index, replica, .ready task⟩]) (replica.step task).replica := by
  refine books.after (replica.undergoes_step task) ?_ nofun nofun
  rw [deliveries_concat]
  have recounts := books.recounts
  cases task with
  | turn number op goal =>
      have other := Replica.turn_of_none ordinary
      rw [replica.step_out_of_turn other]
      simpa [Passage.turn?, Passage.event, Passage.delivered?, Replica.delivered?, Replica.event,
        other, StoreEvent.collected?] using recounts
  | note number tuple =>
      obtain ⟨op, ticket, queued, collected⟩ := warrants
      simpa [Replica.step, Passage.turn?, Passage.event, Passage.delivered?, Replica.delivered?,
        Replica.event, StoreEvent.collected?] using recounts.note queued collected
  | _ =>
      rw [Replica.gate_step _ (by rfl)]
      simpa [Passage.turn?, Passage.delivered?, Replica.delivered?] using recounts.collect _

end Books

end Threads

end TupleSpace
