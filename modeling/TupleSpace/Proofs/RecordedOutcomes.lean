import TupleSpace.Proofs.GateSections

/-!
# Recorded outcomes

What the gate remembers of an operation is what came of that operation. The record is written at
the end of the turn, after others may have been at the store, and it is written again by whoever
collected the tuple of a queued take, under the lock of the gate and after that of the store. No
order of these sections brings the outcome of one operation under the number of another: a ticket
is given out once, for one number or for a take without one, and is waited for accordingly.
-/

namespace TupleSpace

theorem Gate.repeated_befits {gate : Gate} {number : Nat} {op : SequencedOp}
    {result : Except StoreError Applied}
    (records : ∀ record, gate.record? number = some record → record.outcome.Befits record.op)
    (answer : gate.repeated number op = .answer result) :
    (OpOutcome.ofResult result).Befits op ∨ result = .error (.staleSequence number gate.next) := by
  unfold repeated at answer
  cases found : gate.record? number with
  | none =>
      rw [found] at answer
      cases answer
      exact Or.inr rfl
  | some record =>
      have befits := records record found
      obtain ⟨asked, outcome⟩ := record
      rw [found] at answer
      dsimp only at answer
      split at answer
      · rename_i same
        subst same
        cases outcome with
        | waiting => cases answer
        | _ =>
            cases answer
            exact Or.inl befits
      · cases answer
        exact Or.inr rfl

namespace Threads

variable {threads next : Threads} {index : Nat} {state moved : Thread}
  {replica : Replica} {signals : List Signal}

/-! ## Where threads stand -/

/-- What a thread is about to do agrees with what happened, and with the number that is next. -/
def Agrees (log : List Passage) (reached : Nat) : Thread → Prop
  | .ready task | .parked task _ _ => (deliveries log).Warrants task ∧ Regular log task
  | .inTurn op goal result => goal.Suits op ∧ (OpOutcome.ofResult result).Befits op ∧
      ∀ ticket, result = .ok (.queued ticket) → (ticket, some reached) ∈ issued log
  | .finished _ => True

section

variable {first reached later : Nat} {log : List Passage} {task : Task}

theorem Agrees.woken (agrees : Agrees log reached state) (signals : List Signal) :
    Agrees log reached (state.woken signals) := by
  cases state with
  | parked task signal wait? =>
      rw [Thread.woken]
      split <;> exact agrees
  | _ => exact agrees

theorem Regular.mono (regular : Regular log task) (passage : Passage) :
    Regular (log ++ [passage]) task := by
  cases task with
  | handoff ticket number? =>
      cases number? with
      | none =>
          rw [Regular, issued_concat]
          exact List.mem_append_left _ regular
      | some number => trivial
  | _ => exact regular

/-- Only a thread in its turn depends on the number that is next. -/
theorem Agrees.mono (agrees : Agrees log reached state) (passage : Passage)
    (same : later = reached ∨ state.isInTurn = false) :
    Agrees (log ++ [passage]) later state := by
  have grown := extends_concat log passage
  cases state with
  | ready task => exact ⟨agrees.1.mono grown, agrees.2.mono passage⟩
  | parked task signal wait? => exact ⟨agrees.1.mono grown, agrees.2.mono passage⟩
  | finished result => trivial
  | inTurn op goal result =>
      obtain rfl := same.resolve_right (by simp [Thread.isInTurn])
      obtain ⟨suits, befits, queued⟩ := agrees
      refine ⟨suits, befits, fun ticket same => ?_⟩
      rw [issued_concat]
      exact List.mem_append_left _ (queued ticket same)

theorem agrees_enter (index : Nat) {op : SequencedOp} {goal : TurnGoal}
    (agrees : Agrees log reached (.ready (.turn replica.gate.next op goal))) :
    Agrees (log ++ [⟨index, replica, .ready (.turn replica.gate.next op goal)⟩]) replica.gate.next
      (.inTurn op goal (op.apply replica.store).1) := by
  have befits := op.befits_apply replica.store
  refine ⟨agrees.2, befits, fun ticket queued => ?_⟩
  rw [queued] at befits
  cases befits
  rw [issued_concat]
  simp [Passage.issued?, Replica.event, queued, StoreEvent.ofTurn, StoreEvent.queued?,
    Task.number?]

theorem agrees_leave (index : Nat) (gate : Gate) {op : SequencedOp} {goal : TurnGoal}
    {result : Except StoreError Applied} :
    Agrees (log ++ [⟨index, replica, .inTurn op goal result⟩]) later
      (.ofMove gate (.turn replica.gate.next op goal)
        (goal.after replica.gate.next reached result)) := by
  cases move : goal.after replica.gate.next reached result with
  | finish answer => trivial
  | park signal => exact absurd move (goal.never_parks _ _ _ _)
  | goOn following =>
      obtain ⟨ticket, rfl, rfl⟩ := TurnGoal.goes_on move
      refine ⟨⟨op, ?_⟩, trivial⟩
      rw [deliveries_concat]
      exact List.mem_append_right _ (List.mem_singleton_self _)

theorem agrees_step (index : Nat) (ordinary : replica.turnOf? task = none)
    (agrees : Agrees log reached (.ready task)) :
    Agrees (log ++ [⟨index, replica, .ready task⟩]) later
      (.ofMove replica.gate task (replica.step task).move) := by
  cases move : (replica.step task).move with
  | finish answer => trivial
  | park signal =>
      have kept : Agrees (log ++ [⟨index, replica, .ready task⟩]) later (.ready task) :=
        agrees.mono _ (Or.inr rfl)
      exact kept
  | goOn following =>
      cases Replica.leads_to move with
      | turn => exact absurd rfl (Replica.turn_of_none ordinary)
      | take queued =>
          refine ⟨trivial, ?_⟩
          rw [Regular, issued_concat]
          simp [Passage.issued?, queued, StoreEvent.queued?, Task.number?]
      | @handoff ticket number tuple collected =>
          obtain ⟨⟨op, queued⟩, _⟩ := agrees
          refine ⟨⟨op, ticket, ?_, ?_⟩, trivial⟩ <;> rw [deliveries_concat]
          · exact List.mem_append_left _ queued
          · refine List.mem_append_right _ ?_
            simp [Passage.event, collected, StoreEvent.collected?]

/-- A thread that waited for a queued take has collected its tuple, and is about to report it. -/
def Reports (log : List Passage) (threads : Threads) (number ticket : Nat) (tuple : String) :
    Prop :=
  ∃ (index : Nat) (before : Replica),
    threads.states[index]? = some (.ready (.note number tuple)) ∧
    ⟨index, before, .ready (.handoff ticket (some number))⟩ ∈ log ∧
    before.event (.handoff ticket (some number)) = .collected ticket tuple

theorem Reports.install {number ticket : Nat} {tuple : String}
    (reports : Reports log threads number ticket tuple)
    (stands : threads.states[index]? = some state) :
    (number, tuple) ∈ (deliveries (log ++ [⟨index, threads.replica, state⟩])).delivered ∨
      Reports (log ++ [⟨index, threads.replica, state⟩])
        (threads.install index replica moved signals) number ticket tuple := by
  obtain ⟨place, before, noting, member, collected⟩ := reports
  by_cases own : place = index
  · subst own
    rw [noting] at stands
    cases stands
    left
    rw [deliveries_concat]
    exact List.mem_append_right _ (List.mem_singleton_self _)
  · right
    refine ⟨place, before, ?_, List.mem_append_left _ member, collected⟩
    rw [installed_other own, noting]
    rfl

/-- What a thread stands at after its own turn: it has an answer that is not refused as stale, or
waits for its tuple and reports it. -/
def Served : Thread → Prop
  | .finished answer => ∀ number reached, answer ≠ .error (.staleSequence number reached)
  | .ready task | .parked task _ _ =>
      (∃ ticket number, task = .handoff ticket (some number)) ∨
        ∃ number tuple, task = .note number tuple
  | .inTurn _ _ _ => False

theorem Served.woken (served : Served state) (signals : List Signal) :
    Served (state.woken signals) := by
  cases state with
  | parked task signal wait? =>
      rw [Thread.woken]
      split <;> exact served
  | _ => exact served

theorem served_leave (gate : Gate) (number reached : Nat) {op : SequencedOp} {goal : TurnGoal}
    {result : Except StoreError Applied} (suits : goal.Suits op)
    (befits : (OpOutcome.ofResult result).Befits op) :
    Served (.ofMove gate (.turn number op goal) (goal.after number reached result)) := by
  cases move : goal.after number reached result with
  | park signal => exact absurd move (goal.never_parks _ _ _ _)
  | goOn following =>
      obtain ⟨ticket, _, rfl⟩ := TurnGoal.goes_on move
      exact Or.inl ⟨ticket, number, rfl⟩
  | finish answer =>
      rintro stale next rfl
      cases result with
      | error cause =>
          cases move
          cases befits with
          | failed fault => cases op <;> cases fault
      | ok applied =>
          cases goal with
          | apply => cases move
          | put => cases move
          | take =>
              obtain ⟨source, rfl⟩ := suits
              cases applied with
              | stored => cases befits
              | _ => cases move

theorem served_step (gate : Gate) (served : Served (.ready task)) :
    Served (.ofMove gate task (replica.step task).move) := by
  rcases served with ⟨ticket, number, rfl⟩ | ⟨number, tuple, rfl⟩
  · cases found : replica.store.collect? ticket with
    | none =>
        simp only [Replica.step, found]
        exact Or.inl ⟨ticket, number, rfl⟩
    | some pair =>
        simp only [Replica.step, found]
        exact Or.inr ⟨number, pair.1, rfl⟩
  · intro stale reached same
    cases same

end

/-! ## Runs -/

structure Sound (first : Nat) (log : List Passage) (threads : Threads) : Prop where
  books : Books first log threads.replica
  agrees : ∀ state ∈ threads.states, Agrees log threads.replica.gate.next state
  /-- One thread at most has the lock of the gate. -/
  alone : ∀ {one other : Nat}, threads.inTurnAt one = true → threads.inTurnAt other = true →
    one = other
  /-- What was collected for a number is reported, or is about to be. -/
  reported : ∀ {number ticket : Nat} {tuple : String}, (ticket, some number) ∈ issued log →
    (ticket, tuple) ∈ (deliveries log).collected →
    (number, tuple) ∈ (deliveries log).delivered ∨ Reports log threads number ticket tuple
  served : ∀ passage ∈ log, passage.turn?.isSome = true →
    ∃ state, threads.states[passage.index]? = some state ∧ Served state

section

variable {first : Nat} {log : List Passage}

theorem sound_start (first : Nat) : Sound first [] ⟨{ gate := { next := first } }, []⟩ := by
  have started := (Service.in_step_start first).recounts
  exact ⟨⟨started, ⟨List.Perm.refl _, List.Perm.refl _⟩, rfl, nofun, nofun⟩, nofun, nofun, nofun,
    nofun⟩

theorem Sound.call (sound : Sound first log threads) {task : Except StoreError Task}
    (admitted : (deliveries log).Admits task)
    (regular : ∀ asked, task = .ok asked → Regular log asked) :
    Sound first log (threads.call task) := by
  constructor
  case books => exact sound.books
  case agrees =>
    intro state member
    rcases List.mem_append.mp member with old | new
    · exact sound.agrees state old
    · cases List.mem_singleton.mp new
      cases task with
      | error cause => trivial
      | ok asked =>
          refine ⟨?_, regular asked rfl⟩
          cases asked with
          | note number tuple => exact admitted.elim
          | _ => exact admitted
  case alone =>
    intro one other here there
    exact sound.alone (in_turn_at_call here) (in_turn_at_call there)
  case reported =>
    intro number ticket tuple given collected
    refine (sound.reported given collected).imp_right ?_
    rintro ⟨index, before, reports, rest⟩
    exact ⟨index, before, called_stands reports task, rest⟩
  case served =>
    intro passage member turned
    obtain ⟨state, stands, served⟩ := sound.served passage member turned
    exact ⟨state, called_stands stands task, served⟩

theorem Sound.others_wait (sound : Sound first log threads)
    (stands : threads.states[index]? = some state) (inTurn : state.isInTurn = true)
    {position : Nat} {other : Thread} (elsewhere : position ≠ index)
    (stood : threads.states[position]? = some other) : other.isInTurn = false := by
  have here : threads.inTurnAt index = true := by
    rw [inTurnAt, stands]
    exact inTurn
  cases also : other.isInTurn with
  | false => rfl
  | true =>
      have there : threads.inTurnAt position = true := by
        rw [inTurnAt, stood]
        exact also
      exact absurd (sound.alone there here) elsewhere

theorem Sound.collects (sound : Sound first log threads)
    (stands : threads.states[index]? = some state) {ticket number : Nat} {tuple : String}
    (given : (ticket, some number) ∈ issued log)
    (collected : Passage.event ⟨index, threads.replica, state⟩ = .collected ticket tuple) :
    state = .ready (.handoff ticket (some number)) ∧
      threads.replica.event (.handoff ticket (some number)) = .collected ticket tuple := by
  cases state with
  | ready task =>
      obtain ⟨number?, rfl⟩ := Replica.waits_of_collected collected
      obtain ⟨warrants, regular⟩ := sound.agrees _ (List.mem_of_getElem? stands)
      have own : (ticket, number?) ∈ issued log := by
        cases number? with
        | none => exact regular
        | some other =>
            obtain ⟨op, queued⟩ := warrants
            exact sound.books.queued _ queued ticket rfl
      cases sound.books.once given own
      exact ⟨rfl, collected⟩
  | _ => cases collected

/-- A section of a thread leaves the others where they stand, so that only its own new state, the
number that is next and the books are to be seen to. -/
theorem Sound.install (sound : Sound first log threads)
    (stands : threads.states[index]? = some state)
    (books : Books first (log ++ [⟨index, threads.replica, state⟩]) replica)
    (agrees : Agrees (log ++ [⟨index, threads.replica, state⟩]) replica.gate.next moved)
    (others : ∀ {position : Nat} {before : Thread}, position ≠ index →
      threads.states[position]? = some before →
      replica.gate.next = threads.replica.gate.next ∨ before.isInTurn = false)
    (enters : moved.isInTurn = true → threads.isLocked = false)
    (reports : ∀ ticket number tuple, state = .ready (.handoff ticket (some number)) →
      threads.replica.event (.handoff ticket (some number)) = .collected ticket tuple →
      moved = .ready (.note number tuple))
    (served : state.isInTurn = true ∨ Served state → Served moved) :
    Sound first (log ++ [⟨index, threads.replica, state⟩])
      (threads.install index replica moved signals) := by
  constructor
  case books => exact books
  case agrees =>
    intro now member
    obtain ⟨position, found⟩ := List.mem_iff_getElem?.mp member
    obtain ⟨before, rfl, ⟨_, rfl⟩ | ⟨other, stood⟩⟩ := installed_cases stands found
    · exact agrees.woken signals
    · exact ((sound.agrees before (List.mem_of_getElem? stood)).mono _
        (others other stood)).woken signals
  case alone =>
    intro one other here there
    rw [in_turn_at_install stands] at here there
    split at here <;> split at there
    · rename_i own also
      exact own.trans also.symm
    · rw [in_turn_at_unlocked (enters here)] at there
      cases there
    · rw [in_turn_at_unlocked (enters there)] at here
      cases here
    · exact sound.alone here there
  case reported =>
    intro number ticket tuple given collected
    rw [issued_concat, List.mem_append, Option.mem_toList] at given
    rw [deliveries_concat] at collected
    rcases List.mem_append.mp collected with before | now
    -- Nothing was collected before under a ticket that is given out now.
    · rcases given with old | new
      · rcases sound.reported old before with delivered | reports
        · left
          rw [deliveries_concat]
          exact List.mem_append_left _ delivered
        · exact reports.install stands
      · exact absurd before (sound.books.uncollected books new)
    · rw [Option.mem_toList] at now
      rcases given with old | new
      · obtain ⟨rfl, event⟩ := sound.collects stands old (Passage.collected_event now)
        refine Or.inr ⟨index, threads.replica, ?_, ?_, event⟩
        · rw [installed_own stands, reports _ _ _ rfl event]
          rfl
        · exact List.mem_append_right _ (List.mem_singleton_self _)
      · rw [Passage.collected_of_issued new] at now
        cases now
  case served =>
    intro passage member turned
    rcases List.mem_append.mp member with old | new
    · obtain ⟨before, stood, serves⟩ := sound.served passage old turned
      by_cases own : passage.index = index
      · rw [own] at stood ⊢
        rw [stands] at stood
        cases stood
        exact ⟨_, installed_own stands, (served (Or.inr serves)).woken signals⟩
      · exact ⟨_, by rw [installed_other own, stood]; rfl, serves.woken signals⟩
    · cases List.mem_singleton.mp new
      refine ⟨_, installed_own stands, (served (Or.inl ?_)).woken signals⟩
      cases state with
      | inTurn => rfl
      | _ => cases turned

theorem Sound.act (sound : Sound first log threads)
    (stands : threads.states[index]? = some state) (acted : threads.act? index = some next) :
    Sound first (log ++ [⟨index, threads.replica, state⟩]) next := by
  have agrees := sound.agrees state (List.mem_of_getElem? stands)
  cases passes_of_act stands acted with
  | @enter op goal unlocked =>
      refine sound.install stands (sound.books.enter index op goal) (agrees_enter index agrees)
        (fun _ _ => Or.inl rfl) (fun _ => unlocked) nofun ?_
      rintro (inTurn | ⟨_, _, waits⟩ | ⟨_, _, reports⟩)
      · cases inTurn
      · cases waits
      · cases reports
  | @leave op goal result =>
      obtain ⟨suits, befits, queued⟩ := agrees
      refine sound.install stands (sound.books.leave index befits queued) (agrees_leave index _)
        ?_ ?_ nofun fun _ => served_leave _ _ _ suits befits
      · exact fun other stood => Or.inr (sound.others_wait stands rfl other stood)
      · exact fun inTurn => absurd inTurn (not_in_turn_of_move _ _ _)
  | @step task ordinary =>
      have next := Replica.next_of_ordinary ordinary
      refine sound.install stands (sound.books.step index ordinary agrees.1)
        (agrees_step index ordinary agrees) (fun _ _ => Or.inl next) ?_ ?_ ?_
      · exact fun inTurn => absurd inTurn (not_in_turn_of_move _ _ _)
      · rintro ticket number tuple ⟨⟩ collected
        rw [Replica.reports_of_collected collected]
        rfl
      · rintro (inTurn | served)
        · cases inTurn
        · exact served_step _ served

theorem sound_of_gated (gated : Gated first log threads) : Sound first log threads := by
  induction gated with
  | start => exact sound_start first
  | call _ admitted regular sound => exact sound.call admitted regular
  | act _ stands acted sound => exact sound.act stands acted

structure RecordsFit (log : List Passage) (threads : Threads) : Prop where
  /-- A record has an outcome of its operation, and it is what came of the turn of its number. -/
  outcomes : ∀ number record, threads.replica.gate.record? number = some record →
    record.outcome.Befits record.op ∧
      ∃ turn ∈ (deliveries log).turns, turn.number = number ∧ turn.op = record.op ∧
        (deliveries log).CameTo turn record.outcome
  /-- The ticket of a take that is remembered as waiting is queued, or has a tuple on hand, or a
  thread that waited for the take has collected its tuple and is about to report it. -/
  waiting : ∀ number op, threads.replica.gate.record? number = some ⟨op, .waiting⟩ →
    ∃ ticket, ⟨number, op, .ok (.queued ticket)⟩ ∈ (deliveries log).turns ∧
      (ticket ∈ threads.replica.store.pending.map (·.ticket) ∨
        ticket ∈ threads.replica.store.handoffs.map (·.1) ∨
        ∃ tuple, Reports log threads number ticket tuple)
  /-- Whoever asks for a tuple is never given the result of a put, neither by a turn nor by its
  repetition. -/
  takes : (∀ op result, .inTurn op .take result ∈ threads.states → result ≠ .ok .stored) ∧
    ∀ number source, threads.replica.gate.repeated number (.take source) ≠ .answer (.ok .stored)
  /-- A call that had its own turn is not refused as stale. -/
  served : ∀ passage ∈ log, passage.turn?.isSome = true → ∀ number reached,
    threads.states[passage.index]? ≠ some (.finished (.error (.staleSequence number reached)))

/-- Under any order of the sections of calls that wait under a number only for takes that were
queued under it, every record has an outcome of its operation, and a record that waits has its
ticket queued, handed a tuple, or collected under that number and about to be reported. So no take
is answered as a put, and no call that had its own turn is stale. -/
theorem recorded_outcomes_fit (gated : Gated first log threads) : RecordsFit log threads := by
  have sound := sound_of_gated gated
  have recounts := sound.books.recounts
  constructor
  case outcomes =>
    exact fun number record found => ⟨sound.books.record_befits found, recounts.records found⟩
  case waiting =>
    intro number op found
    have below : number < threads.replica.gate.next :=
      ((recounts.remembered number).mp (by rw [found]; rfl)).2.1
    have recalls := recounts.recalls below op
    have waits : threads.replica.gate.repeated number op = .wait := by
      simp [Gate.repeated, found]
    rw [waits] at recalls
    cases recalls with
    | @waiting ticket turn _ undelivered =>
        have given := sound.books.queued _ turn ticket rfl
        refine ⟨ticket, turn, ?_⟩
        refine (sound.books.accounts.place (sound.books.below given)).imp_right (Or.imp_right ?_)
        rintro ⟨tuple, collected⟩
        exact ⟨tuple, (sound.reported given collected).resolve_left (undelivered tuple)⟩
  case takes =>
    constructor
    · rintro op _ member rfl
      obtain ⟨⟨source, rfl⟩, befits, _⟩ := sound.agrees _ member
      cases befits
    · intro number source answer
      rcases Gate.repeated_befits (fun _ => sound.books.record_befits) answer with befits | stale
      · cases befits
      · cases stale
  case served =>
    intro passage member turned number reached stale
    obtain ⟨state, stands, served⟩ := sound.served passage member turned
    rw [stands] at stale
    cases stale
    exact served number reached rfl

theorem gated_of_replay (gated : Gated first log threads) {events : List Event} {last : Threads}
    (turns : ∀ task, .call task ∈ events → ∃ number op goal, task = .ok (.turn number op goal) ∧
      goal.Suits op)
    (replayed : threads.replay? events = some last) : ∃ later, Gated first (log ++ later) last := by
  induction events generalizing log threads with
  | nil =>
      cases replayed
      exact ⟨[], by rwa [List.append_nil]⟩
  | cons event rest induction =>
      have turns' := fun task member => turns task (List.mem_cons_of_mem _ member)
      cases event with
      | call task =>
          obtain ⟨number, op, goal, rfl, suits⟩ := turns task List.mem_cons_self
          have admitted : (deliveries log).Admits (.ok (.turn number op goal)) := trivial
          refine induction (gated.call admitted ?_) turns' replayed
          rintro _ ⟨⟩
          exact suits
      | act index =>
          obtain ⟨next, acted, replayed⟩ := Option.bind_eq_some_iff.mp replayed
          obtain ⟨state, stands⟩ : ∃ state, threads.states[index]? = some state := by
            unfold act? at acted
            split at acted
            · exact ⟨_, by assumption⟩
            · exact ⟨_, by assumption⟩
            · cases acted
          obtain ⟨later, reached⟩ := induction (gated.act stands acted) turns' replayed
          exact ⟨_, by rwa [List.append_assoc] at reached⟩

/-- A take under number 7 is queued. In the turn of the put under number 8 it is handed a tuple and
collects it, while the gate is locked and still remembers it as waiting. -/
theorem recorded_outcomes_fit_of_collected_take :
    ∃ log threads, Gated 7 log threads ∧ threads.isLocked = true ∧
      threads.replica.gate.record? 7 = some ⟨.take "<.>", .waiting⟩ ∧
      ∃ ticket tuple, ⟨7, .take "<.>", .ok (.queued ticket)⟩ ∈ (deliveries log).turns ∧
        Reports log threads 7 ticket tuple := by
  let events : List Event :=
    [.call (.ok (.turn 7 (.take "<.>") .take)), .act 0, .act 0, .act 0,
      .call (.ok (.turn 8 (.put "<a>") .put)), .act 1, .act 0]
  have shape : (replay? ⟨{ gate := { next := 7 } }, []⟩ events).map (fun threads =>
      ((threads.isLocked, threads.replica.gate.record? 7),
        (threads.replica.store.pending.map (·.ticket), threads.replica.store.handoffs))) =
      some ((true, some ⟨.take "<.>", .waiting⟩), ([], [])) := by
    decide +kernel
  obtain ⟨threads, replayed, same⟩ := Option.map_eq_some_iff.mp shape
  simp only [Prod.mk.injEq] at same
  obtain ⟨⟨locked, record⟩, pending, handoffs⟩ := same
  obtain ⟨log, gated⟩ := gated_of_replay (.start : Gated 7 _ _) (by
    intro task member
    simp only [events, List.mem_cons, Event.call.injEq, reduceCtorEq, List.not_mem_nil, or_false,
      false_or] at member
    rcases member with rfl | rfl
    · exact ⟨_, _, _, rfl, "<.>", rfl⟩
    · exact ⟨_, _, _, rfl, "<a>", rfl⟩) replayed
  obtain ⟨ticket, turn, place⟩ := (recorded_outcomes_fit gated).waiting 7 _ record
  rw [pending, handoffs] at place
  obtain ⟨tuple, reports⟩ := (place.resolve_left nofun).resolve_left nofun
  exact ⟨_, threads, gated, locked, record, ticket, tuple, turn, reports⟩

end

end Threads

end TupleSpace
