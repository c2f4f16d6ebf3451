import TupleSpace.Proofs.Space
import TupleSpace.Proofs.TakeMachine
import TupleSpace.Take.Race

/-!
# Runs of a race

A race starts with machines that hold nothing and have asked for nothing. Its runs are lists of
events in any order in which they are possible; what reached the replicas is kept in a log.
-/

namespace TupleSpace

open TupleSpace.Table

namespace Taker

def Fits (taker : Taker) (tuple : String) : Prop :=
  ∃ pattern, Pattern.parse taker.pattern = .ok pattern ∧ pattern.hits tuple = true

theorem fits_iff_hits {taker : Taker} {pattern : Pattern}
    (parsed : Pattern.parse taker.pattern = .ok pattern) (tuple : String) :
    taker.Fits tuple ↔ pattern.hits tuple = true := by
  constructor
  · rintro ⟨found, valid, hit⟩
    rw [parsed] at valid
    cases valid
    exact hit
  · exact fun hit => ⟨pattern, parsed, hit⟩

end Taker

inductive Happening
  | delivered (replica : String) (request : Request) (reply : Reply)
  | inserted (replica : String) (tuple : String)
deriving DecidableEq

namespace Race

def start (replicas : List (String × Space)) (takers : List Taker) : Race :=
  { replicas
    racers := takers.map fun taker => { machine := taker.machine (replicas.map (·.1)) } }

/-- Replicas are told apart by name and takers by client, and no taker holds anything yet. -/
structure IsFair (replicas : List (String × Space)) (takers : List Taker) : Prop where
  names : (replicas.map (·.1)).Nodup
  clients : (takers.map (·.client)).Nodup
  unheld : ∀ taker ∈ takers, ∀ replica ∈ replicas, replica.2.holdings taker.client = []

def happenings (race : Race) : RaceEvent → RaceSight → List Happening
  | .deliver index position, .delivered replica reply =>
      ((race.racers[index]?.bind (·.outbox[position]?)).map
        fun parcel => Happening.delivered replica parcel.2 reply).toList
  | .insert index tuple, _ =>
      (race.replicas[index]?.map fun replica => Happening.inserted replica.1 tuple).toList
  | _, _ => []

/-- The races that events lead to, each with the log of what they brought about. -/
inductive Run (first : Race) : List Happening → Race → Prop
  | start : Run first [] first
  | event {log : List Happening} {race next : Race} {event : RaceEvent} {sight : RaceSight}
      (earlier : Run first log race) (performed : race.perform? event = some (sight, next)) :
      Run first (log ++ race.happenings event sight) next

def replay? (race : Race) : List RaceEvent → Option (List Happening × Race)
  | [] => some ([], race)
  | event :: rest =>
      (race.perform? event).bind fun (sight, next) =>
        (next.replay? rest).map fun (log, last) => (race.happenings event sight ++ log, last)

theorem run_of_replay {first race last : Race} {events : List RaceEvent}
    {log more : List Happening} (earlier : Run first log race)
    (replayed : race.replay? events = some (more, last)) : Run first (log ++ more) last := by
  induction events generalizing race log more with
  | nil =>
      cases replayed
      simpa using earlier
  | cons event rest induction =>
      obtain ⟨⟨sight, next⟩, performed, later⟩ := Option.bind_eq_some_iff.mp replayed
      obtain ⟨⟨tail, reached⟩, continued, same⟩ := Option.map_eq_some_iff.mp later
      cases same
      rw [← List.append_assoc]
      exact induction (.event earlier performed) continued

def held (race : Race) (client : ClientId) (name : String) : List String :=
  ((race.replicas.lookup name).map (·.holdings client)).getD []

inductive Moves (race : Race) : RaceEvent → RaceSight → Race → Prop
  | deliver {index position : Nat} {racer : Racer} {name : String} {request : Request}
      {space next : Space} {reply : Reply} (found : race.racers[index]? = some racer)
      (running : racer.ending? = none) (parcel : racer.outbox[position]? = some (name, request))
      (target : race.replicas.lookup name = some space)
      (answered : space.answerTake request = some (reply, next)) :
      Moves race (.deliver index position) (.delivered name reply)
        ⟨place name next race.replicas,
          race.racers.set index (racer.receive position name reply)⟩
  | step {index : Nat} {racer : Racer} (found : race.racers[index]? = some racer)
      (running : racer.ending? = none) (idle : racer.outbox = []) :
      Moves race (.step index) (.stepped racer.step.2)
        { race with racers := race.racers.set index racer.step.1 }
  | insert {index : Nat} {name tuple : String} {space : Space}
      (found : race.replicas[index]? = some (name, space)) :
      Moves race (.insert index tuple) .inserted
        { race with replicas := place name (space.insert tuple) race.replicas }

theorem at_replica_eq {α : Type} (name : String) (operation : Space → Option (α × Space))
    (replicas : List (String × Space)) (distinct : (replicas.map (·.1)).Nodup) :
    atReplica name operation replicas =
      (replicas.lookup name).bind fun space =>
        (operation space).map fun (result, next) => (result, place name next replicas) := by
  induction replicas with
  | nil => rfl
  | cons row rest induction =>
      obtain ⟨other, space⟩ := row
      rw [List.map_cons, List.nodup_cons] at distinct
      unfold atReplica
      by_cases here : other = name
      · subst other
        have absent : ∀ next, place name next rest = rest :=
          fun next => place_absent next distinct.1
        unfold place at absent
        simp [place, absent]
      · have apart : (name == other) = false := by simpa using fun same => here same.symm
        rw [if_neg here, induction distinct.2, List.lookup_cons, apart]
        cases found : rest.lookup name with
        | none => simp
        | some inner =>
            cases performed : operation inner with
            | none => simp [performed]
            | some pair => simp [performed, place, here]

theorem moves_of_perform {race next : Race} {event : RaceEvent} {sight : RaceSight}
    (distinct : (race.replicas.map (·.1)).Nodup)
    (performed : race.perform? event = some (sight, next)) : race.Moves event sight next := by
  cases event with
  | deliver index position =>
      unfold perform? at performed
      cases found : race.racers[index]? with
      | none => simp [found] at performed
      | some racer =>
          cases ending : racer.ending? with
          | some _ => simp [found, ending] at performed
          | none =>
              cases parcel : racer.outbox[position]? with
              | none => simp [found, ending, parcel] at performed
              | some pair =>
                  obtain ⟨name, request⟩ := pair
                  cases target : race.replicas.lookup name with
                  | none =>
                      simp [found, ending, parcel, at_replica_eq _ _ _ distinct, target]
                        at performed
                  | some space =>
                      cases answered : space.answerTake request with
                      | none =>
                          simp [found, ending, parcel, at_replica_eq _ _ _ distinct, target,
                            answered] at performed
                      | some outcome =>
                          simp [found, ending, parcel, at_replica_eq _ _ _ distinct, target,
                            answered] at performed
                          obtain ⟨rfl, rfl⟩ := performed
                          exact .deliver found ending parcel target answered
  | step index =>
      unfold perform? at performed
      cases found : race.racers[index]? with
      | none => simp [found] at performed
      | some racer =>
          cases ending : racer.ending? with
          | some _ => simp [found, ending] at performed
          | none =>
              by_cases idle : racer.outbox = []
              · simp [found, ending, idle] at performed
                obtain ⟨rfl, rfl⟩ := performed
                exact .step found ending idle
              · simp [found, ending, idle] at performed
  | insert index tuple =>
      unfold perform? at performed
      cases found : race.replicas[index]? with
      | none => simp [found] at performed
      | some replica =>
          simp [found] at performed
          obtain ⟨rfl, rfl⟩ := performed
          have moved : race.Moves (.insert index tuple) .inserted _ := .insert found
          rwa [← set_eq_place _ distinct found] at moved

theorem perform_of_moves {race next : Race} {event : RaceEvent} {sight : RaceSight}
    (distinct : (race.replicas.map (·.1)).Nodup) (moves : race.Moves event sight next) :
    race.perform? event = some (sight, next) := by
  cases moves with
  | deliver found running parcel target answered =>
      simp [perform?, found, running, parcel, at_replica_eq _ _ _ distinct, target, answered]
  | step found running idle => simp [perform?, found, running, idle]
  | insert found => simp [perform?, found, set_eq_place _ distinct found]

end Race

end TupleSpace
