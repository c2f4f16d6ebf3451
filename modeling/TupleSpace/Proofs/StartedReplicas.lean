import TupleSpace.Cluster
import TupleSpace.Proofs.OrderedRegistry

/-!
# Where a look-up leads

A replica is registered under a service and an address, and it listens at the address alone. A
descriptor of a service always leads to a replica, the one that was started last at its address.
That is the replica which was registered with the descriptor unless another service has started one
there since.
-/

namespace TupleSpace

inductive SiteCall
  | start (service qualifier address : String)
  | delete (service address : String)
deriving DecidableEq, Repr

/-- A registry and a cluster, and what was started so far. The starts are numbered as the nodes
are. -/
structure Site where
  registry : Registry := {}
  cluster : Cluster := {}
  started : List Registration := []

namespace Site

def perform (site : Site) : SiteCall → Except NamingError Site
  | .start service qualifier address =>
      (site.cluster.start site.registry service qualifier address).map fun (registry, cluster) =>
        { registry, cluster, started := site.started ++ [⟨service, qualifier, address⟩] }
  | .delete service address =>
      (site.registry.delete service address).map fun registry => { site with registry }

def call (site : Site) (call : SiteCall) : Site :=
  match site.perform call with
  | .ok next => next
  | .error _ => site

def after (first : Nat) (calls : List SiteCall) : Site :=
  calls.foldl call { cluster := { first } }

end Site

/-! ## The last of some entries -/

structure LastAt (fits : Registration → Prop) (entries : List Registration) (place : Nat)
    (entry : Registration) : Prop where
  there : entries[place]? = some entry
  meets : fits entry
  last : ∀ later other, entries[later]? = some other → fits other → later ≤ place

namespace LastAt

variable {fits narrow : Registration → Prop} {entries : List Registration} {place own : Nat}
  {entry other new : Registration}

theorem unique (last : LastAt fits entries place entry) (last_ : LastAt fits entries own other) :
    place = own ∧ entry = other := by
  have same : place = own :=
    Nat.le_antisymm (last_.last place entry last.there last.meets)
      (last.last own other last_.there last_.meets)
  subst same
  exact ⟨rfl, Option.some.inj (last.there.symm.trans last_.there)⟩

theorem newest (meets : fits new) : LastAt fits (entries ++ [new]) entries.length new := by
  refine ⟨by simp, meets, ?_⟩
  intro later other found _
  have inside := (List.getElem?_eq_some_iff.mp found).1
  rw [List.length_append, List.length_singleton] at inside
  omega

theorem kept (last : LastAt fits entries place entry) (misses : ¬ fits new) :
    LastAt fits (entries ++ [new]) place entry := by
  have inside := (List.getElem?_eq_some_iff.mp last.there).1
  refine ⟨(List.getElem?_append_left inside).trans last.there, last.meets, ?_⟩
  intro later other found meets
  rw [List.getElem?_append] at found
  split at found
  · exact last.last later other found meets
  · rw [List.getElem?_singleton] at found
    split at found
    · cases found
      exact absurd meets misses
    · cases found

theorem before (last : LastAt fits (entries ++ [new]) place entry) (misses : ¬ fits new) :
    LastAt fits entries place entry := by
  have there := last.there
  rw [List.getElem?_append] at there
  split at there
  · refine ⟨there, last.meets, ?_⟩
    intro later other found meets
    have inside := (List.getElem?_eq_some_iff.mp found).1
    exact last.last later other ((List.getElem?_append_left inside).trans found) meets
  · rw [List.getElem?_singleton] at there
    split at there
    · cases there
      exact absurd last.meets misses
    · cases there

theorem exists_last (member : entry ∈ entries) (meets : fits entry) :
    ∃ place last, LastAt fits entries place last := by
  induction entries using List.reverseRecOn with
  | nil => cases member
  | append_singleton front new induction =>
      by_cases here : fits new
      · exact ⟨_, _, .newest here⟩
      · rcases List.mem_append.mp member with earlier | latest
        · obtain ⟨place, last, found⟩ := induction earlier
          exact ⟨place, last, found.kept here⟩
        · rw [List.mem_singleton.mp latest] at meets
          exact absurd meets here

theorem wider (own_last : LastAt narrow entries own other)
    (stricter : ∀ entry, narrow entry → fits entry) :
    ∃ place entry, LastAt fits entries place entry :=
  exists_last (List.mem_of_getElem? own_last.there) (stricter other own_last.meets)

/-- The last that meets a condition is the last that meets a stricter one if it meets that. -/
theorem same_iff (last : LastAt fits entries place entry)
    (own_last : LastAt narrow entries own other)
    (stricter : ∀ entry, narrow entry → fits entry) : place = own ↔ narrow entry := by
  constructor
  · rintro rfl
    have same := last.there.symm.trans own_last.there
    rw [Option.some.inj same]
    exact own_last.meets
  · intro meets
    have last_ : LastAt narrow entries place entry :=
      ⟨last.there, meets, fun later other found strict =>
        last.last later other found (stricter other strict)⟩
    exact (last_.unique own_last).1

end LastAt

namespace Site

/-! ## What all calls keep -/

/-- The starts tell which nodes there are and where each listens, and each descriptor in the
registry belongs to the last start of its service at its address. -/
structure Charted (number : Nat) (site : Site) : Prop where
  sound : site.registry.Sound
  first : site.cluster.first = number
  nodes : site.cluster.nodes =
    site.started.map fun entry => { qualifier := entry.qualifier, service := .start number }
  listeners : ∀ address place entry, LastAt (·.address = address) site.started place entry →
    site.cluster.listener? address = some place
  registered : ∀ service, ∀ descriptor ∈ site.registry.descriptors service,
    ∃ own, LastAt (fun entry => entry.service = service ∧ entry.address = descriptor.address)
      site.started own ⟨service, descriptor.qualifier, descriptor.address⟩

variable {number : Nat} {site next : Site} {service qualifier address : String}

theorem charted_founded (number : Nat) : Charted number { cluster := { first := number } } where
  sound := Registry.sound_start
  first := rfl
  nodes := rfl
  listeners _ _ _ last := by cases last.there
  registered _ _ member := by cases member

theorem of_map {α β : Type} {result : Except NamingError α} {f : α → β} {answer : β}
    (done : result.map f = .ok answer) : ∃ value, result = .ok value ∧ answer = f value := by
  cases result with
  | error cause => cases done
  | ok value => exact ⟨value, rfl, (Except.ok.inj done).symm⟩

theorem of_started (done : site.perform (.start service qualifier address) = .ok next) :
    ∃ registry, site.registry.register service qualifier address = .ok registry ∧
      next = {
        registry
        cluster := { site.cluster with
          nodes := site.cluster.nodes ++ [{ qualifier, service := .start site.cluster.first }]
          listeners := (address, site.cluster.nodes.length) :: site.cluster.listeners }
        started := site.started ++ [⟨service, qualifier, address⟩] } := by
  obtain ⟨_, started, rfl⟩ := of_map done
  obtain ⟨registry, registering, rfl⟩ := of_map started
  exact ⟨registry, registering, rfl⟩

theorem of_deleted (done : site.perform (.delete service address) = .ok next) :
    ∃ registry, site.registry.delete service address = .ok registry ∧
      next = { site with registry } :=
  of_map done

theorem Charted.started (charted : Charted number site)
    (done : site.perform (.start service qualifier address) = .ok next) :
    Charted number next := by
  obtain ⟨registry, registering, rfl⟩ := of_started done
  obtain ⟨_, fresh, rfl⟩ := Registry.of_registered registering
  have count : site.cluster.nodes.length = site.started.length := by simp [charted.nodes]
  refine ⟨charted.sound.registered registering, charted.first, ?_, ?_, ?_⟩
  · simp [charted.nodes, charted.first]
  · intro other place entry last
    rw [Cluster.listener?, List.lookup_cons, count]
    by_cases here : address = other
    · subst here
      have newest : LastAt (·.address = address)
          (site.started ++ [⟨service, qualifier, address⟩]) site.started.length
          ⟨service, qualifier, address⟩ := .newest rfl
      simp [(last.unique newest).1]
    · have apart : (other == address) = false := by simpa using fun same => here same.symm
      rw [apart]
      exact charted.listeners other place entry (last.before here)
  · intro other descriptor member
    rw [Registry.descriptors_update] at member
    split at member
    · rename_i same
      subst same
      rcases List.mem_append.mp member with old | new
      · obtain ⟨own, last⟩ := charted.registered _ descriptor old
        refine ⟨own, last.kept ?_⟩
        rintro ⟨_, listed⟩
        exact fresh ⟨descriptor, old, listed.symm⟩
      · rw [List.mem_singleton.mp new]
        exact ⟨_, LastAt.newest ⟨rfl, rfl⟩⟩
    · rename_i apart
      obtain ⟨own, last⟩ := charted.registered other descriptor member
      refine ⟨own, last.kept ?_⟩
      rintro ⟨same, _⟩
      exact apart same.symm

theorem Charted.deleted (charted : Charted number site)
    (done : site.perform (.delete service address) = .ok next) : Charted number next := by
  obtain ⟨registry, deleting, rfl⟩ := of_deleted done
  refine ⟨charted.sound.deleted deleting, charted.first, charted.nodes, charted.listeners, ?_⟩
  intro other descriptor member
  have before : descriptor ∈ site.registry.descriptors other := by
    rw [Registry.of_deleted deleting, Registry.descriptors_update] at member
    split at member
    · rename_i same
      subst same
      exact List.mem_of_mem_eraseP member
    · exact member
  exact charted.registered other descriptor before

theorem Charted.called (charted : Charted number site) (call : SiteCall) :
    Charted number (site.call call) := by
  unfold Site.call
  split
  · rename_i next done
    cases call with
    | start service qualifier address => exact charted.started done
    | delete service address => exact charted.deleted done
  · exact charted

theorem charted_after (number : Nat) (calls : List SiteCall) :
    Charted number (after number calls) := by
  unfold after
  generalize founded : ({ cluster := { first := number } } : Site) = site
  have charted : Charted number site := founded ▸ charted_founded number
  clear founded
  induction calls generalizing site with
  | nil => exact charted
  | cons call later induction => exact induction _ (charted.called call)

/-- A look-up leads to the replica that was started last at the address found. It is the one that
was registered with the descriptor just if it was started for the same service. -/
theorem leads_to_own_iff {calls : List SiteCall} {qualifier? : Option String}
    {descriptor : Descriptor}
    (found : descriptor ∈ (after number calls).registry.lookup service qualifier?) :
    (after number calls).cluster.nodes = (after number calls).started.map
        (fun entry => { qualifier := entry.qualifier, service := .start number }) ∧
    ∃ own place entry,
      LastAt (fun entry => entry.service = service ∧ entry.address = descriptor.address)
        (after number calls).started own ⟨service, descriptor.qualifier, descriptor.address⟩ ∧
      LastAt (·.address = descriptor.address) (after number calls).started place entry ∧
      (after number calls).cluster.connect descriptor = .ok place ∧
      (place = own ↔ entry.service = service) := by
  have charted := charted_after number calls
  obtain ⟨own, own_last⟩ := charted.registered service descriptor (List.mem_filter.mp found).1
  obtain ⟨place, entry, last⟩ := own_last.wider fun entry stricter => stricter.2
  refine ⟨charted.nodes, own, place, entry, own_last, last, ?_, ?_⟩
  · rw [Cluster.connect, charted.listeners _ _ _ last]
  · rw [last.same_iff own_last fun entry stricter => stricter.2]
    exact and_iff_left last.meets

/-- One service gives an address up and starts another replica there. On its second address the
other service starts one. -/
private def moved : List SiteCall :=
  [.start "S" "A" "h:1", .start "S" "B" "h:2", .delete "S" "h:1", .start "S" "C" "h:1",
    .start "T" "A" "h:2"]

theorem leads_to_own_iff_of_moved :
    (∃ own, LastAt (fun entry => entry.service = "S" ∧ entry.address = "h:1")
        (after 1 moved).started own ⟨"S", "C", "h:1"⟩ ∧
      (after 1 moved).cluster.connect ⟨"C", "h:1"⟩ = .ok own) ∧
    ∃ own, LastAt (fun entry => entry.service = "S" ∧ entry.address = "h:2")
        (after 1 moved).started own ⟨"S", "B", "h:2"⟩ ∧
      (after 1 moved).cluster.connect ⟨"B", "h:2"⟩ ≠ .ok own := by
  have started : (after 1 moved).started =
      [⟨"S", "A", "h:1"⟩, ⟨"S", "B", "h:2"⟩, ⟨"S", "C", "h:1"⟩, ⟨"T", "A", "h:2"⟩] := by
    decide +kernel
  have found : (after 1 moved).registry.lookup "S" none = [⟨"B", "h:2"⟩, ⟨"C", "h:1"⟩] := by
    decide +kernel
  have restarted : (after 1 moved).cluster.connect ⟨"C", "h:1"⟩ = .ok 2 := by decide +kernel
  have replaced : (after 1 moved).cluster.connect ⟨"B", "h:2"⟩ = .ok 3 := by decide +kernel
  constructor
  · obtain ⟨_, own, place, entry, own_last, last, leads, same⟩ :=
      leads_to_own_iff (found ▸ by decide : ⟨"C", "h:1"⟩ ∈
        (after 1 moved).registry.lookup "S" none)
    obtain rfl := Except.ok.inj (restarted.symm.trans leads)
    have there := last.there
    rw [started] at there
    obtain rfl := Option.some.inj there
    exact ⟨own, own_last, same.mpr rfl ▸ leads⟩
  · obtain ⟨_, own, place, entry, own_last, last, leads, same⟩ :=
      leads_to_own_iff (found ▸ by decide : ⟨"B", "h:2"⟩ ∈
        (after 1 moved).registry.lookup "S" none)
    obtain rfl := Except.ok.inj (replaced.symm.trans leads)
    have there := last.there
    rw [started] at there
    obtain rfl := Option.some.inj there
    refine ⟨own, own_last, ?_⟩
    rw [leads]
    intro equal
    exact absurd (same.mp (Except.ok.inj equal)) (by decide)

/-- A look-up for one service leads to a replica that was started for another. -/
theorem address_taken_over :
    ∃ site descriptor, site = after 1 [.start "S" "A" "h:1", .start "T" "A" "h:1"] ∧
      site.registry.lookup "S" none = [descriptor] ∧
      site.started = [⟨"S", "A", "h:1"⟩, ⟨"T", "A", "h:1"⟩] ∧
      site.cluster.connect descriptor = .ok 1 := by
  refine ⟨_, ⟨"A", "h:1"⟩, rfl, ?_, ?_, ?_⟩
  · decide +kernel
  · decide +kernel
  · decide +kernel

end Site

end TupleSpace
