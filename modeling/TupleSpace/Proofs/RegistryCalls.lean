import Mathlib.Data.List.Nodup
import TupleSpace.Proofs.AddressForm

/-!
# Calls on the registry

Every call on the registry either does what it says or is refused, and each refusal has its own
conditions. In whatever order calls come, every descriptor in the registry is one that it accepts,
and no service has an address twice.
-/

namespace TupleSpace

inductive RegistryCall
  | register (service qualifier address : String)
  | delete (service address : String)
  | lookup (service : String) (qualifier? : Option String)
deriving DecidableEq, Repr

def RegistryCall.service : RegistryCall → String
  | register service _ _ | delete service _ | lookup service _ => service

inductive RegistryAnswer
  | done
  | refused (cause : NamingError)
  | found (descriptors : List Descriptor)
deriving DecidableEq, Repr

namespace Registry

/-- A call that is refused leaves the registry as it was. -/
def settle (registry : Registry) : Except NamingError Registry → RegistryAnswer × Registry
  | .ok next => (.done, next)
  | .error cause => (.refused cause, registry)

def call (registry : Registry) : RegistryCall → RegistryAnswer × Registry
  | .register service qualifier address =>
      registry.settle (registry.register service qualifier address)
  | .delete service address => registry.settle (registry.delete service address)
  | .lookup service qualifier? => (.found (registry.lookup service qualifier?), registry)

def after (registry : Registry) (calls : List RegistryCall) : Registry :=
  calls.foldl (fun registry call => (registry.call call).2) registry

def answers (registry : Registry) : List RegistryCall → List RegistryAnswer
  | [] => []
  | call :: later => (registry.call call).1 :: (registry.call call).2.answers later

theorem settled {P : Registry → Prop} {registry : Registry} {result : Except NamingError Registry}
    (now : P registry) (later : ∀ next, result = .ok next → P next) :
    P (registry.settle result).2 := by
  cases result with
  | ok next => exact later next rfl
  | error cause => exact now

def Lists (registry : Registry) (service address : String) : Prop :=
  ∃ entry ∈ registry.descriptors service, entry.address = address

section

variable {registry next : Registry} {service qualifier address other : String} {fault : EntryFault}
  {endpoint : Address}

theorem lookup_assign (entries : List Descriptor) (table : List (String × List Descriptor)) :
    (assign service entries table).lookup other =
      if other = service then some entries else table.lookup other := by
  induction table with
  | nil =>
      rw [assign, List.lookup_cons]
      split <;> simp_all
  | cons row rest induction =>
      obtain ⟨name, old⟩ := row
      rw [assign]
      by_cases here : name = service
      · subst here
        rw [if_pos rfl, List.lookup_cons, List.lookup_cons]
        by_cases same : other = name
        · simp [same]
        · have apart : (other == name) = false := by simpa using same
          rw [apart, if_neg same]
      · rw [if_neg here, List.lookup_cons, List.lookup_cons, induction]
        by_cases same : other = name
        · simp [same, here]
        · have apart : (other == name) = false := by simpa using same
          rw [apart]

@[simp] theorem descriptors_update (entries : List Descriptor) :
    (registry.update service entries).descriptors other =
      if other = service then entries else registry.descriptors other := by
  rw [descriptors, update, lookup_assign]
  split <;> rfl

theorem lists_iff : registry.Lists service address ↔
    (registry.descriptors service).any (fun entry => entry.address == address) = true := by
  rw [List.any_eq_true]
  simp only [beq_iff_eq]
  rfl

/-! ## What each call does -/

theorem register_unnamed :
    registry.register service "" address = .error (.invalidEntry .emptyQualifier) := rfl

theorem make_flawed (named : qualifier ≠ "") (flaw : Address.Flaw address fault) :
    Descriptor.make qualifier address = .error (.invalidEntry fault) := by
  have refused := Address.parse_error_iff.mpr ⟨fault, rfl, flaw⟩
  simp [Descriptor.make, named, refused, Except.map]

theorem make_formed (named : qualifier ≠ "") (stands : Address.StandsFor address endpoint) :
    Descriptor.make qualifier address = .ok ⟨qualifier, address⟩ := by
  have read := Address.parse_ok_iff.mpr stands
  simp [Descriptor.make, named, read, Except.map]

theorem register_flawed (named : qualifier ≠ "") (flaw : Address.Flaw address fault) :
    registry.register service qualifier address = .error (.invalidEntry fault) := by
  rw [register, make_flawed named flaw]

theorem register_listed (named : qualifier ≠ "") (stands : Address.StandsFor address endpoint)
    (listed : registry.Lists service address) :
    registry.register service qualifier address =
      .error (.alreadyRegistered service qualifier address) := by
  rw [register, make_formed named stands]
  exact if_pos (lists_iff.mp listed)

theorem register_fresh (named : qualifier ≠ "") (stands : Address.StandsFor address endpoint)
    (fresh : ¬ registry.Lists service address) :
    registry.register service qualifier address =
      .ok (registry.update service (registry.descriptors service ++ [⟨qualifier, address⟩])) := by
  rw [register, make_formed named stands]
  exact if_neg (mt lists_iff.mpr fresh)

theorem delete_flawed (flaw : Address.Flaw address fault) :
    registry.delete service address = .error (.invalidEntry fault) := by
  rw [delete, Address.parse_error_iff.mpr ⟨fault, rfl, flaw⟩]

theorem delete_absent (stands : Address.StandsFor address endpoint)
    (absent : ¬ registry.Lists service address) :
    registry.delete service address = .error (.notRegistered service address) := by
  rw [delete, Address.parse_ok_iff.mpr stands]
  exact if_neg (mt lists_iff.mpr absent)

theorem delete_listed (stands : Address.StandsFor address endpoint)
    (listed : registry.Lists service address) :
    registry.delete service address = .ok (registry.update service
      ((registry.descriptors service).eraseP (fun entry => entry.address == address))) := by
  rw [delete, Address.parse_ok_iff.mpr stands]
  exact if_pos (lists_iff.mp listed)

/-- A registration that goes through adds one descriptor, with an address that the service does
not have yet. -/
theorem of_registered (registered : registry.register service qualifier address = .ok next) :
    Descriptor.make qualifier address = .ok ⟨qualifier, address⟩ ∧
      ¬ registry.Lists service address ∧
      next = registry.update service (registry.descriptors service ++ [⟨qualifier, address⟩]) := by
  by_cases named : qualifier = ""
  · subst named
    rw [register_unnamed] at registered
    cases registered
  · rcases Address.stands_or_flawed address with ⟨endpoint, stands⟩ | ⟨fault, flaw⟩
    · by_cases listed : registry.Lists service address
      · rw [register_listed named stands listed] at registered
        cases registered
      · rw [register_fresh named stands listed] at registered
        exact ⟨make_formed named stands, listed, (Except.ok.inj registered).symm⟩
    · rw [register_flawed named flaw] at registered
      cases registered

theorem of_deleted (deleted : registry.delete service address = .ok next) :
    next = registry.update service
      ((registry.descriptors service).eraseP (fun entry => entry.address == address)) := by
  rcases Address.stands_or_flawed address with ⟨endpoint, stands⟩ | ⟨fault, flaw⟩
  · by_cases listed : registry.Lists service address
    · rw [delete_listed stands listed] at deleted
      exact (Except.ok.inj deleted).symm
    · rw [delete_absent stands listed] at deleted
      cases deleted
  · rw [delete_flawed flaw] at deleted
    cases deleted

end

/-! ## What all calls keep -/

/-- Each descriptor is one that the registry accepts, and no service has an address twice. -/
structure Sound (registry : Registry) : Prop where
  formed : ∀ service, ∀ entry ∈ registry.descriptors service,
    Descriptor.make entry.qualifier entry.address = .ok entry
  distinct : ∀ service, ((registry.descriptors service).map (·.address)).Nodup

section

variable {registry next : Registry} {service qualifier address : String}

theorem sound_start : Sound {} :=
  ⟨fun _ _ member => absurd member List.not_mem_nil, fun _ => List.nodup_nil⟩

theorem Sound.update {entries : List Descriptor} (sound : Sound registry)
    (formed : ∀ entry ∈ entries, Descriptor.make entry.qualifier entry.address = .ok entry)
    (distinct : (entries.map (·.address)).Nodup) : Sound (registry.update service entries) := by
  constructor
  · intro other
    rw [descriptors_update]
    split
    · exact formed
    · exact sound.formed other
  · intro other
    rw [descriptors_update]
    split
    · exact distinct
    · exact sound.distinct other

theorem Sound.registered (sound : Sound registry)
    (registered : registry.register service qualifier address = .ok next) : Sound next := by
  obtain ⟨made, fresh, rfl⟩ := of_registered registered
  apply sound.update
  · intro entry member
    rcases List.mem_append.mp member with old | new
    · exact sound.formed service entry old
    · rw [List.mem_singleton.mp new]
      exact made
  · rw [List.map_append, List.map_singleton, List.nodup_append]
    refine ⟨sound.distinct service, List.nodup_singleton _, ?_⟩
    intro old member new here same
    rw [same, List.mem_singleton.mp here] at member
    exact fresh (List.mem_map.mp member)

theorem Sound.deleted (sound : Sound registry)
    (deleted : registry.delete service address = .ok next) : Sound next := by
  have gone := of_deleted deleted
  subst gone
  apply sound.update
  · intro entry member
    exact sound.formed service entry (List.mem_of_mem_eraseP member)
  · exact (sound.distinct service).sublist (List.eraseP_sublist.map _)

theorem Sound.called (sound : Sound registry) (call : RegistryCall) :
    Sound (registry.call call).2 := by
  cases call with
  | register service qualifier address =>
      apply settled sound
      intro next done
      exact sound.registered done
  | delete service address =>
      apply settled sound
      intro next done
      exact sound.deleted done
  | lookup service qualifier? => exact sound

theorem Sound.after (sound : Sound registry) (calls : List RegistryCall) :
    Sound (registry.after calls) := by
  induction calls generalizing registry with
  | nil => exact sound
  | cons call later induction => exact induction (sound.called call)

theorem Sound.stands (sound : Sound registry) {entry : Descriptor}
    (member : entry ∈ registry.descriptors service) :
    entry.qualifier ≠ "" ∧ ∃ endpoint, Address.StandsFor entry.address endpoint := by
  have made := sound.formed service entry member
  by_cases named : entry.qualifier = ""
  · rw [named] at made
    cases made
  · rcases Address.stands_or_flawed entry.address with stands | ⟨fault, flaw⟩
    · exact ⟨named, stands⟩
    · rw [make_flawed named flaw] at made
      cases made

end

end Registry

end TupleSpace
