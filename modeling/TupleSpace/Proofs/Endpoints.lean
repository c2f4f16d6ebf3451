import TupleSpace.Proofs.RegistryCalls

/-!
# Endpoints of a service

The registry tells the entries of a service apart by the text of their addresses. Several texts
may stand for one endpoint, and then the registry lists it several times: two entries share an
endpoint just if the ports of their addresses differ in a plus sign and in leading zeros.
-/

namespace TupleSpace.Registry

section

variable {registry : Registry} {service : String}

theorem lookup_all : registry.lookup service none = registry.descriptors service :=
  List.filter_eq_self.mpr fun _ _ => rfl

theorem Sound.register_respelled (sound : Sound registry) {entry : Descriptor}
    (member : entry ∈ registry.descriptors service) {qualifier spelling : String}
    (named : qualifier ≠ "") (respelled : Address.Respelled entry.address spelling)
    (fresh : ¬ registry.Lists service spelling) :
    ∃ next, registry.register service qualifier spelling = .ok next := by
  obtain ⟨_, endpoint, stands⟩ := sound.stands member
  exact ⟨_, register_fresh named (stands.respelled respelled) fresh⟩

/-- Whatever calls were made on a new registry, the addresses of a service differ, and two of them
stand for one endpoint just if one is a respelling of the other. The registry accepts every
respelling of an address that it does not list. -/
theorem endpoints_shared_iff (calls : List RegistryCall) (service : String) :
    (((Registry.after {} calls).lookup service none).Pairwise fun first second =>
      first.address ≠ second.address ∧
      ∃ one other, Address.StandsFor first.address one ∧ Address.StandsFor second.address other ∧
        (one = other ↔ Address.Respelled first.address second.address)) ∧
    ∀ entry ∈ (Registry.after {} calls).lookup service none, ∀ qualifier spelling,
      qualifier ≠ "" → Address.Respelled entry.address spelling →
        (∀ other ∈ (Registry.after {} calls).lookup service none, other.address ≠ spelling) →
          ∃ next, (Registry.after {} calls).register service qualifier spelling = .ok next := by
  have sound := sound_start.after calls
  rw [lookup_all]
  constructor
  · have differ := List.pairwise_map.mp (sound.distinct service)
    apply List.Pairwise.imp_of_mem _ differ
    intro first second here there apart
    obtain ⟨_, one, stands⟩ := sound.stands here
    obtain ⟨_, other, stands_⟩ := sound.stands there
    exact ⟨apart, one, other, stands, stands_, Address.same_endpoint_iff stands stands_⟩
  · intro entry member qualifier spelling named respelled fresh
    apply sound.register_respelled member named respelled
    rintro ⟨other, listed, same⟩
    exact fresh other listed same

end

private def padded : List RegistryCall :=
  [.register "S" "A" "h:1", .register "S" "B" "h:01", .register "S" "C" "h:10"]

theorem endpoints_shared_iff_of_padded :
    (Registry.after {} padded).lookup "S" none = [⟨"A", "h:1"⟩, ⟨"B", "h:01"⟩, ⟨"C", "h:10"⟩] ∧
      Address.Respelled "h:1" "h:01" ∧ ¬ Address.Respelled "h:1" "h:10" ∧
      ∃ next, (Registry.after {} padded).register "S" "D" "h:+1" = .ok next := by
  have listed : (Registry.after {} padded).lookup "S" none =
      [⟨"A", "h:1"⟩, ⟨"B", "h:01"⟩, ⟨"C", "h:10"⟩] := by decide +kernel
  have bare : Address.parse "h:1" = .ok ⟨['h'], 1⟩ := by decide +kernel
  have zero : Address.parse "h:01" = .ok ⟨['h'], 1⟩ := by decide +kernel
  have plus : Address.parse "h:+1" = .ok ⟨['h'], 1⟩ := by decide +kernel
  have ten : Address.parse "h:10" = .ok ⟨['h'], 10⟩ := by decide +kernel
  obtain ⟨pairs, accepts⟩ := endpoints_shared_iff padded "S"
  rw [listed] at pairs accepts
  obtain ⟨first, _⟩ := List.pairwise_cons.mp pairs
  obtain ⟨_, one, other, here, there, shared⟩ := first ⟨"B", "h:01"⟩ (by decide)
  obtain ⟨_, one_, far, here_, there_, apart⟩ := first ⟨"C", "h:10"⟩ (by decide)
  obtain rfl := Except.ok.inj (bare.symm.trans (Address.parse_ok_iff.mpr here))
  obtain rfl := Except.ok.inj (bare.symm.trans (Address.parse_ok_iff.mpr here_))
  obtain rfl := Except.ok.inj (zero.symm.trans (Address.parse_ok_iff.mpr there))
  obtain rfl := Except.ok.inj (ten.symm.trans (Address.parse_ok_iff.mpr there_))
  have signed := (Address.same_endpoint_iff here (Address.parse_ok_iff.mp plus)).mp rfl
  refine ⟨listed, shared.mp rfl, mt apart.mpr (by decide), ?_⟩
  exact accepts ⟨"A", "h:1"⟩ (by decide) "D" "h:+1" (by decide) signed (by decide)

/-- The registry lists port 1 of a host twice. -/
theorem endpoint_listed_twice :
    ∃ first second endpoint,
      (Registry.after {} [.register "S" "A" "h:1", .register "S" "B" "h:01"]).lookup "S" none =
        [first, second] ∧ first ≠ second ∧
      Address.StandsFor first.address endpoint ∧ Address.StandsFor second.address endpoint := by
  refine ⟨⟨"A", "h:1"⟩, ⟨"B", "h:01"⟩, ⟨['h'], 1⟩, ?_, ?_, ?_, ?_⟩
  · decide +kernel
  · decide
  · exact Address.parse_ok_iff.mp (by decide +kernel)
  · exact Address.parse_ok_iff.mp (by decide +kernel)

end TupleSpace.Registry
