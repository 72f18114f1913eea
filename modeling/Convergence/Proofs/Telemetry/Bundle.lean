import Convergence.Proofs.Decode.RoundTrip
import Convergence.Proofs.Telemetry.Rearrangement

/-!
# `Convergence.Proofs.Telemetry.Bundle`: bundles with fewer members

A device that takes a member out of a bundle reports the bundle without it from then on.
`Bundle.without` is that bundle: every member with the interface is left out, however often it was
listed.  Every bundle can be reported, because it reads back from the document that writes it
(`Bundle.decode_value_document`).
-/

set_option autoImplicit false

namespace Convergence

/-- What is written of a member reads back. -/
theorem BundleMember.decode_encode (m : BundleMember) : schema.decode .json m.encode = .ok m := by
  obtain ⟨interface, collecting, distributing, synchronization⟩ := m
  cases synchronization <;> rfl

/-- A member is written with its keys in order. -/
theorem BundleMember.ordered_encode (m : BundleMember) : m.encode.Ordered :=
  Value.ordered_object ["collecting", "distributing", "interface", "synchronization"] (by decide)
    rfl ⟨trivial, trivial, trivial, trivial, trivial⟩

namespace Bundle

/-- The bundle without the members of that interface. -/
def without (b : Bundle) (interface : String) : Bundle where
  members := b.members.filter (·.interface ≠ interface)

/-- The interfaces of the members that are left are those of the members without this one. -/
theorem map_interface_without (b : Bundle) (interface : String) :
    (b.without interface).members.map (·.interface) =
      (b.members.map (·.interface)).filter (· ≠ interface) := by
  rw [without, List.filter_map]
  rfl

theorem ordered_encode (b : Bundle) : b.encode.Ordered :=
  Value.ordered_object ["members"] (by decide) rfl
    ⟨Value.ordered_array_map BundleMember.ordered_encode b.members, trivial⟩

/-- The document that writes the bundle. -/
def document (b : Bundle) : Document := ⟨b.encode, b.ordered_encode⟩

/-- What is written of a bundle reads back. -/
theorem decode_value_document (b : Bundle) :
    schema.decode .json b.document.value = .ok b :=
  Schema.decode_object_eq_ok
    (.cons (Schema.takes_optional rfl (Decoder.list_map fun m _ => m.decode_encode)) .nil) rfl rfl

end Bundle

end Convergence
