import Convergence.Proofs.Decode.RoundTrip
import Convergence.Proofs.Telemetry.Bundle
import Convergence.Proofs.Telemetry.Items

/-!
# `Convergence.Proofs.Telemetry.RoundTrip`: telemetry that is written is read back

Each kind of record reads back from what is written of it, because every key that is written is the
name of the field whose value stands there (`PortMetric.decode_encode`, and so on).  So where an
item of telemetry has been written, its reader answers what was written, whatever the document was
before (`Telemetry.Item.read_of_set`).
-/

set_option autoImplicit false

namespace Convergence

open Decoder Schema

/-! ### Records

Each record reads back from what is written of it, and is written with its keys in order.  Where a
record reads back, there is one step for each member, in the order of the keys. -/

namespace PortMetric

theorem decode_encode (r : PortMetric) (htx : r.framesTxRate.value.isFinite = true)
    (hrx : r.framesRxRate.value.isFinite = true) :
    schema.decode .json (r.encode Rate.encode) = .ok r :=
  decode_object_eq_ok (.cons (takes_optional rfl (uint64_word64 r.bytesRx)) <|
    .cons (takes_optional rfl (uint64_word64 r.bytesTx)) <|
    .cons (takes_optional rfl (uint64_word64 r.framesRx)) <|
    .cons (takes_optional rfl (rate_encode hrx)) <|
    .cons (takes_optional rfl (uint64_word64 r.framesTx)) <|
    .cons (takes_optional rfl (rate_encode htx)) <|
    .cons (takes_optional rfl (LinkState.decode_name r.link)) .nil) rfl rfl

theorem ordered_encode (r : PortMetric) : (r.encode Rate.encode).Ordered :=
  Value.ordered_object ["bytes-rx", "bytes-tx", "frames-rx", "frames-rx-rate", "frames-tx",
    "frames-tx-rate", "link"] (by decide) rfl
    ⟨trivial, trivial, trivial, Value.ordered_rate _, trivial, Value.ordered_rate _, trivial,
      trivial⟩

end PortMetric

namespace FlowMetric

theorem decode_encode (r : FlowMetric) (htx : r.framesTxRate.value.isFinite = true)
    (hrx : r.framesRxRate.value.isFinite = true) :
    schema.decode .json (r.encode Rate.encode) = .ok r :=
  decode_object_eq_ok (.cons (takes_optional rfl (uint64_word64 r.framesRx)) <|
    .cons (takes_optional rfl (rate_encode hrx)) <|
    .cons (takes_optional rfl (uint64_word64 r.framesTx)) <|
    .cons (takes_optional rfl (rate_encode htx)) .nil) rfl rfl

theorem ordered_encode (r : FlowMetric) : (r.encode Rate.encode).Ordered :=
  Value.ordered_object ["frames-rx", "frames-rx-rate", "frames-tx", "frames-tx-rate"]
    (by decide) rfl ⟨trivial, Value.ordered_rate _, trivial, Value.ordered_rate _, trivial⟩

end FlowMetric

namespace BgpMetric

theorem decode_encode (r : BgpMetric) : schema.decode .json r.encode = .ok r :=
  decode_object_eq_ok (.cons (takes_optional rfl (uint64_word64 r.flaps)) <|
    .cons (takes_optional rfl (uint64_word64 r.keepalivesReceived)) <|
    .cons (takes_optional rfl (uint64_word64 r.keepalivesSent)) <|
    .cons (takes_optional rfl (uint64_word64 r.routeWithdrawsReceived)) <|
    .cons (takes_optional rfl (uint64_word64 r.routeWithdrawsSent)) <|
    .cons (takes_optional rfl (uint64_word64 r.routesAdvertised)) <|
    .cons (takes_optional rfl (uint64_word64 r.routesReceived)) <|
    .cons (takes_optional rfl (SessionState.decode_name r.sessionState)) .nil) rfl rfl

theorem ordered_encode (r : BgpMetric) : r.encode.Ordered :=
  Value.ordered_object ["flaps", "keepalives-received", "keepalives-sent",
    "route-withdraws-received", "route-withdraws-sent", "routes-advertised", "routes-received",
    "session-state"] (by decide) rfl
    ⟨trivial, trivial, trivial, trivial, trivial, trivial, trivial, trivial, trivial⟩

end BgpMetric

namespace BgpPrefixes

theorem decode_encode (r : BgpPrefixes) : schema.decode .json r.encode = .ok r :=
  decode_object_eq_ok (.cons (takes_optional rfl (list_map fun _ _ => rfl)) <|
    .cons (takes_optional rfl (list_map fun _ _ => rfl)) .nil) rfl rfl

theorem ordered_encode (r : BgpPrefixes) : r.encode.Ordered :=
  Value.ordered_object ["ipv4-unicast", "ipv6-unicast"] (by decide) rfl
    ⟨Value.ordered_texts _, Value.ordered_texts _, trivial⟩

end BgpPrefixes

namespace IsisMetric

theorem decode_encode (r : IsisMetric) : schema.decode .json r.encode = .ok r :=
  decode_object_eq_ok (.cons (takes_optional rfl (uint32_word32 r.l1DatabaseSize)) <|
    .cons (takes_optional rfl (uint64_word64 r.l1SessionsFlap)) <|
    .cons (takes_optional rfl (uint32_word32 r.l1SessionsUp)) <|
    .cons (takes_optional rfl (uint32_word32 r.l2DatabaseSize)) <|
    .cons (takes_optional rfl (uint64_word64 r.l2SessionsFlap)) <|
    .cons (takes_optional rfl (uint32_word32 r.l2SessionsUp)) .nil) rfl rfl

theorem ordered_encode (r : IsisMetric) : r.encode.Ordered :=
  Value.ordered_object ["l1-database-size", "l1-sessions-flap", "l1-sessions-up",
    "l2-database-size", "l2-sessions-flap", "l2-sessions-up"] (by decide) rfl
    ⟨trivial, trivial, trivial, trivial, trivial, trivial, trivial⟩

end IsisMetric

namespace LagMetric

theorem decode_encode (r : LagMetric) : schema.decode .json r.encode = .ok r :=
  decode_object_eq_ok (.cons (takes_optional rfl (uint64_word64 r.framesRx)) <|
    .cons (takes_optional rfl (uint64_word64 r.framesTx)) <|
    .cons (takes_optional rfl (uint32_word32 r.memberPortsUp)) <|
    .cons (takes_optional rfl (OperStatus.decode_name r.operStatus)) .nil) rfl rfl

theorem ordered_encode (r : LagMetric) : r.encode.Ordered :=
  Value.ordered_object ["frames-rx", "frames-tx", "member-ports-up", "oper-status"] (by decide) rfl
    ⟨trivial, trivial, trivial, trivial, trivial⟩

end LagMetric

namespace LacpMetric

theorem decode_encode (r : LacpMetric) : schema.decode .json r.encode = .ok r :=
  decode_object_eq_ok (.cons (takes_optional rfl rfl) <|
    .cons (takes_optional rfl rfl) <|
    .cons (takes_optional rfl rfl) <|
    .cons (takes_optional rfl (optional_mac r.partnerId)) <|
    .cons (takes_optional rfl (Synchronization.decode_name r.synchronization)) <|
    .cons (takes_optional rfl (optional_mac r.systemId)) .nil) rfl rfl

theorem ordered_encode (r : LacpMetric) : r.encode.Ordered :=
  Value.ordered_object ["collecting", "distributing", "lag-name", "partner-id", "synchronization",
    "system-id"] (by decide) rfl
    ⟨trivial, trivial, trivial, Value.ordered_optional_mac _, trivial,
      Value.ordered_optional_mac _, trivial⟩

end LacpMetric

namespace Neighbor

theorem decode_encode (r : Neighbor) : schema.decode .json r.encode = .ok r :=
  decode_object_eq_ok (.cons (takes_mandatory rfl (address_text r.address)) <|
    .cons (takes_mandatory rfl rfl) <|
    .cons (takes_optional rfl (optional_mac r.mac)) .nil) rfl rfl

theorem ordered_encode (r : Neighbor) : r.encode.Ordered :=
  Value.ordered_object ["address", "interface", "mac"] (by decide) rfl
    ⟨trivial, trivial, Value.ordered_optional_mac _, trivial⟩

end Neighbor

namespace InterfaceState

theorem decode_encode (r : InterfaceState) : schema.decode .json r.encode = .ok r :=
  decode_object_eq_ok (.cons (takes_optional rfl (OperStatus.decode_name r.operStatus)) .nil)
    rfl rfl

theorem ordered_encode (r : InterfaceState) : r.encode.Ordered :=
  Value.ordered_object ["oper-status"] (by decide) rfl ⟨trivial, trivial⟩

end InterfaceState

/-! ### Items -/

namespace Telemetry.Item

/-- What is written where the item lies. -/
def Datum : Item → Type
  | port _ => PortMetric
  | flow _ => FlowMetric
  | bgp4 _ | bgp6 _ => BgpMetric
  | bgpPrefixes _ => BgpPrefixes
  | isis _ => IsisMetric
  | lag _ => LagMetric
  | lacp _ => LacpMetric
  | ipv4Neighbors | ipv6Neighbors => List Neighbor
  | deviceInterface _ => InterfaceState
  | bundleMembers _ => List BundleMember

/-- The rates are numbers. -/
def HasNumbers : (i : Item) → i.Datum → Prop
  | port _, (r : PortMetric) => r.framesTxRate.value.isFinite ∧ r.framesRxRate.value.isFinite
  | flow _, (r : FlowMetric) => r.framesTxRate.value.isFinite ∧ r.framesRxRate.value.isFinite
  | _, _ => True

/-- The datum as a value.  Neighbors are written as a list, and the members of a bundle as the
bundle. -/
def encode : (i : Item) → i.Datum → Value
  | port _, (r : PortMetric) => r.encode Rate.encode
  | flow _, (r : FlowMetric) => r.encode Rate.encode
  | bgp4 _, (r : BgpMetric) | bgp6 _, (r : BgpMetric) => r.encode
  | bgpPrefixes _, (r : BgpPrefixes) => r.encode
  | isis _, (r : IsisMetric) => r.encode
  | lag _, (r : LagMetric) => r.encode
  | lacp _, (r : LacpMetric) => r.encode
  | ipv4Neighbors, (ns : List Neighbor) | ipv6Neighbors, (ns : List Neighbor) =>
      .array (ns.map Neighbor.encode)
  | deviceInterface _, (r : InterfaceState) => r.encode
  | bundleMembers _, (ms : List BundleMember) => Bundle.encode ⟨ms⟩

/-- The answer that says this. -/
def answer : (i : Item) → i.Datum → i.Answer
  | port _, (r : PortMetric) => some r
  | flow _, (r : FlowMetric) => some r
  | bgp4 _, (r : BgpMetric) | bgp6 _, (r : BgpMetric) => some r
  | bgpPrefixes _, (r : BgpPrefixes) => some r
  | isis _, (r : IsisMetric) => some r
  | lag _, (r : LagMetric) => some r
  | lacp _, (r : LacpMetric) => some r
  | ipv4Neighbors, (ns : List Neighbor) | ipv6Neighbors, (ns : List Neighbor) => ns
  | deviceInterface _, (r : InterfaceState) => some r
  | bundleMembers _, (ms : List BundleMember) => ms

theorem ordered_encode (i : Item) (x : i.Datum) : (i.encode x).Ordered := by
  cases i with
  | port _ => exact PortMetric.ordered_encode x
  | flow _ => exact FlowMetric.ordered_encode x
  | bgp4 _ | bgp6 _ => exact BgpMetric.ordered_encode x
  | bgpPrefixes _ => exact BgpPrefixes.ordered_encode x
  | isis _ => exact IsisMetric.ordered_encode x
  | lag _ => exact LagMetric.ordered_encode x
  | lacp _ => exact LacpMetric.ordered_encode x
  | ipv4Neighbors | ipv6Neighbors => exact Value.ordered_array_map Neighbor.ordered_encode x
  | deviceInterface _ => exact InterfaceState.ordered_encode x
  | bundleMembers _ => exact Bundle.ordered_encode ⟨x⟩

/-- The document that writes the datum. -/
def document (i : Item) (x : i.Datum) : Document := ⟨i.encode x, i.ordered_encode x⟩

/-- **Reading what was written.**  Where an item has been written, its reader answers what was
written. -/
theorem read_of_set (i : Item) (x : i.Datum) (hx : i.HasNumbers x) (d : Document) :
    (i.read.run (d.set i.path (i.document x)).source).result = .ok (i.answer x) := by
  have hrecord : ∀ {α : Type} {decoder : Decoder α} {y : α} {p : Path},
      decoder .json (i.document x).value = .ok y →
      ((Inspection.record p decoder).run (d.set p (i.document x)).source).result =
        .ok (some y) :=
    fun h => Inspection.result_record_eq_some_iff.mpr (Document.record?_set h d _)
  cases i with
  | port _ => exact hrecord (PortMetric.decode_encode x hx.1 hx.2)
  | flow _ => exact hrecord (FlowMetric.decode_encode x hx.1 hx.2)
  | bgp4 _ | bgp6 _ => exact hrecord (BgpMetric.decode_encode x)
  | bgpPrefixes _ => exact hrecord (BgpPrefixes.decode_encode x)
  | isis _ => exact hrecord (IsisMetric.decode_encode x)
  | lag _ => exact hrecord (LagMetric.decode_encode x)
  | lacp _ => exact hrecord (LacpMetric.decode_encode x)
  | ipv4Neighbors | ipv6Neighbors =>
      refine (Inspection.result_record_getD_eq_ok_iff (f := id)).mpr
        ⟨x, .inr (Document.record?_set ?_ d _), rfl⟩
      exact list_map fun n _ => n.decode_encode
  | deviceInterface _ => exact hrecord (InterfaceState.decode_encode x)
  | bundleMembers _ =>
      have hbundle := Bundle.decode_value_document ⟨x⟩
      exact Inspection.result_record_getD_eq_ok_iff.mpr
        ⟨_, .inr (Document.record?_set hbundle d _), rfl⟩

end Telemetry.Item

end Convergence
