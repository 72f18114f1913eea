import Convergence.Proofs.Number.Literal
import Convergence.Proofs.Telemetry.Columns

/-!
# `Convergence.Proofs.Telemetry.Lenient`: records are read leniently but exactly

The columns of each type of record are listed here by name, type and place, and shown to be those of
its schema.  What that means for reading an object is said by `Telemetry.Lenient`, and it holds of
every type of record (`Telemetry.RecordType.lenient_and_exact`): members that are no columns make no
difference, every other member must be what its column is made for, and whole numbers are taken as
they are or not at all.
-/

set_option autoImplicit false

namespace Convergence

open Telemetry (Column HasColumns)

/-! ### The columns of each type of record

That the columns are those of the schema is seen field by field: what a field puts into a record is
what its column has then, and the other columns have what they had. -/

namespace PortMetric

/-- The columns of a port. -/
def columns : List (Column PortMetric) := [
  .optional "frames-tx" .word64 framesTx,
  .optional "frames-rx" .word64 framesRx,
  .optional "bytes-tx" .word64 bytesTx,
  .optional "bytes-rx" .word64 bytesRx,
  .optional "frames-tx-rate" .rate framesTxRate,
  .optional "frames-rx-rate" .rate framesRxRate,
  .optional "link" .link link]

theorem hasColumns : HasColumns schema columns where
  fields := by
    refine .cons (.optional (fun _ _ => rfl) ?_) <|
      .cons (.optional (fun _ _ => rfl) ?_) <|
      .cons (.optional (fun _ _ => rfl) ?_) <|
      .cons (.optional (fun _ _ => rfl) ?_) <|
      .cons (.optional (fun _ _ => rfl) ?_) <|
      .cons (.optional (fun _ _ => rfl) ?_) <|
      .cons (.optional (fun _ _ => rfl) ?_) .nil <;>
    simp [columns, Column.optional]
  nodup := by decide
  lenient := rfl
  preset := by simp [columns, Column.optional, schema, Telemetry.FieldType.preset]
  ext := by
    rintro ⟨⟩ ⟨⟩ h
    simpa [columns, Column.optional] using h

end PortMetric

namespace FlowMetric

/-- The columns of a flow. -/
def columns : List (Column FlowMetric) := [
  .optional "frames-tx" .word64 framesTx,
  .optional "frames-rx" .word64 framesRx,
  .optional "frames-tx-rate" .rate framesTxRate,
  .optional "frames-rx-rate" .rate framesRxRate]

theorem hasColumns : HasColumns schema columns where
  fields := by
    refine .cons (.optional (fun _ _ => rfl) ?_) <|
      .cons (.optional (fun _ _ => rfl) ?_) <|
      .cons (.optional (fun _ _ => rfl) ?_) <|
      .cons (.optional (fun _ _ => rfl) ?_) .nil <;>
    simp [columns, Column.optional]
  nodup := by decide
  lenient := rfl
  preset := by simp [columns, Column.optional, schema, Telemetry.FieldType.preset]
  ext := by
    rintro ⟨⟩ ⟨⟩ h
    simpa [columns, Column.optional] using h

end FlowMetric

namespace BgpMetric

/-- The columns of a BGP session. -/
def columns : List (Column BgpMetric) := [
  .optional "session-state" .session sessionState,
  .optional "flaps" .word64 flaps,
  .optional "routes-advertised" .word64 routesAdvertised,
  .optional "routes-received" .word64 routesReceived,
  .optional "route-withdraws-sent" .word64 routeWithdrawsSent,
  .optional "route-withdraws-received" .word64 routeWithdrawsReceived,
  .optional "keepalives-sent" .word64 keepalivesSent,
  .optional "keepalives-received" .word64 keepalivesReceived]

theorem hasColumns : HasColumns schema columns where
  fields := by
    refine .cons (.optional (fun _ _ => rfl) ?_) <|
      .cons (.optional (fun _ _ => rfl) ?_) <|
      .cons (.optional (fun _ _ => rfl) ?_) <|
      .cons (.optional (fun _ _ => rfl) ?_) <|
      .cons (.optional (fun _ _ => rfl) ?_) <|
      .cons (.optional (fun _ _ => rfl) ?_) <|
      .cons (.optional (fun _ _ => rfl) ?_) <|
      .cons (.optional (fun _ _ => rfl) ?_) .nil <;>
    simp [columns, Column.optional]
  nodup := by decide
  lenient := rfl
  preset := by simp [columns, Column.optional, schema, Telemetry.FieldType.preset]
  ext := by
    rintro ⟨⟩ ⟨⟩ h
    simpa [columns, Column.optional] using h

end BgpMetric

namespace BgpPrefixes

/-- The columns of a peer's prefixes. -/
def columns : List (Column BgpPrefixes) := [
  .optional "ipv4-unicast" .texts ipv4Unicast,
  .optional "ipv6-unicast" .texts ipv6Unicast]

theorem hasColumns : HasColumns schema columns where
  fields := by
    refine .cons (.optional (fun _ _ => rfl) ?_) <|
      .cons (.optional (fun _ _ => rfl) ?_) .nil <;>
    simp [columns, Column.optional]
  nodup := by decide
  lenient := rfl
  preset := by simp [columns, Column.optional, schema, Telemetry.FieldType.preset]
  ext := by
    rintro ⟨⟩ ⟨⟩ h
    simpa [columns, Column.optional] using h

end BgpPrefixes

namespace IsisMetric

/-- The columns of an ISIS router. -/
def columns : List (Column IsisMetric) := [
  .optional "l1-sessions-up" .word32 l1SessionsUp,
  .optional "l1-sessions-flap" .word64 l1SessionsFlap,
  .optional "l1-database-size" .word32 l1DatabaseSize,
  .optional "l2-sessions-up" .word32 l2SessionsUp,
  .optional "l2-sessions-flap" .word64 l2SessionsFlap,
  .optional "l2-database-size" .word32 l2DatabaseSize]

theorem hasColumns : HasColumns schema columns where
  fields := by
    refine .cons (.optional (fun _ _ => rfl) ?_) <|
      .cons (.optional (fun _ _ => rfl) ?_) <|
      .cons (.optional (fun _ _ => rfl) ?_) <|
      .cons (.optional (fun _ _ => rfl) ?_) <|
      .cons (.optional (fun _ _ => rfl) ?_) <|
      .cons (.optional (fun _ _ => rfl) ?_) .nil <;>
    simp [columns, Column.optional]
  nodup := by decide
  lenient := rfl
  preset := by simp [columns, Column.optional, schema, Telemetry.FieldType.preset]
  ext := by
    rintro ⟨⟩ ⟨⟩ h
    simpa [columns, Column.optional] using h

end IsisMetric

namespace LagMetric

/-- The columns of an aggregated link. -/
def columns : List (Column LagMetric) := [
  .optional "oper-status" .operStatus operStatus,
  .optional "member-ports-up" .word32 memberPortsUp,
  .optional "frames-tx" .word64 framesTx,
  .optional "frames-rx" .word64 framesRx]

theorem hasColumns : HasColumns schema columns where
  fields := by
    refine .cons (.optional (fun _ _ => rfl) ?_) <|
      .cons (.optional (fun _ _ => rfl) ?_) <|
      .cons (.optional (fun _ _ => rfl) ?_) <|
      .cons (.optional (fun _ _ => rfl) ?_) .nil <;>
    simp [columns, Column.optional]
  nodup := by decide
  lenient := rfl
  preset := by simp [columns, Column.optional, schema, Telemetry.FieldType.preset]
  ext := by
    rintro ⟨⟩ ⟨⟩ h
    simpa [columns, Column.optional] using h

end LagMetric

namespace LacpMetric

/-- The columns of a port's LACP state. -/
def columns : List (Column LacpMetric) := [
  .optional "lag-name" .text lagName,
  .optional "synchronization" .synchronization synchronization,
  .optional "collecting" .flag collecting,
  .optional "distributing" .flag distributing,
  .optional "system-id" .mac systemId,
  .optional "partner-id" .mac partnerId]

theorem hasColumns : HasColumns schema columns where
  fields := by
    refine .cons (.optional (fun _ _ => rfl) ?_) <|
      .cons (.optional (fun _ _ => rfl) ?_) <|
      .cons (.optional (fun _ _ => rfl) ?_) <|
      .cons (.optional (fun _ _ => rfl) ?_) <|
      .cons (.optional (fun _ _ => rfl) ?_) <|
      .cons (.optional (fun _ _ => rfl) ?_) .nil <;>
    simp [columns, Column.optional]
  nodup := by decide
  lenient := rfl
  preset := by simp [columns, Column.optional, schema, Telemetry.FieldType.preset]
  ext := by
    rintro ⟨⟩ ⟨⟩ h
    simpa [columns, Column.optional] using h

end LacpMetric

namespace InterfaceState

/-- The columns of an interface. -/
def columns : List (Column InterfaceState) := [
  .optional "oper-status" .operStatus operStatus]

theorem hasColumns : HasColumns schema columns where
  fields := by
    refine .cons (.optional (fun _ _ => rfl) ?_) .nil
    simp [columns, Column.optional]
  nodup := by decide
  lenient := rfl
  preset := by simp [columns, Column.optional, schema, Telemetry.FieldType.preset]
  ext := by
    rintro ⟨⟩ ⟨⟩ h
    simpa [columns, Column.optional] using h

end InterfaceState

namespace BundleMember

/-- The columns of a bundle member. -/
def columns : List (Column BundleMember) := [
  .optional "interface" .text interface,
  .optional "collecting" .flag collecting,
  .optional "distributing" .flag distributing,
  .optional "synchronization" .synchronization synchronization]

theorem hasColumns : HasColumns schema columns where
  fields := by
    refine .cons (.optional (fun _ _ => rfl) ?_) <|
      .cons (.optional (fun _ _ => rfl) ?_) <|
      .cons (.optional (fun _ _ => rfl) ?_) <|
      .cons (.optional (fun _ _ => rfl) ?_) .nil <;>
    simp [columns, Column.optional]
  nodup := by decide
  lenient := rfl
  preset := by simp [columns, Column.optional, schema, Telemetry.FieldType.preset]
  ext := by
    rintro ⟨⟩ ⟨⟩ h
    simpa [columns, Column.optional] using h

end BundleMember

namespace Bundle

/-- The columns of a bundle. -/
def columns : List (Column Bundle) := [
  .optional "members" .members members]

theorem hasColumns : HasColumns schema columns where
  fields := by
    refine .cons (.optional (fun _ _ => rfl) ?_) .nil
    simp [columns, Column.optional]
  nodup := by decide
  lenient := rfl
  preset := by simp [columns, Column.optional, schema, Telemetry.FieldType.preset]
  ext := by
    rintro ⟨⟩ ⟨⟩ h
    simpa [columns, Column.optional] using h

end Bundle

namespace Neighbor

/-- The columns of a neighbor. -/
def columns : List (Column Neighbor) := [
  .mandatory "interface" .text interface,
  .mandatory "address" .address address,
  .optional "mac" .mac mac]

theorem hasColumns : HasColumns schema columns where
  fields := by
    refine .cons (.mandatory (fun _ _ => rfl) ?_) <|
      .cons (.mandatory (fun _ _ => rfl) ?_) <|
      .cons (.optional (fun _ _ => rfl) ?_) .nil <;>
    simp [columns, Column.optional, Column.mandatory]
  nodup := by decide
  lenient := rfl
  preset := by simp [columns, Column.optional, Column.mandatory, schema, Telemetry.FieldType.preset]
  ext := by
    rintro ⟨⟩ ⟨⟩ h
    simpa [columns, Column.optional, Column.mandatory] using h

end Neighbor

namespace Telemetry

variable {ρ : Type}

/-- Objects are read leniently but exactly. -/
structure Lenient (s : Schema ρ) (cs : List (Column ρ)) : Prop where
  /-- An object is read if and only if every member that has the name of a column is one for it, and
  the columns that must be written are. -/
  accepts : ∀ ms, (∃ r, s.decode .json (.object ms) = .ok r) ↔
    (∀ m ∈ ms, ∀ c ∈ cs, c.TakesMember m) ∧
      ∀ c ∈ cs, c.required = true → (Entries.find? c.name ms).isSome
  /-- The record that is read is the one in which every column has what its member writes, or its
  preset datum if there is none. -/
  result : ∀ ms r, Entries.Sorted ms → (s.decode .json (.object ms) = .ok r ↔
    (∀ c ∈ cs, IsSet c.type.Writes c.type.preset (c.get r) (Entries.find? c.name ms)) ∧
      ∀ c ∈ cs, c.required = true → (Entries.find? c.name ms).isSome)
  /-- The error is that of the first member that is not one for its column.  If there is none, it is
  that the first column is missing that must be written and is not. -/
  complaint : ∀ ms e, s.decode .json (.object ms) = .error e ↔
    FirstRefusal cs ms e ∨ (∀ m ∈ ms, ∀ c ∈ cs, c.TakesMember m) ∧
      ∃ c, missing? cs ms = some c ∧ e = .missingField c.name
  /-- Members of other names may be added, changed and removed. -/
  ignores : ∀ ms ms', Entries.Sorted ms → Entries.Sorted ms' →
    (∀ c ∈ cs, Entries.find? c.name ms' = Entries.find? c.name ms) →
      s.decode .json (.object ms') = s.decode .json (.object ms)
  /-- The values for a column of whole numbers are the whole numbers in its range, and no others:
  neither names nor strings nor floats. -/
  takes_counter : ∀ c ∈ cs, ∀ bound number, c.type.counter? = some (bound, number) →
    ∀ v, c.type.Takes v ↔ ∃ n : Nat, v = .int n ∧ n < bound
  /-- So the literal of a whole number is one for such a column if and only if the number is in its
  range, however large the number is.  Minus zero is the literal of a float. -/
  takes_literal : ∀ c ∈ cs, ∀ bound number, c.type.counter? = some (bound, number) →
    ∀ n : Int, (∃ v, Value.ofWord (intText n).toList = .ok v ∧ c.type.Takes v) ↔
      0 ≤ n ∧ n < bound
  /-- A literal with a fraction or an exponent is none for it, even if it writes a whole number. -/
  refuses_fraction : ∀ c ∈ cs, ∀ bound number, c.type.counter? = some (bound, number) →
    ∀ w l, Literal.ofChars? w = some l → l.fraction ≠ none ∨ l.exponent ≠ none →
      ¬∃ v, Value.ofWord w = .ok v ∧ c.type.Takes v
  /-- The number in the record is the one in the object. -/
  keeps_counter : ∀ c ∈ cs, ∀ bound number, c.type.counter? = some (bound, number) →
    ∀ ms r v, Entries.Sorted ms → (c.name, v) ∈ ms → s.decode .json (.object ms) = .ok r →
      v = .int (number (c.get r))

namespace FieldType

/-- The literal of a whole number is taken if and only if the number is in the range.  One that is
not is read as another number nowhere. -/
theorem takes_literal_iff {t : FieldType} {bound : Nat} {number : t.Datum → Nat}
    (h : t.counter? = some (bound, number)) (n : Int) :
    (∃ v, Value.ofWord (intText n).toList = .ok v ∧ t.Takes v) ↔ 0 ≤ n ∧ n < bound := by
  have hbound : bound ≤ 18446744073709551616 := by
    cases t <;> cases h <;> decide
  constructor
  · rintro ⟨v, hread, htakes⟩
    obtain ⟨m, rfl, hm⟩ := (takes_counter_iff h).mp htakes
    have heq : (m : Int) = n := Value.eq_of_ofWord_intText hread
    omega
  · rintro ⟨hnonneg, hlt⟩
    obtain ⟨m, rfl⟩ := Int.eq_ofNat_of_zero_le hnonneg
    have hm : m < bound := by omega
    exact ⟨.int m, Value.ofWord_intText (by omega), (takes_counter_iff h).mpr ⟨m, rfl, hm⟩⟩

/-- A literal with a fraction or an exponent is not taken, as it is read as a float. -/
theorem not_takes_fraction {t : FieldType} {bound : Nat} {number : t.Datum → Nat}
    (h : t.counter? = some (bound, number)) {w : List Char} {l : Literal}
    (hw : Literal.ofChars? w = some l) (hl : l.fraction ≠ none ∨ l.exponent ≠ none) :
    ¬∃ v, Value.ofWord w = .ok v ∧ t.Takes v := by
  rintro ⟨v, hread, htakes⟩
  obtain ⟨x, rfl⟩ := Value.exists_float_of_ofWord hw hl hread
  obtain ⟨n, hn, -⟩ := (takes_counter_iff h).mp htakes
  cases hn

end FieldType

/-- A record type that has columns, and no more, is read leniently but exactly. -/
theorem HasColumns.lenient_exact {s : Schema ρ} {cs : List (Column ρ)} (h : HasColumns s cs) :
    Lenient s cs where
  accepts _ := h.exists_decode_object_iff
  result _ _ hms := h.decode_object_eq_ok_iff hms
  complaint _ _ := h.decode_object_eq_error_iff
  ignores _ _ hms hms' heq := h.decode_object_congr hms hms' heq
  takes_counter _ _ _ _ hcounter _ := FieldType.takes_counter_iff hcounter
  takes_literal _ _ _ _ hcounter n := FieldType.takes_literal_iff hcounter n
  refuses_fraction _ _ _ _ hcounter _ _ hw hl := FieldType.not_takes_fraction hcounter hw hl
  keeps_counter := by
    intro c hc bound number hcounter ms r v hms hv hread
    have hset := ((h.decode_object_eq_ok_iff hms).mp hread).1 c hc
    rw [hms.find?_eq_some_iff.mpr hv] at hset
    exact (FieldType.eq_int_of_writes hcounter hset).1

/-! ### All types of records -/

/-- A type of records. -/
inductive RecordType where
  | port
  | flow
  | bgp
  | bgpPrefixes
  | isis
  | lag
  | lacp
  | interface
  | bundleMember
  | bundle
  | neighbor
  deriving DecidableEq

namespace RecordType

/-- The records of the type. -/
abbrev Record : RecordType → Type
  | port => PortMetric
  | flow => FlowMetric
  | bgp => BgpMetric
  | bgpPrefixes => BgpPrefixes
  | isis => IsisMetric
  | lag => LagMetric
  | lacp => LacpMetric
  | interface => InterfaceState
  | bundleMember => BundleMember
  | bundle => Bundle
  | neighbor => Neighbor

/-- How a record of the type is read. -/
def schema : (t : RecordType) → Schema t.Record
  | port => PortMetric.schema
  | flow => FlowMetric.schema
  | bgp => BgpMetric.schema
  | bgpPrefixes => BgpPrefixes.schema
  | isis => IsisMetric.schema
  | lag => LagMetric.schema
  | lacp => LacpMetric.schema
  | interface => InterfaceState.schema
  | bundleMember => BundleMember.schema
  | bundle => Bundle.schema
  | neighbor => Neighbor.schema

/-- The columns of a record of the type. -/
def columns : (t : RecordType) → List (Column t.Record)
  | port => PortMetric.columns
  | flow => FlowMetric.columns
  | bgp => BgpMetric.columns
  | bgpPrefixes => BgpPrefixes.columns
  | isis => IsisMetric.columns
  | lag => LagMetric.columns
  | lacp => LacpMetric.columns
  | interface => InterfaceState.columns
  | bundleMember => BundleMember.columns
  | bundle => Bundle.columns
  | neighbor => Neighbor.columns

theorem hasColumns (t : RecordType) : HasColumns t.schema t.columns := by
  cases t with
  | port => exact PortMetric.hasColumns
  | flow => exact FlowMetric.hasColumns
  | bgp => exact BgpMetric.hasColumns
  | bgpPrefixes => exact BgpPrefixes.hasColumns
  | isis => exact IsisMetric.hasColumns
  | lag => exact LagMetric.hasColumns
  | lacp => exact LacpMetric.hasColumns
  | interface => exact InterfaceState.hasColumns
  | bundleMember => exact BundleMember.hasColumns
  | bundle => exact Bundle.hasColumns
  | neighbor => exact Neighbor.hasColumns

/-- A column must be written only if it is the interface or the address of a neighbor. -/
theorem required_iff (t : RecordType) : ∀ c ∈ t.columns,
    (c.required = true ↔ t = neighbor ∧ (c.name = "interface" ∨ c.name = "address")) := by
  cases t <;>
    simp [columns, PortMetric.columns, FlowMetric.columns, BgpMetric.columns, BgpPrefixes.columns,
      IsisMetric.columns, LagMetric.columns, LacpMetric.columns, InterfaceState.columns,
      BundleMember.columns, Bundle.columns, Neighbor.columns, Column.optional, Column.mandatory]

end RecordType

end Telemetry

end Convergence
