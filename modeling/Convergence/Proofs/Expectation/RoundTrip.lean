import Convergence.Proofs.Telemetry.RoundTrip

/-!
# `Convergence.Proofs.Expectation.RoundTrip`: expectations that are written read back

Every kind of entry reads back from what is written of it, and so does an expectation
(`Expectation.decode_encode`).  A rate that is no number is the exception: it is written as null,
like one that is not there.

Together with `Telemetry.Item.read_of_set` this says that writing and reading fit together for
everything that has both (`written_reads_back`).
-/

set_option autoImplicit false

namespace Convergence

open Decoder Schema

/-! ### Entries -/

theorem PortExpectation.decode_encode (x : PortExpectation) :
    schema.decode .json x.encode = .ok x :=
  decode_object_eq_ok (.cons (takes_optional rfl (optional_word64 x.framesRx)) <|
    .cons (takes_optional rfl (optional_optional (fun s _ => LinkState.decode_name s)
      fun _ _ => nofun)) .nil) rfl rfl

/-- The rate is a number if there is one. -/
def FlowExpectation.HasNumber (x : FlowExpectation) : Prop :=
  ∀ r ∈ x.framesRxRate, r.value.isFinite = true

theorem FlowExpectation.decode_encode (x : FlowExpectation) (hx : x.HasNumber) :
    schema.decode .json (x.encode Rate.encode) = .ok x := by
  have hnull : ∀ r ∈ x.framesRxRate, r.encode ≠ .null := by
    intro r hr hnull
    rw [Rate.encode, if_pos (hx r hr)] at hnull
    cases hnull
  exact decode_object_eq_ok (.cons (takes_optional rfl (optional_word64 x.framesRx)) <|
    .cons (takes_optional rfl (optional_optional (fun r hr => rate_encode (hx r hr)) hnull))
      .nil) rfl rfl

theorem TrafficExpectation.decode_encode (x : TrafficExpectation) :
    schema.decode .json x.encode = .ok x :=
  decode_object_eq_ok (.cons (takes_mandatory rfl (set_toList fun _ _ => rfl)) <|
    .cons (takes_mandatory rfl (uint64_word64 x.framesRx)) .nil) rfl rfl

theorem BgpExpectation.decode_encode (x : BgpExpectation) :
    schema.decode .json x.encode = .ok x :=
  decode_object_eq_ok (.cons (takes_optional rfl (optional_word64 x.routesAdvertised)) <|
    .cons (takes_optional rfl (optional_word64 x.routesReceived)) <|
    .cons (takes_mandatory rfl (SessionState.decode_name x.state)) .nil) rfl rfl

theorem PrefixExpectation.decode_encode (x : PrefixExpectation) :
    schema.decode .json x.encode = .ok x :=
  decode_object_eq_ok (.cons (takes_optional rfl (size_word64 x.ipv4)) <|
    .cons (takes_optional rfl (size_word64 x.ipv6)) .nil) rfl rfl

theorem IsisExpectation.decode_encode (x : IsisExpectation) :
    schema.decode .json x.encode = .ok x :=
  decode_object_eq_ok (.cons (takes_optional rfl (optional_word32 x.l1DatabaseSize)) <|
    .cons (takes_optional rfl (optional_word32 x.l1SessionsUp)) <|
    .cons (takes_optional rfl (optional_word32 x.l2DatabaseSize)) <|
    .cons (takes_optional rfl (optional_word32 x.l2SessionsUp)) .nil) rfl rfl

theorem LagExpectation.decode_encode (x : LagExpectation) :
    schema.decode .json x.encode = .ok x :=
  decode_object_eq_ok (.cons (takes_mandatory rfl (uint32_word32 x.memberPortsUp)) <|
    .cons (takes_mandatory rfl (OperStatus.decode_name x.operStatus)) .nil) rfl rfl

theorem LacpExpectation.decode_encode (x : LacpExpectation) :
    schema.decode .json x.encode = .ok x :=
  decode_object_eq_ok (.cons (takes_mandatory rfl rfl) <|
    .cons (takes_mandatory rfl rfl) <|
    .cons (takes_mandatory rfl rfl) <|
    .cons (takes_optional rfl (optional_optional (fun s _ => Synchronization.decode_name s)
      fun _ _ => nofun)) .nil) rfl rfl

theorem MemberExpectation.decode_encode (x : MemberExpectation) :
    schema.decode .json x.encode = .ok x :=
  decode_object_eq_ok (.cons (takes_mandatory rfl rfl) <|
    .cons (takes_mandatory rfl rfl) .nil) rfl rfl

/-! ### Expectations -/

namespace Expectation

/-- The rates of the flows are numbers. -/
def HasNumbers (e : Expectation) : Prop :=
  ∀ name x, e.flows.get? name = some x → x.HasNumber

/-- An expectation reads back from what is written of it. -/
theorem decode_encode (e : Expectation) (he : e.HasNumbers) :
    schema.decode .json (e.encode Rate.encode) = .ok e := by
  have hflows : ∀ entry ∈ e.flows.toList,
      FlowExpectation.schema.decode .json (entry.2.encode Rate.encode) = .ok entry.2 := by
    intro entry hentry
    exact entry.2.decode_encode (he entry.1 entry.2 (OrderedMap.get?_eq_some_iff.mpr hentry))
  have htraffic : (Decoder.optional TrafficExpectation.schema.decode) .json
      (.optional TrafficExpectation.encode e.traffic) = .ok e.traffic :=
    optional_optional (fun x _ => x.decode_encode) fun _ _ => nofun
  -- One member after the other, in the order of their keys.
  exact decode_object_eq_ok
    (.cons (takes_optional rfl (map_encode fun x _ => PrefixExpectation.decode_encode x.2)) <|
    .cons (takes_optional rfl (map_encode fun x _ => BgpExpectation.decode_encode x.2)) <|
    .cons (takes_optional rfl (map_encode fun x _ => BgpExpectation.decode_encode x.2)) <|
    .cons (takes_optional rfl (map_encode fun _ _ => list_map fun _ _ => rfl)) <|
    .cons (takes_optional rfl (map_encode fun x _ => OperStatus.decode_name x.2)) <|
    .cons (takes_optional rfl (map_encode fun _ _ =>
      map_encode fun x _ => MemberExpectation.decode_encode x.2)) <|
    .cons (takes_optional rfl (map_encode hflows)) <|
    .cons (takes_optional rfl (set_toList fun m _ => mac_mac m)) <|
    .cons (takes_optional rfl (set_toList fun m _ => mac_mac m)) <|
    .cons (takes_optional rfl (map_encode fun x _ => IsisExpectation.decode_encode x.2)) <|
    .cons (takes_optional rfl (map_encode fun x _ => LacpExpectation.decode_encode x.2)) <|
    .cons (takes_optional rfl (map_encode fun x _ => LagExpectation.decode_encode x.2)) <|
    .cons (takes_optional rfl (map_encode fun x _ => PortExpectation.decode_encode x.2)) <|
    .cons (takes_optional rfl htraffic) .nil) rfl rfl

end Expectation

/-- **Encoding and decoding.**  Every record that is written where it belongs is what its reader
answers, and every expectation reads back from what is written of it, as long as the rates are
numbers. -/
theorem written_reads_back :
    (∀ (i : Telemetry.Item) (x : i.Datum), i.HasNumbers x → ∀ d : Document,
      (i.read.run (d.set i.path (i.document x)).source).result = .ok (i.answer x)) ∧
    ∀ e : Expectation, e.HasNumbers →
      Expectation.schema.decode .json (e.encode Rate.encode) = .ok e :=
  ⟨fun i x hx d => i.read_of_set x hx d, fun e he => e.decode_encode he⟩

/-- A port and a flow with rates, and a document in which a number stands on the way. -/
theorem written_reads_back_rates :
    let port : PortMetric := { framesRx := 7, framesRxRate := .ofInt 5, link := .up }
    let e := ({} : Expectation).withFlow "flow1" { framesRxRate := some (.ofInt 5) }
    let d := Document.ofValue (.object [("otg", .int 5)])
    let i := Telemetry.Item.port "port1"
    (i.HasNumbers port ∧ e.HasNumbers) ∧
      ((Telemetry.port "port1").run (d.set i.path (i.document port)).source).result =
        .ok (some port) ∧
      Expectation.schema.decode .json (e.encode Rate.encode) = .ok e := by
  intro port e d i
  have hrate : (Rate.ofInt 5).value.isFinite = true := by decide +kernel
  have hport : i.HasNumbers port := ⟨rfl, hrate⟩
  have he : e.HasNumbers := by
    intro name x hx
    rcases OrderedMap.get?_eq_some_iff.mp hx with - | ⟨-, ⟨⟩⟩
    rintro r ⟨⟩
    exact hrate
  exact ⟨⟨hport, he⟩, written_reads_back.1 i port hport d, written_reads_back.2 e he⟩

end Convergence
