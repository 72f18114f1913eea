import Convergence.Proofs.Expectation.Format

/-!
# `Convergence.Proofs.Expectation.Strict`: expectations are read strictly and without loss

`Expectation.Grammar` says which objects are taken for an expectation, and `Expectation.WrittenAs`
what is made of one: every entry that is written, and nothing besides.  So a misspelt key, at
whatever depth, makes the whole expectation unreadable and never one that checks less
(`Expectation.decode_strict_and_lossless`).

The one thing left out is that an entry may also be written as an array of its fields in order
(`Expectation.StructsAsObjects`).
-/

set_option autoImplicit false

namespace Convergence

/-- A path through a member of an ordered object goes on in its value. -/
theorem Value.Ordered.find?_cons_of_mem {v w : Value} (hv : v.Ordered) {k : String}
    (hw : (k, w) ∈ v.members) (ks : List String) : v.find? (k :: ks) = w.find? ks := by
  rw [Value.find?, hv.members.1.find?_eq_some_iff.mpr hw, Option.bind_some]

namespace Expectation

open Value Decoder

/-- The objects that write an expectation. -/
def Grammar : Value → Prop := IsRecord [
  .optional "ports" (IsMapOf PortExpectation.Grammar),
  .optional "flows" (IsMapOf FlowExpectation.Grammar),
  .optional "traffic" (IsNullOr TrafficExpectation.Grammar),
  .optional "bgp4" (IsMapOf BgpExpectation.Grammar),
  .optional "bgp6" (IsMapOf BgpExpectation.Grammar),
  .optional "bgp-prefixes" (IsMapOf PrefixExpectation.Grammar),
  .optional "isis" (IsMapOf IsisExpectation.Grammar),
  .optional "lags" (IsMapOf LagExpectation.Grammar),
  .optional "lacp" (IsMapOf LacpExpectation.Grammar),
  .optional "dut-interfaces" (IsMapOf (Writable (WritesName OperStatus.name))),
  .optional "dut-bundles" (IsMapOf (IsListOf (Writable WritesString))),
  .optional "dut-lacp-members" (IsMapOf (IsMapOf MemberExpectation.Grammar)),
  .optional "ipv4-neighbor-macs" (IsListOf (Writable WritesMac)),
  .optional "ipv6-neighbor-macs" (IsListOf (Writable WritesMac))]

/-- The expectation that an object writes. -/
structure WrittenAs (v : Value) (e : Expectation) : Prop where
  ports : IsSet (WritesMap PortExpectation.WrittenAs) ∅ e.ports (v.find? ["ports"])
  flows : IsSet (WritesMap FlowExpectation.WrittenAs) ∅ e.flows (v.find? ["flows"])
  traffic :
    IsSet (WritesOptional TrafficExpectation.WrittenAs) none e.traffic (v.find? ["traffic"])
  bgp4 : IsSet (WritesMap BgpExpectation.WrittenAs) ∅ e.bgp4 (v.find? ["bgp4"])
  bgp6 : IsSet (WritesMap BgpExpectation.WrittenAs) ∅ e.bgp6 (v.find? ["bgp6"])
  bgpPrefixes :
    IsSet (WritesMap PrefixExpectation.WrittenAs) ∅ e.bgpPrefixes (v.find? ["bgp-prefixes"])
  isis : IsSet (WritesMap IsisExpectation.WrittenAs) ∅ e.isis (v.find? ["isis"])
  lags : IsSet (WritesMap LagExpectation.WrittenAs) ∅ e.lags (v.find? ["lags"])
  lacp : IsSet (WritesMap LacpExpectation.WrittenAs) ∅ e.lacp (v.find? ["lacp"])
  interfaces :
    IsSet (WritesMap (WritesName OperStatus.name)) ∅ e.interfaces (v.find? ["dut-interfaces"])
  bundles : IsSet (WritesMap (WritesList WritesString)) ∅ e.bundles (v.find? ["dut-bundles"])
  bundleMembers :
    IsSet (WritesMap (WritesMap MemberExpectation.WrittenAs)) ∅ e.bundleMembers
      (v.find? ["dut-lacp-members"])
  ipv4Neighbors :
    IsSet (WritesSet WritesMac) ∅ e.ipv4Neighbors (v.find? ["ipv4-neighbor-macs"])
  ipv6Neighbors :
    IsSet (WritesSet WritesMac) ∅ e.ipv6Neighbors (v.find? ["ipv6-neighbor-macs"])

/-- The sections whose entries are records. -/
def recordSections : List String :=
  ["ports", "flows", "bgp4", "bgp6", "bgp-prefixes", "isis", "lags", "lacp"]

/-- No record is written as an array. -/
structure StructsAsObjects (v : Value) : Prop where
  traffic : ∀ items, v.find? ["traffic"] ≠ some (.array items)
  entries : ∀ kind ∈ recordSections, ∀ name items, v.find? [kind, name] ≠ some (.array items)
  members : ∀ bundle name items,
    v.find? ["dut-lacp-members", bundle, name] ≠ some (.array items)

/-! ### Where no record is an array -/

namespace StructsAsObjects

variable {v : Value} {kind : String}

/-- The total of frames is not. -/
theorem noArray_traffic (h : StructsAsObjects v) (hv : v.Ordered) :
    ∀ w, ("traffic", w) ∈ v.members → w.NoArray := by
  rintro w hw items rfl
  exact h.traffic items (hv.find?_cons_of_mem hw [])

/-- The entries of a section are not. -/
theorem noArray_entries (h : StructsAsObjects v) (hv : v.Ordered) (hkind : kind ∈ recordSections) :
    ∀ w, (kind, w) ∈ v.members → ∀ m ∈ w.members, m.2.NoArray := by
  rintro w hw ⟨name, _⟩ hm items rfl
  refine h.entries kind hkind name items ?_
  have hordered := membersOrdered_iff.mp hv.members.2 _ hw
  rw [hv.find?_cons_of_mem hw, hordered.find?_cons_of_mem hm, find?]

/-- The states of the members of bundles are not. -/
theorem noArray_members (h : StructsAsObjects v) (hv : v.Ordered) :
    ∀ w, ("dut-lacp-members", w) ∈ v.members →
      ∀ b ∈ w.members, ∀ m ∈ b.2.members, m.2.NoArray := by
  rintro w hw ⟨bundle, b⟩ hb ⟨name, _⟩ hm items rfl
  refine h.members bundle name items ?_
  have hordered := membersOrdered_iff.mp hv.members.2 _ hw
  have hbundle := membersOrdered_iff.mp hordered.members.2 _ hb
  rw [hv.find?_cons_of_mem hw, hordered.find?_cons_of_mem hb, hbundle.find?_cons_of_mem hm, find?]

end StructsAsObjects

/-! ### Reading -/

theorem independent : schema.Independent := ⟨by decide, by simp [schema]⟩

variable {ms : List (String × Value)}

/-- An expectation is read from an object exactly if the object keeps to the grammar. -/
theorem exists_decode_iff (h : StructsAsObjects (.object ms)) (hv : (Value.object ms).Ordered) :
    (∃ e, schema.decode .json (.object ms) = .ok e) ↔ Grammar (.object ms) := by
  refine Schema.exists_decode_object_iff independent rfl ?_
  -- One field after the other, in the order of their declaration.
  refine
    .cons (PortExpectation.follows.map.fits_optional (h.noArray_entries hv (by decide))) <|
    .cons (FlowExpectation.follows.map.fits_optional (h.noArray_entries hv (by decide))) <|
    .cons (TrafficExpectation.follows.optional.fits_optional (h.noArray_traffic hv)) <|
    .cons (BgpExpectation.follows.map.fits_optional (h.noArray_entries hv (by decide))) <|
    .cons (BgpExpectation.follows.map.fits_optional (h.noArray_entries hv (by decide))) <|
    .cons (PrefixExpectation.follows.map.fits_optional (h.noArray_entries hv (by decide))) <|
    .cons (IsisExpectation.follows.map.fits_optional (h.noArray_entries hv (by decide))) <|
    .cons (LagExpectation.follows.map.fits_optional (h.noArray_entries hv (by decide))) <|
    .cons (LacpExpectation.follows.map.fits_optional (h.noArray_entries hv (by decide))) <|
    .cons (OperStatus.reads.follows.map.fits_optional fun _ _ _ _ => trivial) <|
    .cons ((Follows.list reads_string).map.fits_optional fun _ _ _ _ => trivial) <|
    .cons (MemberExpectation.follows.map.map.fits_optional (h.noArray_members hv)) <|
    .cons ((Follows.set reads_mac).fits_optional fun _ _ => trivial) <|
    .cons ((Follows.set reads_mac).fits_optional fun _ _ => trivial) .nil

/-- The expectation that is read is the one that the object writes. -/
theorem writtenAs_of_decode (h : StructsAsObjects (.object ms)) (hv : (Value.object ms).Ordered)
    {e : Expectation} (hread : schema.decode .json (.object ms) = .ok e) :
    e.WrittenAs (.object ms) := by
  have hms := hv.2
  -- For each field in turn, what is read of it and what is read after it.
  obtain ⟨-, hread⟩ := (Schema.decode_object_eq_ok_iff independent hv.1).mp hread
  obtain ⟨_, hports, hread⟩ := PortExpectation.follows.map.readFields_optional ports rfl hms
    (h.noArray_entries hv (by decide)) hread
  obtain ⟨_, hflows, hread⟩ := FlowExpectation.follows.map.readFields_optional flows rfl hms
    (h.noArray_entries hv (by decide)) hread
  obtain ⟨_, htraffic, hread⟩ := TrafficExpectation.follows.optional.readFields_optional traffic rfl
    hms (h.noArray_traffic hv) hread
  obtain ⟨_, hbgp4, hread⟩ := BgpExpectation.follows.map.readFields_optional bgp4 rfl hms
    (h.noArray_entries hv (by decide)) hread
  obtain ⟨_, hbgp6, hread⟩ := BgpExpectation.follows.map.readFields_optional bgp6 rfl hms
    (h.noArray_entries hv (by decide)) hread
  obtain ⟨_, hprefixes, hread⟩ := PrefixExpectation.follows.map.readFields_optional bgpPrefixes rfl
    hms (h.noArray_entries hv (by decide)) hread
  obtain ⟨_, hisis, hread⟩ := IsisExpectation.follows.map.readFields_optional isis rfl hms
    (h.noArray_entries hv (by decide)) hread
  obtain ⟨_, hlags, hread⟩ := LagExpectation.follows.map.readFields_optional lags rfl hms
    (h.noArray_entries hv (by decide)) hread
  obtain ⟨_, hlacp, hread⟩ := LacpExpectation.follows.map.readFields_optional lacp rfl hms
    (h.noArray_entries hv (by decide)) hread
  obtain ⟨_, hinterfaces, hread⟩ := OperStatus.reads.follows.map.readFields_optional interfaces rfl
    hms (fun _ _ _ _ => trivial) hread
  obtain ⟨_, hbundles, hread⟩ := (Follows.list reads_string).map.readFields_optional bundles rfl hms
    (fun _ _ _ _ => trivial) hread
  obtain ⟨_, hmembers, hread⟩ := MemberExpectation.follows.map.map.readFields_optional bundleMembers
    rfl hms (h.noArray_members hv) hread
  obtain ⟨_, hipv4, hread⟩ := (Follows.set reads_mac).readFields_optional ipv4Neighbors rfl hms
    (fun _ _ => trivial) hread
  obtain ⟨_, hipv6, hread⟩ := (Follows.set reads_mac).readFields_optional ipv6Neighbors rfl hms
    (fun _ _ => trivial) hread
  cases hread
  exact ⟨hports, hflows, htraffic, hbgp4, hbgp6, hprefixes, hisis, hlags, hlacp, hinterfaces,
    hbundles, hmembers, hipv4, hipv6⟩

/-- A misspelt key of an entry makes the whole expectation unreadable. -/
example :
    let d := Document.ofValue (.object [("lags", .object [("lag1", .object [
      ("oper-status", .string "up"), ("member-ports-up", .int 2), ("member-port", .int 2)])])])
    schema.decode .json d.value =
      .error (.unknownField "member-port" ["oper-status", "member-ports-up"]) := rfl

end Expectation

end Convergence
