import Convergence.Proofs.Check.Agreement
import Convergence.Proofs.Check.Failure
import Convergence.Proofs.Collections
import Convergence.Proofs.Inspection.Result
import Mathlib

/-!
# `Convergence.Proofs.Check.Satisfaction`: what it means that a check holds

`Check.Holds` says for each section of an expectation what telemetry must be like, in terms of the
records that a source has and of nothing else: no order of reads, no loop, no early end.  A check
answers yes exactly if what it stands for holds (`Check.outcome_eq_ok_true_iff_holds`), so all of
them together say yes exactly if the source satisfies the whole expectation
(`Expectation.outcome_eq_ok_true_iff_satisfies`), sections that are empty included: they ask for
nothing.

The frames of the listed flows are added up in 64 bits.  `Source.framesReceived` is their exact
number, so the equivalence is stated for totals that fit.
-/

set_option autoImplicit false

namespace Convergence

open Inspection

namespace Source

variable {τ χ : Type}

/-- There is a record under the name, and it is as the entry says. -/
def Meets (source : Source) (path : String → Path) (d : Decoder τ) (met : χ → τ → Prop)
    (name : String) (x : χ) : Prop :=
  ∃ m, source.record? (path name) d = some m ∧ met x m

/-- The record of a flow. -/
def flow? (source : Source) (name : String) : Option FlowMetric :=
  source.record? (.generator "flow" name) FlowMetric.schema.decode

/-- These are the records of the flows, one for each name. -/
def FlowRecords (source : Source) (names : List String) (records : List (String × FlowMetric)) :
    Prop :=
  List.Forall₂ (fun name (r : String × FlowMetric) => r.1 = name ∧ source.flow? name = some r.2)
    names records

/-- The frames that these flows have received together, as a number without bound.  A flow without
a record counts for nothing. -/
def framesReceived (source : Source) (names : List String) : Nat :=
  (names.map fun name => (source.flow? name).elim 0 fun m => m.framesRx.toNat).sum

/-- The bundle consists of these members, in any order. -/
def HasMembers (source : Source) (bundle : String) (expected : List String) : Prop :=
  ∃ b, source.Reports (.device "lacp" bundle) Bundle.schema.decode {} b ∧
    (b.members.map (·.interface)).Perm expected

/-- Each of these members is in the bundle and in its state, others may be there too. -/
def HasMembersIn (source : Source) (bundle : String)
    (expected : OrderedMap String MemberExpectation) : Prop :=
  ∃ b, source.Reports (.device "lacp" bundle) Bundle.schema.decode {} b ∧
    ∀ name x, expected.get? name = some x → ∃ m ∈ b.members, m.interface = name ∧ x.MetBy m

/-- Each of the addresses, if there are any, is among the neighbors in a cache. -/
def Resolves (source : Source) (cache : String) (expected : OrderedSet Mac) : Prop :=
  expected.isEmpty = false →
    ∃ neighbors, source.Reports (.generator "neighbors" cache) (.list Neighbor.schema.decode) []
        neighbors ∧
      ∀ a ∈ expected, ∃ n ∈ neighbors, n.mac = some a

end Source

namespace Check

/-- What a check stands for. -/
def Holds (source : Source) (e : Expectation) : Check → Prop
  | ports => ∀ name x, e.ports.get? name = some x →
    source.Meets (.generator "port") PortMetric.schema.decode PortExpectation.MetBy name x
  | flows => ∀ name x, e.flows.get? name = some x →
    source.Meets (.generator "flow") FlowMetric.schema.decode FlowExpectation.MetBy name x
  | traffic => ∀ x ∈ e.traffic,
    (∀ name ∈ x.flows, ∃ m, source.flow? name = some m) ∧
      source.framesReceived x.flows.toList = x.framesRx.toNat
  | bgp4 => ∀ peer x, e.bgp4.get? peer = some x →
    source.Meets (.generator "bgp4") BgpMetric.schema.decode BgpExpectation.MetBy peer x
  | bgp6 => ∀ peer x, e.bgp6.get? peer = some x →
    source.Meets (.generator "bgp6") BgpMetric.schema.decode BgpExpectation.MetBy peer x
  | bgpPrefixes => ∀ peer x, e.bgpPrefixes.get? peer = some x →
    source.Meets (.generator "bgp-prefixes") BgpPrefixes.schema.decode PrefixExpectation.MetBy
      peer x
  | isis => ∀ router x, e.isis.get? router = some x →
    source.Meets (.generator "isis") IsisMetric.schema.decode IsisExpectation.MetBy router x
  | lags => ∀ name x, e.lags.get? name = some x →
    source.Meets (.generator "lag") LagMetric.schema.decode LagExpectation.MetBy name x
  | lacp => ∀ port x, e.lacp.get? port = some x →
    source.Meets (.generator "lacp") LacpMetric.schema.decode LacpExpectation.MetBy port x
  | interfaces => ∀ name status, e.interfaces.get? name = some status →
    source.Meets (.device "interface") InterfaceState.schema.decode
      (fun status m => m.operStatus = status) name status
  | bundles => ∀ bundle expected, e.bundles.get? bundle = some expected →
    source.HasMembers bundle expected
  | bundleMembers => ∀ bundle expected, e.bundleMembers.get? bundle = some expected →
    source.HasMembersIn bundle expected
  | neighbors => source.Resolves "ipv4" e.ipv4Neighbors ∧ source.Resolves "ipv6" e.ipv6Neighbors

variable {source : Source}

/-! ### Reports -/

theorem result_reportTable (t : Table) : ((reportTable t).run source).result = .ok () := by
  unfold reportTable
  split <;> rfl

theorem result_reportAll (es : List Event) : ((reportAll es).run source).result = .ok () := by
  induction es with
  | nil => rfl
  | cons e es ih => rw [reportAll, result_report_bind, ih]

/-! ### Sections with a record for each entry -/

section
variable {τ χ : Type} {read : String → Inspection (Option τ)} {path : String → Path}
  {d : Decoder τ} {agrees : τ → χ → Bool} {met : χ → τ → Prop}

/-- The records are all there and agree exactly if each entry has a record that meets it. -/
theorem collect_eq_ok_true_iff (hread : ∀ name, read name = record (path name) d)
    (hagrees : ∀ x m, agrees m x = true ↔ met x m) {entries : List (String × χ)} :
    (∃ records, ((collect read agrees entries).run source).result = .ok (records, true)) ↔
      ∀ e ∈ entries, source.Meets path d met e.1 e.2 := by
  induction entries with
  | nil => exact ⟨fun _ => nofun, fun _ => ⟨[], rfl⟩⟩
  | cons e entries ih =>
      obtain ⟨name, x⟩ := e
      rw [List.forall_mem_cons, ← ih]
      simp only [Source.Meets, ← result_record_eq_some_iff, ← hread, ← hagrees]
      constructor
      · rintro ⟨records, h⟩
        rw [collect, result_bind_eq_ok_iff] at h
        obtain ⟨found, hfound, h⟩ := h
        cases found with
        | none =>
            -- A record is missing, so the answer is no, whatever the other entries come to.
            rw [result_report_bind, result_bind_eq_ok_iff] at h
            obtain ⟨⟨others, ok⟩, -, hanswer⟩ := h
            cases hanswer
        | some m =>
            rw [result_bind_eq_ok_iff] at h
            obtain ⟨⟨others, ok⟩, hothers, hanswer⟩ := h
            obtain ⟨-, hok⟩ := Prod.mk.inj (result_pure_eq_ok_iff.mp hanswer)
            rw [Bool.and_eq_true] at hok
            obtain ⟨hm, rfl⟩ := hok
            exact ⟨⟨m, hfound, hm⟩, others, hothers⟩
      · rintro ⟨⟨m, hfound, hm⟩, others, hothers⟩
        refine ⟨(name, m) :: others, ?_⟩
        rw [collect, result_bind_of_eq_ok hfound, result_bind_of_eq_ok hothers]
        exact result_pure_eq_ok_iff.mpr (by rw [hm, Bool.true_and])

/-- A section holds exactly if its entries are met, however its records are then shown. -/
theorem section_eq_ok_true_iff (hread : ∀ name, read name = record (path name) d)
    (hagrees : ∀ x m, agrees m x = true ↔ met x m) {entries : OrderedMap String χ}
    {display : List (String × τ) × Bool → Inspection Bool}
    (hdisplay : ∀ r, ((display r).run source).result = .ok r.2) :
    ((collect read agrees entries.toList >>= display).run source).result = .ok true ↔
      ∀ name x, entries.get? name = some x → source.Meets path d met name x := by
  rw [result_bind_eq_ok_iff, ← OrderedMap.forall_mem_iff (motive := source.Meets path d met),
    ← collect_eq_ok_true_iff hread hagrees]
  constructor
  · rintro ⟨⟨records, ok⟩, hrecords, hanswer⟩
    rw [hdisplay, Except.ok.injEq] at hanswer
    cases hanswer
    exact ⟨records, hrecords⟩
  · rintro ⟨records, hrecords⟩
    exact ⟨(records, true), hrecords, hdisplay _⟩

end

/-! ### The total of the listed flows -/

/-- The flows are all there exactly if the source has a record of each; these are the records. -/
theorem readFlows_eq_ok_true_iff {names : List String} {records : List (String × FlowMetric)} :
    ((readFlows names).run source).result = .ok (records, true) ↔
      source.FlowRecords names records := by
  rw [Source.FlowRecords]
  induction names generalizing records with
  | nil =>
      rw [List.forall₂_nil_left_iff, readFlows, result_pure_eq_ok_iff, Prod.mk.injEq]
      exact ⟨fun h => h.1.symm, fun h => ⟨h.symm, rfl⟩⟩
  | cons name names ih =>
      rw [List.forall₂_cons_left_iff, readFlows, result_bind_eq_ok_iff]
      constructor
      · rintro ⟨found, hfound, h⟩
        cases found with
        | none =>
            -- A flow is missing, so the list of records is not complete.
            rw [result_bind_eq_ok_iff] at h
            obtain ⟨⟨others, complete⟩, -, hanswer⟩ := h
            cases hanswer
        | some m =>
            rw [result_bind_eq_ok_iff] at h
            obtain ⟨⟨others, complete⟩, hothers, hanswer⟩ := h
            obtain ⟨rfl, rfl⟩ := Prod.mk.inj (result_pure_eq_ok_iff.mp hanswer)
            exact ⟨(name, m), others, ⟨rfl, result_record_eq_some_iff.mp hfound⟩,
              ih.mp hothers, rfl⟩
      · rintro ⟨⟨name', m⟩, others, ⟨hname, hm⟩, hothers, rfl⟩
        obtain rfl : name' = name := hname
        refine ⟨some m, result_record_eq_some_iff.mpr hm, ?_⟩
        show ((readFlows names >>= _).run source).result = _
        rw [result_bind_of_eq_ok (ih.mpr hothers)]
        rfl

/-- The total is the exact one up to multiples of the word size. -/
theorem toNat_received (records : List (String × FlowMetric)) :
    (received records).toNat = (records.map fun r => r.2.framesRx.toNat).sum % 2 ^ 64 := by
  -- The sum goes on from what has been added up so far, so the claim is about every start.
  have hfold : ∀ n : UInt64, (records.foldl (fun n r => n + r.2.framesRx) n).toNat =
      (n.toNat + (records.map fun r => r.2.framesRx.toNat).sum) % 2 ^ 64 := by
    induction records with
    | nil =>
        intro n
        exact (Nat.mod_eq_of_lt n.toNat_lt).symm
    | cons r records ih =>
        intro n
        rw [List.foldl_cons, ih, UInt64.toNat_add, Nat.mod_add_mod, List.map_cons,
          List.sum_cons, Nat.add_assoc]
  have hzero := hfold 0
  rw [UInt64.toNat_zero, Nat.zero_add] at hzero
  exact hzero

/-- The records of the flows hold what the flows have received. -/
theorem sum_framesRx {names : List String} {records : List (String × FlowMetric)}
    (h : source.FlowRecords names records) :
    (records.map fun r => r.2.framesRx.toNat).sum = source.framesReceived names := by
  rw [Source.framesReceived]
  induction h with
  | nil => rfl
  | cons hr _ ih =>
      rw [List.map_cons, List.sum_cons, List.map_cons, List.sum_cons, ih, hr.2]
      rfl

/-- The records of some flows can be listed exactly if each flow has one. -/
theorem exists_records_iff {names : List String} :
    (∃ records, source.FlowRecords names records) ↔
      ∀ name ∈ names, ∃ m, source.flow? name = some m := by
  induction names with
  | nil => exact ⟨fun _ => nofun, fun _ => ⟨[], .nil⟩⟩
  | cons name names ih =>
      rw [List.forall_mem_cons, ← ih]
      constructor
      · rintro ⟨records, h⟩
        cases h with
        | cons hr hrest => exact ⟨⟨_, hr.2⟩, _, hrest⟩
      · rintro ⟨⟨m, hm⟩, records, hrest⟩
        exact ⟨(name, m) :: records, .cons ⟨rfl, hm⟩ hrest⟩

/-- What is reported about the total does not bear on the answer: it is made of the flows that were
read and of what they have received. -/
theorem inspectTraffic_eq_ok_iff {x : TrafficExpectation} {answer : Bool} :
    ((inspectTraffic x).run source).result = .ok answer ↔
      ∃ records complete, ((readFlows x.flows.toList).run source).result = .ok (records, complete) ∧
        (complete && received records == x.framesRx) = answer := by
  have hanswer : ∀ records complete,
      ((do
        reportTable (.ofFlows records)
        let total := received records
        .report (seen "total frames received"
          [("expected", natText x.framesRx.toNat), ("actual", natText total.toNat)])
        return complete && total == x.framesRx : Inspection Bool).run source).result =
          .ok (complete && received records == x.framesRx) := by
    intro records complete
    rw [result_bind_of_eq_ok (result_reportTable _), result_report_bind]
    rfl
  rw [inspectTraffic, result_bind_eq_ok_iff, Prod.exists]
  refine exists₂_congr fun records complete => and_congr_right fun _ => ?_
  rw [hanswer, Except.ok.injEq]

/-- A yes takes a record of every flow, however many frames there are. -/
theorem exists_records_of_inspectTraffic {x : TrafficExpectation}
    (h : ((inspectTraffic x).run source).result = .ok true) :
    ∃ records, source.FlowRecords x.flows.toList records ∧ received records = x.framesRx := by
  obtain ⟨records, complete, hread, hanswer⟩ := inspectTraffic_eq_ok_iff.mp h
  rw [Bool.and_eq_true, beq_iff_eq] at hanswer
  obtain ⟨rfl, hsum⟩ := hanswer
  exact ⟨records, readFlows_eq_ok_true_iff.mp hread, hsum⟩

/-- While the total fits, it is as expected exactly if the exact number is. -/
theorem inspectTraffic_eq_ok_true_iff {x : TrafficExpectation}
    (htotal : source.framesReceived x.flows.toList < 2 ^ 64) :
    ((inspectTraffic x).run source).result = .ok true ↔
      (∀ name ∈ x.flows, ∃ m, source.flow? name = some m) ∧
        source.framesReceived x.flows.toList = x.framesRx.toNat := by
  have hmem : (∀ name ∈ x.flows, ∃ m, source.flow? name = some m) ↔
      ∃ records, source.FlowRecords x.flows.toList records := exists_records_iff.symm
  rw [hmem]
  constructor
  · intro h
    obtain ⟨records, hrecords, hsum⟩ := exists_records_of_inspectTraffic h
    refine ⟨⟨records, hrecords⟩, ?_⟩
    -- The total fits, so adding it up in words has lost nothing.
    rw [← hsum, toNat_received, sum_framesRx hrecords, Nat.mod_eq_of_lt htotal]
  · rintro ⟨⟨records, hrecords⟩, hsum⟩
    refine inspectTraffic_eq_ok_iff.mpr
      ⟨records, true, readFlows_eq_ok_true_iff.mpr hrecords, ?_⟩
    rw [Bool.true_and, beq_iff_eq]
    apply UInt64.toNat_inj.mp
    rw [toNat_received, sum_framesRx hrecords, Nat.mod_eq_of_lt htotal, hsum]

/-! ### Bundles and neighbors -/

/-- The members of a bundle are those of the bundle that the source reports. -/
theorem exists_bundleMembers_iff {bundle : String} {motive : List BundleMember → Prop} :
    (∃ members, ((Telemetry.bundleMembers bundle).run source).result = .ok members ∧
      motive members) ↔
      ∃ b, source.Reports (.device "lacp" bundle) Bundle.schema.decode {} b ∧
        motive b.members := by
  constructor
  · rintro ⟨members, hmembers, hmotive⟩
    obtain ⟨b, hb, rfl⟩ := result_record_getD_eq_ok_iff.mp hmembers
    exact ⟨b, hb, hmotive⟩
  · rintro ⟨b, hb, hmotive⟩
    exact ⟨b.members, result_record_getD_eq_ok_iff.mpr ⟨b, hb, rfl⟩, hmotive⟩

/-- The neighbors in a cache are those that the source reports. -/
theorem neighbors_eq_ok_iff {cache : String} {neighbors : List Neighbor} :
    ((Telemetry.neighbors cache).run source).result = .ok neighbors ↔
      source.Reports (.generator "neighbors" cache) (.list Neighbor.schema.decode) []
        neighbors :=
  (result_record_getD_eq_ok_iff (f := id)).trans exists_eq_right

/-- Two looks whose answers are joined: the answer is yes exactly if both are, whatever is shown
in between. -/
theorem and_eq_ok_true_iff {α : Type} {x : Inspection α} {f : α → Bool} {y : Inspection Bool}
    {k : α → Inspection Bool}
    (hk : ∀ a, ((k a).run source).result = ((y >>= fun ok => pure (f a && ok)).run source).result) :
    ((x >>= k).run source).result = .ok true ↔
      (∃ a, (x.run source).result = .ok a ∧ f a = true) ∧ (y.run source).result = .ok true := by
  rw [result_bind_eq_ok_iff]
  constructor
  · rintro ⟨a, ha, h⟩
    rw [hk, result_bind_eq_ok_iff] at h
    obtain ⟨ok, hok, hanswer⟩ := h
    rw [result_pure_eq_ok_iff, Bool.and_eq_true] at hanswer
    obtain ⟨hfa, rfl⟩ := hanswer
    exact ⟨⟨a, ha, hfa⟩, hok⟩
  · rintro ⟨⟨a, ha, hfa⟩, hok⟩
    refine ⟨a, ha, ?_⟩
    rw [hk, result_bind_of_eq_ok hok, result_pure_eq_ok_iff, hfa]
    rfl

/-- Bundles hold if each has exactly its members, in any order. -/
theorem inspectBundles_eq_ok_true_iff {entries : List (String × List String)} :
    ((inspectBundles entries).run source).result = .ok true ↔
      ∀ e ∈ entries, source.HasMembers e.1 e.2 := by
  induction entries with
  | nil => exact ⟨fun _ => nofun, fun _ => rfl⟩
  | cons e entries ih =>
      obtain ⟨bundle, expected⟩ := e
      rw [List.forall_mem_cons, ← ih, inspectBundles]
      refine (and_eq_ok_true_iff (f := fun members : List BundleMember =>
        Lists.unorderedEq expected (members.map (·.interface))) ?_).trans (and_congr_left' ?_)
      · intro members
        exact result_report_bind
      · refine exists_bundleMembers_iff.trans ?_
        refine exists_congr fun b => and_congr_right fun _ => ?_
        rw [Lists.unorderedEq_iff, List.perm_comm]

/-- Each expected member is reported, in the expected state. -/
theorem all_members_iff {expected : OrderedMap String MemberExpectation}
    {members : List BundleMember} :
    (expected.toList.all fun (name, x) =>
      members.any fun m => m.interface == name && x.agrees m) = true ↔
      ∀ name x, expected.get? name = some x → ∃ m ∈ members, m.interface = name ∧ x.MetBy m := by
  rw [List.all_eq_true]
  refine Iff.trans ?_ OrderedMap.forall_mem_iff
  refine forall₂_congr fun e _ => ?_
  rw [List.any_eq_true]
  simp only [Bool.and_eq_true, beq_iff_eq, MemberExpectation.agrees_iff]

/-- Bundles hold if each has every expected member in its state, among others or not. -/
theorem inspectBundleMembers_eq_ok_true_iff
    {entries : List (String × OrderedMap String MemberExpectation)} :
    ((inspectBundleMembers entries).run source).result = .ok true ↔
      ∀ e ∈ entries, source.HasMembersIn e.1 e.2 := by
  induction entries with
  | nil => exact ⟨fun _ => nofun, fun _ => rfl⟩
  | cons e entries ih =>
      obtain ⟨bundle, expected⟩ := e
      rw [List.forall_mem_cons, ← ih, inspectBundleMembers]
      refine (and_eq_ok_true_iff (f := fun members : List BundleMember =>
        expected.toList.all fun (name, x) => members.any fun m =>
          m.interface == name && x.agrees m) ?_).trans (and_congr_left' ?_)
      · intro members
        exact result_bind_of_eq_ok (result_reportTable _)
      · refine exists_bundleMembers_iff.trans ?_
        exact exists_congr fun b => and_congr_right fun _ => all_members_iff

/-- A cache holds if it resolves the addresses; without addresses it is not looked at. -/
theorem inspectNeighbors_eq_ok_true_iff {cache message : String} {expected : OrderedSet Mac} :
    ((inspectNeighbors (Telemetry.neighbors cache) message expected).run source).result = .ok true ↔
      source.Resolves cache expected := by
  unfold inspectNeighbors
  rw [Source.Resolves]
  split
  · rename_i hempty
    -- Without an address to look for, nothing is read and nothing is asked.
    rw [hempty]
    exact ⟨fun _ hfalse => Bool.noConfusion hfalse, fun _ => rfl⟩
  · rename_i hempty
    rw [Bool.not_eq_true] at hempty
    have hlisted : ∀ neighbors : List Neighbor,
        Lists.containsAll expected.toList (neighbors.filterMap (·.mac)) = true ↔
          ∀ a ∈ expected, ∃ n ∈ neighbors, n.mac = some a := by
      intro neighbors
      rw [Lists.containsAll_iff]
      refine forall₂_congr fun a _ => ?_
      rw [List.mem_filterMap]
    rw [result_bind_eq_ok_iff]
    simp only [result_report_bind, result_pure_eq_ok_iff, hlisted, neighbors_eq_ok_iff, hempty,
      forall_const]

/-! ### All checks -/

/-- A check answers yes exactly if what it stands for holds. -/
theorem outcome_eq_ok_true_iff_holds {e : Expectation}
    (htotal : ∀ x ∈ e.traffic, source.framesReceived x.flows.toList < 2 ^ 64) (c : Check) :
    c.outcome source e = .ok true ↔ c.Holds source e := by
  have htable : ∀ (t : Table) (ok : Bool),
      ((reportTable t >>= fun _ => pure ok : Inspection Bool).run source).result = .ok ok :=
    fun t ok => result_bind_of_eq_ok (result_reportTable t)
  have hevents : ∀ (es : List Event) (ok : Bool),
      ((reportAll es >>= fun _ => pure ok : Inspection Bool).run source).result = .ok ok :=
    fun es ok => result_bind_of_eq_ok (result_reportAll es)
  cases c with
  | ports =>
      exact section_eq_ok_true_iff (fun _ => rfl) (fun _ _ => PortExpectation.agrees_iff)
        fun _ => htable _ _
  | flows =>
      exact section_eq_ok_true_iff (fun _ => rfl) (fun _ _ => FlowExpectation.agrees_iff)
        fun _ => htable _ _
  | traffic =>
      unfold outcome inspect Holds
      cases htraffic : e.traffic with
      | none => exact ⟨fun _ => nofun, fun _ => rfl⟩
      | some x =>
          rw [inspectTraffic_eq_ok_true_iff (htotal x htraffic)]
          constructor
          · rintro h y hy
            cases hy
            exact h
          · intro h
            exact h x rfl
  | bgp4 =>
      exact section_eq_ok_true_iff (fun _ => rfl) (fun _ _ => BgpExpectation.agrees_iff)
        fun _ => htable _ _
  | bgp6 =>
      exact section_eq_ok_true_iff (fun _ => rfl) (fun _ _ => BgpExpectation.agrees_iff)
        fun _ => htable _ _
  | bgpPrefixes =>
      exact section_eq_ok_true_iff (fun _ => rfl) (fun _ _ => PrefixExpectation.agrees_iff)
        fun _ => hevents _ _
  | isis =>
      exact section_eq_ok_true_iff (fun _ => rfl) (fun _ _ => IsisExpectation.agrees_iff)
        fun _ => htable _ _
  | lags =>
      exact section_eq_ok_true_iff (fun _ => rfl) (fun _ _ => LagExpectation.agrees_iff)
        fun _ => htable _ _
  | lacp =>
      exact section_eq_ok_true_iff (fun _ => rfl) (fun _ _ => LacpExpectation.agrees_iff)
        fun _ => htable _ _
  | interfaces =>
      exact section_eq_ok_true_iff (fun _ => rfl) (fun _ _ => beq_iff_eq) fun _ => hevents _ _
  | bundles => exact inspectBundles_eq_ok_true_iff.trans OrderedMap.forall_mem_iff
  | bundleMembers => exact inspectBundleMembers_eq_ok_true_iff.trans OrderedMap.forall_mem_iff
  | neighbors =>
      refine (and_eq_ok_true_iff (f := id) fun _ => rfl).trans (and_congr ?_ ?_)
      · exact exists_eq_right.trans inspectNeighbors_eq_ok_true_iff
      · exact inspectNeighbors_eq_ok_true_iff

/-- Only the total of the traffic is added up, so the other checks ask nothing of it. -/
theorem outcome_eq_ok_true_iff_holds_of_ne {e : Expectation} {c : Check} (hc : c ≠ .traffic) :
    c.outcome source e = .ok true ↔ c.Holds source e := by
  -- Without a total to check, the expectation is the same to all other checks.
  let without : Expectation := { e with traffic := none }
  have htotal : ∀ x ∈ without.traffic, source.framesReceived x.flows.toList < 2 ^ 64 := nofun
  have hwithout : c.outcome source without = .ok true ↔ c.Holds source without :=
    outcome_eq_ok_true_iff_holds htotal c
  cases c with
  | traffic => exact absurd rfl hc
  | ports | flows | bgp4 | bgp6 | bgpPrefixes | isis | lags | lacp | interfaces | bundles
  | bundleMembers | neighbors => exact hwithout

theorem mem_all (c : Check) : c ∈ all := by
  cases c <;> decide

/-- No check is run twice. -/
theorem nodup_all : all.Nodup := by decide

/-- What a check that is off stands for holds anyway: its section asks for nothing. -/
theorem holds_of_isOn_eq_false {e : Expectation} {c : Check} (h : c.isOn e = false) :
    c.Holds source e := by
  cases c with
  | traffic =>
      intro x hx
      have hsome : e.traffic.isSome = true := Option.isSome_of_mem hx
      exact absurd (hsome.symm.trans h) nofun
  | neighbors =>
      obtain ⟨hipv4, hipv6⟩ := Bool.or_eq_false_iff.mp h
      constructor
      · intro hsome
        exact absurd (hsome.symm.trans (Bool.not_eq_eq_eq_not.mp hipv4)) nofun
      · intro hsome
        exact absurd (hsome.symm.trans (Bool.not_eq_eq_eq_not.mp hipv6)) nofun
  | ports | flows | bgp4 | bgp6 | bgpPrefixes | isis | lags | lacp | interfaces | bundles
  | bundleMembers => exact OrderedMap.forall_get?_of_isEmpty (Bool.not_eq_eq_eq_not.mp h)

end Check

/-- The source has everything that is expected, section by section. -/
def Source.Satisfies (source : Source) (e : Expectation) : Prop := ∀ c : Check, c.Holds source e

namespace Expectation

/-- All checks together answer yes exactly if the source satisfies the expectation. -/
theorem outcome_eq_ok_true_iff_satisfies {source : Source} {e : Expectation}
    (htotal : ∀ x ∈ e.traffic, source.framesReceived x.flows.toList < 2 ^ 64) :
    e.outcome source = .ok true ↔ source.Satisfies e := by
  rw [outcome_eq_ok_true_iff]
  constructor
  · intro h c
    cases hon : c.isOn e with
    | false => exact Check.holds_of_isOn_eq_false hon
    | true =>
        have hc : c ∈ Check.enabled e := List.mem_filter.mpr ⟨Check.mem_all c, hon⟩
        exact (Check.outcome_eq_ok_true_iff_holds htotal c).mp (h c hc)
  · intro h c _
    exact (Check.outcome_eq_ok_true_iff_holds htotal c).mpr (h c)

end Expectation

namespace Document

/-- A document is as expected exactly if, section by section, its records are. -/
theorem inspect_eq_ok_true_iff_satisfies (d : Document) (e : Expectation)
    (htotal : ∀ x ∈ e.traffic, d.source.framesReceived x.flows.toList < 2 ^ 64) :
    (e.inspect.run d.source).result = .ok true ↔ d.source.Satisfies e :=
  Expectation.outcome_eq_ok_true_iff_satisfies htotal

/-- Two flows that have received a thousand frames together. -/
theorem inspect_eq_ok_true_iff_satisfies_flows :
    let d := Document.ofValue (.object [("otg", .object [("flow", .object [
      ("udp", .object [("frames-rx", .int 600)]), ("tcp", .object [("frames-rx", .int 400)])])])])
    let e := (({} : Expectation).withFlow "udp" { framesRx := some 600 }).withTraffic
      { flows := .ofList ["udp", "tcp"], framesRx := 1000 }
    (∀ x ∈ e.traffic, d.source.framesReceived x.flows.toList < 2 ^ 64) ∧
      d.source.Satisfies e := by
  intro d e
  have htotal : ∀ x ∈ e.traffic, d.source.framesReceived x.flows.toList < 2 ^ 64 := by
    rintro x hx
    cases hx
    show 400 + (600 + 0) < 2 ^ 64
    decide
  refine ⟨htotal, (inspect_eq_ok_true_iff_satisfies d e htotal).mp ?_⟩
  rfl

end Document

end Convergence
