import Convergence.Proofs.Check.Satisfaction
import Convergence.Proofs.Expectation.MemberRemoval
import Convergence.Proofs.Telemetry.Bundle

/-!
# `Convergence.Proofs.Check.MemberDown`: a member of a bundle goes down

When a member of a bundle goes down, the device reports the bundle without it, and the next step of
a scenario expects the bundle without it.  `Document.MemberDown` is the first of these steps and
`Expectation.withoutBundleMember` the second one.  Both leave out every occurrence of the member, so
what was one list but for its order stays one (`hasMembers_without`).  If only one of them is made
and the member was expected, one list has it and the other one does not (`not_hasMembers_without`,
`not_hasMembers_of_memberDown`).

`Document.outcome_of_memberDown` says what the check on bundles answers after each step and after
both, and that the second step changes nothing else.
-/

set_option autoImplicit false

namespace Convergence

/-! ### When the check on bundles says no -/

namespace Check

variable {source : Source} {e : Expectation}

/-- A check says no exactly if it reads everything that it is to read and does not say yes. -/
theorem outcome_eq_ok_false_iff {c : Check} :
    c.outcome source e = .ok false ↔
      (∀ r ∈ c.readings e, r.failure source = none) ∧ c.outcome source e ≠ .ok true := by
  rw [← exists_outcome_eq_ok]
  constructor
  · intro h
    exact ⟨⟨false, h⟩, by rw [h]; nofun⟩
  · rintro ⟨⟨holds, h⟩, hno⟩
    cases holds with
    | false => exact h
    | true => exact absurd h hno

/-- The check on bundles says yes if every bundle has its members. -/
theorem outcome_bundles_eq_ok_true_iff :
    Check.bundles.outcome source e = .ok true ↔
      ∀ name members, e.bundles.get? name = some members → source.HasMembers name members :=
  outcome_eq_ok_true_iff_holds_of_ne nofun

/-- It reads every bundle that is expected. -/
theorem forall_mem_readings_bundles {motive : Reading → Prop} :
    (∀ r ∈ Check.bundles.readings e, motive r) ↔
      ∀ name members, e.bundles.get? name = some members → motive (bundleReading name) := by
  rw [readings, List.forall_mem_map]
  exact OrderedMap.forall_mem_iff (motive := fun name _ => motive (bundleReading name))

/-- It says no if a bundle does not have its members, but all of them can be read. -/
theorem outcome_bundles_eq_ok_false {name : String} {members : List String}
    (hread : ∀ other expected, e.bundles.get? other = some expected →
      (bundleReading other).failure source = none)
    (hname : e.bundles.get? name = some members) (hno : ¬source.HasMembers name members) :
    Check.bundles.outcome source e = .ok false := by
  refine outcome_eq_ok_false_iff.mpr ⟨forall_mem_readings_bundles.mpr hread, fun hyes => ?_⟩
  exact hno (outcome_bundles_eq_ok_true_iff.mp hyes name members hname)

end Check

/-! ### Members of a bundle with a record -/

namespace Source

variable {s t : Source} {bundle : String}

/-- What a source reports about a bundle is what it answers for the path of the bundle. -/
theorem hasMembers_congr (h : s (.device "lacp" bundle) = t (.device "lacp" bundle))
    (members : List String) : s.HasMembers bundle members ↔ t.HasMembers bundle members := by
  simp only [HasMembers, Reports, record?, h]

/-- A bundle with a record has the members that are listed there. -/
theorem hasMembers_iff {b : Bundle}
    (hb : s.record? (.device "lacp" bundle) Bundle.schema.decode = some b) {members : List String} :
    s.HasMembers bundle members ↔ (b.members.map (·.interface)).Perm members := by
  constructor
  · rintro ⟨b', hnone | hsome, hperm⟩
    · rw [record?, hnone.1] at hb
      cases hb
    · rw [hb, Option.some.injEq] at hsome
      rwa [hsome]
  · intro hperm
    exact ⟨b, .inr hb, hperm⟩

/-- A record that is there can be read. -/
theorem failure_bundleReading_of_record? {b : Bundle}
    (hb : s.record? (.device "lacp" bundle) Bundle.schema.decode = some b) :
    (Check.bundleReading bundle).failure s = none := by
  have hread := (Inspection.reads_record (.device "lacp" bundle) Bundle.schema.decode)
    |>.exists_result_eq_ok s
  exact hread.mp ⟨some b, Inspection.result_record_eq_some_iff.mpr hb⟩ _ (List.mem_singleton_self _)

end Source

namespace Document

/-! ### The step of telemetry -/

/-- The document in which a bundle is reported anew, with the members that it had and without every
one of that interface. -/
def MemberDown (bundle member : String) (d d' : Document) : Prop :=
  ∃ (b : Bundle) (new : Document),
    d.source.record? (.device "lacp" bundle) Bundle.schema.decode = some b ∧
    Bundle.schema.decode .json new.value = .ok (b.without member) ∧
    d' = d.set (.device "lacp" bundle) new

variable {d d' : Document} {bundle member : String}

/-- A member of any bundle that is reported can go down. -/
theorem exists_memberDown {b : Bundle}
    (hb : d.source.record? (.device "lacp" bundle) Bundle.schema.decode = some b)
    (member : String) : ∃ d', d.MemberDown bundle member d' :=
  ⟨_, b, (b.without member).document, hb, (b.without member).decode_value_document, rfl⟩

/-- Both documents have a record of the bundle, the second one without the member. -/
theorem MemberDown.exists_record? (h : d.MemberDown bundle member d') :
    ∃ b : Bundle, d.source.record? (.device "lacp" bundle) Bundle.schema.decode = some b ∧
      d'.source.record? (.device "lacp" bundle) Bundle.schema.decode = some (b.without member) := by
  obtain ⟨b, new, hb, hnew, rfl⟩ := h
  exact ⟨b, hb, record?_set hnew d _⟩

/-- Other bundles are reported as before. -/
theorem MemberDown.source_of_ne (h : d.MemberDown bundle member d') {name : String}
    (hne : name ≠ bundle) : d'.source (.device "lacp" name) = d.source (.device "lacp" name) := by
  obtain ⟨b, new, -, -, rfl⟩ := h
  have hapart : Path.Apart (.device "lacp" bundle) (.device "lacp" name) := by
    refine Telemetry.Item.path_apart (i := .bundleMembers bundle) (j := .bundleMembers name) ?_
    rintro heq
    cases heq
    exact hne rfl
  exact source_eq_of_get?_eq (get?_set_of_apart hapart d new)

/-- What can be read before can be read after. -/
theorem MemberDown.failure_bundleReading (h : d.MemberDown bundle member d') {name : String}
    (hname : (Check.bundleReading name).failure d.source = none) :
    (Check.bundleReading name).failure d'.source = none := by
  by_cases hne : name = bundle
  · obtain ⟨b, -, hb'⟩ := h.exists_record?
    rw [hne]
    exact Source.failure_bundleReading_of_record? hb'
  · have hsource := h.source_of_ne hne
    rwa [Reading.failure, show (Check.bundleReading name).path = .device "lacp" name from rfl,
      hsource]

/-! ### One step, and both -/

variable {e : Expectation} {expected : List String}

/-- With both steps the bundle has its members again. -/
theorem MemberDown.hasMembers_without (h : d.MemberDown bundle member d')
    (hold : d.source.HasMembers bundle expected) :
    d'.source.HasMembers bundle (Lists.without expected member) := by
  obtain ⟨b, hb, hb'⟩ := h.exists_record?
  rw [Source.hasMembers_iff hb] at hold
  rw [Source.hasMembers_iff hb', Bundle.map_interface_without]
  exact hold.filter _

/-- With the first step alone a member that is expected is not there. -/
theorem MemberDown.not_hasMembers (h : d.MemberDown bundle member d') (hm : member ∈ expected) :
    ¬d'.source.HasMembers bundle expected := by
  obtain ⟨b, -, hb'⟩ := h.exists_record?
  rw [Source.hasMembers_iff hb', Bundle.map_interface_without]
  intro hperm
  have hfiltered := hperm.mem_iff.mpr hm
  exact of_decide_eq_true (List.mem_filter.mp hfiltered).2 rfl

/-- With the second step alone a member that is there is not expected. -/
theorem MemberDown.not_hasMembers_without (h : d.MemberDown bundle member d')
    (hold : d.source.HasMembers bundle expected) (hm : member ∈ expected) :
    ¬d.source.HasMembers bundle (Lists.without expected member) := by
  obtain ⟨b, hb, -⟩ := h.exists_record?
  rw [Source.hasMembers_iff hb] at hold ⊢
  intro hperm
  have hwithout := hperm.mem_iff.mp (hold.mem_iff.mpr hm)
  exact of_decide_eq_true (List.mem_filter.mp hwithout).2 rfl

/-- While the check on bundles says yes, it can read all of them before the step and after it. -/
theorem MemberDown.failure_eq_none (h : d.MemberDown bundle member d')
    (hholds : Check.bundles.outcome d.source e = .ok true) {name : String} {members : List String}
    (hname : e.bundles.get? name = some members) :
    (Check.bundleReading name).failure d.source = none ∧
      (Check.bundleReading name).failure d'.source = none := by
  have hread := Check.forall_mem_readings_bundles.mp
    (Check.exists_outcome_eq_ok.mp ⟨true, hholds⟩) name members hname
  exact ⟨hread, h.failure_bundleReading hread⟩

/-- After both steps the check says yes again. -/
theorem MemberDown.outcome_without (h : d.MemberDown bundle member d')
    (hholds : Check.bundles.outcome d.source e = .ok true) :
    Check.bundles.outcome d'.source (e.withoutBundleMember bundle member) = .ok true := by
  rw [Check.outcome_bundles_eq_ok_true_iff] at hholds ⊢
  intro name members hname
  rw [e.get?_bundles_withoutBundleMember] at hname
  split at hname
  · rename_i heq
    obtain ⟨expected, hexpected, rfl⟩ := Option.map_eq_some_iff.mp hname
    rw [heq]
    exact h.hasMembers_without (hholds bundle expected hexpected)
  · rename_i hne
    exact (Source.hasMembers_congr (h.source_of_ne hne) members).mpr (hholds name members hname)

/-- After the step of the expectation alone it says no. -/
theorem MemberDown.outcome_eq_ok_false_of_expectation (h : d.MemberDown bundle member d')
    (hholds : Check.bundles.outcome d.source e = .ok true)
    (hexpected : e.bundles.get? bundle = some expected) (hm : member ∈ expected) :
    Check.bundles.outcome d.source (e.withoutBundleMember bundle member) = .ok false := by
  have hbundle : (e.withoutBundleMember bundle member).bundles.get? bundle =
      some (Lists.without expected member) := by
    rw [e.get?_bundles_withoutBundleMember, if_pos rfl, hexpected]
    rfl
  refine Check.outcome_bundles_eq_ok_false (fun name members hname => ?_) hbundle ?_
  · -- The same bundles are expected, so the same ones are read.
    rw [e.get?_bundles_withoutBundleMember] at hname
    split at hname
    · rename_i heq
      rw [heq]
      exact (h.failure_eq_none hholds hexpected).1
    · exact (h.failure_eq_none hholds hname).1
  · exact h.not_hasMembers_without
      (Check.outcome_bundles_eq_ok_true_iff.mp hholds bundle expected hexpected) hm

/-- After the step of telemetry alone it says no. -/
theorem MemberDown.outcome_eq_ok_false_of_telemetry (h : d.MemberDown bundle member d')
    (hholds : Check.bundles.outcome d.source e = .ok true)
    (hexpected : e.bundles.get? bundle = some expected) (hm : member ∈ expected) :
    Check.bundles.outcome d'.source e = .ok false :=
  Check.outcome_bundles_eq_ok_false (fun _ _ hname => (h.failure_eq_none hholds hname).2) hexpected
    (h.not_hasMembers hm)

/-- **A member of a bundle goes down.**  Telemetry and expectation may take the step one after the
other: while the check on bundles held before, it holds again when both have taken it, and in
between it does not if the member was expected, without failing.  A bundle that is reported can take
the step.  The step of the expectation keeps the bundle, though it may be left without members, and
everything else; several of them come to the same in any order and however often each is made; and
there is no step for a bundle that is not expected. -/
theorem outcome_of_memberDown (d : Document) (e : Expectation) (bundle member : String) :
    (∀ b, d.source.record? (.device "lacp" bundle) Bundle.schema.decode = some b →
      ∃ d', d.MemberDown bundle member d') ∧
    (∀ d', d.MemberDown bundle member d' → Check.bundles.outcome d.source e = .ok true →
      Check.bundles.outcome d'.source (e.withoutBundleMember bundle member) = .ok true ∧
      ∀ expected, e.bundles.get? bundle = some expected → member ∈ expected →
        Check.bundles.outcome d.source (e.withoutBundleMember bundle member) = .ok false ∧
        Check.bundles.outcome d'.source e = .ok false) ∧
    (∀ expected, e.bundles.get? bundle = some expected →
      (e.withoutBundleMember bundle member).bundles.get? bundle =
        some (expected.filter (· ≠ member))) ∧
    (∀ name, name ≠ bundle →
      (e.withoutBundleMember bundle member).bundles.get? name = e.bundles.get? name) ∧
    { e.withoutBundleMember bundle member with bundles := e.bundles } = e ∧
    (∀ members members' : List String, (∀ m, m ∈ members ↔ m ∈ members') →
      members.foldl (fun e m => e.withoutBundleMember bundle m) e =
        members'.foldl (fun e m => e.withoutBundleMember bundle m) e) ∧
    (e.bundles.get? bundle = none → e.withoutBundleMember bundle member = e) := by
  refine ⟨fun b hb => exists_memberDown hb member, fun d' hd' hholds => ⟨?_, ?_⟩,
    fun expected hexpected => ?_, fun name hne => ?_, e.withoutBundleMember_bundles bundle member,
    fun members members' h => e.foldl_withoutBundleMember_congr bundle h,
    fun hnone => Expectation.withoutBundleMember_of_get?_eq_none hnone member⟩
  · exact hd'.outcome_without hholds
  · intro expected hexpected hm
    exact ⟨hd'.outcome_eq_ok_false_of_expectation hholds hexpected hm,
      hd'.outcome_eq_ok_false_of_telemetry hholds hexpected hm⟩
  · rw [e.get?_bundles_withoutBundleMember, if_pos rfl, hexpected]
    rfl
  · rw [e.get?_bundles_withoutBundleMember, if_neg hne]

/-- A bundle lists one of its members twice and loses it; the bundle beside it is not touched. -/
theorem outcome_of_memberDown_twice :
    let member (name : String) : Value := .object [("interface", .string name)]
    let d := ofValue (.object [("dut", .object [("lacp", .object [
      ("agg1", .object [("members", .array [member "eth2", member "eth1", member "eth2"])]),
      ("agg2", .object [("members", .array [member "eth2"])])])])])
    let d' := d.set (.device "lacp" "agg1")
      (ofValue (.object [("members", .array [member "eth1"])]))
    let e := (({} : Expectation).withBundle "agg1" ["eth1", "eth2", "eth2"]).withBundle "agg2"
      ["eth2"]
    d.MemberDown "agg1" "eth2" d' ∧ Check.bundles.outcome d.source e = .ok true ∧
      "eth2" ∈ ["eth1", "eth2", "eth2"] ∧
      Check.bundles.outcome d'.source (e.withoutBundleMember "agg1" "eth2") = .ok true ∧
      Check.bundles.outcome d.source (e.withoutBundleMember "agg1" "eth2") = .ok false ∧
      Check.bundles.outcome d'.source e = .ok false ∧
      (e.withoutBundleMember "agg1" "eth2").bundles.get? "agg1" = some ["eth1"] := by
  intro member d d' e
  have hdown : d.MemberDown "agg1" "eth2" d' := by
    refine ⟨⟨[⟨"eth2", false, false, .outSync⟩, ⟨"eth1", false, false, .outSync⟩,
      ⟨"eth2", false, false, .outSync⟩]⟩, _, ?_, ?_, rfl⟩
    · cbv
    · cbv
  have hholds : Check.bundles.outcome d.source e = .ok true := by cbv
  obtain ⟨-, hsteps, hkept, -⟩ := outcome_of_memberDown d e "agg1" "eth2"
  obtain ⟨hboth, hone⟩ := hsteps d' hdown hholds
  obtain ⟨hexpectation, htelemetry⟩ := hone ["eth1", "eth2", "eth2"] rfl (by decide)
  exact ⟨hdown, hholds, by decide, hboth, hexpectation, htelemetry, hkept _ rfl⟩

end Document

end Convergence
