import Convergence.Check
import Convergence.Proofs.Inspection.Reads
import Convergence.Proofs.Inspection.Result

/-!
# `Convergence.Proofs.Check.Failure`: when a check fails, and when all of them do

A check fails if it cannot read a record, and for no other reason.  `Check.readings` lists the
records that each check reads, in order: those that its section of the expectation names.  The
list depends on the expectation alone, since neither a record that is missing nor one that
disagrees ends a check (`reads_inspect`).  So a check fails exactly if one of its reads does, with
the error of the first one.

Between checks it is the other way round: the first check that does not hold ends the run, and the
sections behind it are not read.  `inspect_failures` states both rules.
-/

set_option autoImplicit false

namespace Convergence

open Inspection

namespace Check

/-! ### What each check reads -/

section
variable {τ χ : Type}

/-- A table is only reported. -/
theorem reads_reportTable (t : Table) : (reportTable t).Reads [] := by
  unfold reportTable
  split
  · exact reads_pure ()
  · exact reads_report _

/-- Events are only reported. -/
theorem reads_reportAll (es : List Event) : (reportAll es).Reads [] := by
  induction es with
  | nil => exact reads_pure ()
  | cons e es ih => exact (reads_report e).bind fun _ => ih

/-- The records of a section are read entry by entry, present or not, and whether or not they
agree. -/
theorem reads_collect {read : String → Inspection (Option τ)} {reading : String → Reading}
    (hread : ∀ name, (read name).Reads [reading name]) (agrees : τ → χ → Bool)
    (entries : List (String × χ)) :
    (collect read agrees entries).Reads (entries.map fun e => reading e.1) := by
  induction entries with
  | nil => exact reads_pure _
  | cons e entries ih =>
      obtain ⟨name, x⟩ := e
      refine (hread name).bind fun found => ?_
      cases found with
      | some record => exact ih.bind_nil fun _ => reads_pure _
      | none => exact (reads_report _).bind fun _ => ih.bind_nil fun _ => reads_pure _

/-- A section that is shown as a table reads its records. -/
theorem reads_tabulate {read : String → Inspection (Option τ)} {reading : String → Reading}
    (hread : ∀ name, (read name).Reads [reading name]) (agrees : τ → χ → Bool)
    (table : List (String × τ) → Table) (entries : OrderedMap String χ) :
    (tabulate read agrees table entries).Reads (entries.toList.map fun e => reading e.1) :=
  (reads_collect hread agrees entries.toList).bind_nil fun _ =>
    (reads_reportTable _).bind fun _ => reads_pure _

end

/-- The read of a flow. -/
def flowReading (name : String) : Reading :=
  .record (.generator "flow" name) FlowMetric.schema.decode

/-- The read of a bundle. -/
def bundleReading (bundle : String) : Reading :=
  .record (.device "lacp" bundle) Bundle.schema.decode

/-- The read of a neighbor cache. -/
def neighborsReading (cache : String) : Reading :=
  .record (.generator "neighbors" cache) (.list Neighbor.schema.decode)

/-- What a check reads, in order. -/
def readings (e : Expectation) : Check → List Reading
  | ports => e.ports.toList.map fun x =>
      .record (.generator "port" x.1) PortMetric.schema.decode
  | flows => e.flows.toList.map fun x => flowReading x.1
  | traffic =>
    match e.traffic with
    | none => []
    | some x => x.flows.toList.map flowReading
  | bgp4 => e.bgp4.toList.map fun x =>
      .record (.generator "bgp4" x.1) BgpMetric.schema.decode
  | bgp6 => e.bgp6.toList.map fun x =>
      .record (.generator "bgp6" x.1) BgpMetric.schema.decode
  | bgpPrefixes => e.bgpPrefixes.toList.map fun x =>
      .record (.generator "bgp-prefixes" x.1) BgpPrefixes.schema.decode
  | isis => e.isis.toList.map fun x =>
      .record (.generator "isis" x.1) IsisMetric.schema.decode
  | lags => e.lags.toList.map fun x =>
      .record (.generator "lag" x.1) LagMetric.schema.decode
  | lacp => e.lacp.toList.map fun x =>
      .record (.generator "lacp" x.1) LacpMetric.schema.decode
  | interfaces => e.interfaces.toList.map fun x =>
      .record (.device "interface" x.1) InterfaceState.schema.decode
  | bundles => e.bundles.toList.map fun x => bundleReading x.1
  | bundleMembers => e.bundleMembers.toList.map fun x => bundleReading x.1
  | neighbors =>
    (if e.ipv4Neighbors.isEmpty then [] else [neighborsReading "ipv4"]) ++
      if e.ipv6Neighbors.isEmpty then [] else [neighborsReading "ipv6"]

/-- The members of a bundle are one read. -/
theorem reads_bundleMembers (bundle : String) :
    (Telemetry.bundleMembers bundle).Reads [bundleReading bundle] :=
  (reads_record _ _).bind_nil fun _ => reads_pure _

/-- A neighbor cache is one read, which is made if there is an address to look for. -/
theorem reads_inspectNeighbors (cache message : String) (expected : OrderedSet Mac) :
    (inspectNeighbors (Telemetry.neighbors cache) message expected).Reads
      (if expected.isEmpty then [] else [neighborsReading cache]) := by
  unfold inspectNeighbors
  split
  · exact reads_pure _
  · have hcache : (Telemetry.neighbors cache).Reads [neighborsReading cache] :=
      (reads_record _ _).bind_nil fun _ => reads_pure _
    exact hcache.bind_nil fun _ => (reads_report _).bind fun _ => reads_pure _

/-- The flows of a total are read one after the other, present or not. -/
theorem reads_readFlows (names : List String) :
    (readFlows names).Reads (names.map flowReading) := by
  induction names with
  | nil => exact reads_pure _
  | cons name names ih =>
      have hflow : (Telemetry.flow name).Reads [flowReading name] := reads_record _ _
      refine hflow.bind fun found => ?_
      cases found with
      | some m => exact ih.bind_nil fun _ => reads_pure _
      | none => exact ih.bind_nil fun _ => reads_pure _

/-- Bundles are read one after the other, whatever their members are. -/
theorem reads_inspectBundles (entries : List (String × List String)) :
    (inspectBundles entries).Reads (entries.map fun e => bundleReading e.1) := by
  induction entries with
  | nil => exact reads_pure _
  | cons e entries ih =>
      obtain ⟨bundle, expected⟩ := e
      exact (reads_bundleMembers bundle).bind fun _ =>
        (reads_report _).bind fun _ => ih.bind_nil fun _ => reads_pure _

/-- So they are when the state of their members is looked at. -/
theorem reads_inspectBundleMembers
    (entries : List (String × OrderedMap String MemberExpectation)) :
    (inspectBundleMembers entries).Reads (entries.map fun e => bundleReading e.1) := by
  induction entries with
  | nil => exact reads_pure _
  | cons e entries ih =>
      obtain ⟨bundle, expected⟩ := e
      exact (reads_bundleMembers bundle).bind fun _ =>
        (reads_reportTable _).bind fun _ => ih.bind_nil fun _ => reads_pure _

/-- Every check reads the records that its section names, in order, whatever it finds there. -/
theorem reads_inspect (e : Expectation) (c : Check) : (c.inspect e).Reads (c.readings e) := by
  cases c with
  | ports => exact reads_tabulate (fun _ => reads_record _ _) _ _ _
  | flows => exact reads_tabulate (fun _ => reads_record _ _) _ _ _
  | traffic =>
      unfold inspect readings
      cases e.traffic with
      | none => exact reads_pure true
      | some x =>
          exact (reads_readFlows _).bind_nil fun _ => (reads_reportTable _).bind fun _ =>
            (reads_report _).bind fun _ => reads_pure _
  | bgp4 => exact reads_tabulate (fun _ => reads_record _ _) _ _ _
  | bgp6 => exact reads_tabulate (fun _ => reads_record _ _) _ _ _
  | bgpPrefixes =>
      exact (reads_collect (fun _ => reads_record _ _) _ _).bind_nil fun _ =>
        (reads_reportAll _).bind fun _ => reads_pure _
  | isis => exact reads_tabulate (fun _ => reads_record _ _) _ _ _
  | lags => exact reads_tabulate (fun _ => reads_record _ _) _ _ _
  | lacp => exact reads_tabulate (fun _ => reads_record _ _) _ _ _
  | interfaces =>
      exact (reads_collect (fun _ => reads_record _ _) _ _).bind_nil fun _ =>
        (reads_reportAll _).bind fun _ => reads_pure _
  | bundles => exact reads_inspectBundles _
  | bundleMembers => exact reads_inspectBundleMembers _
  | neighbors =>
      exact (reads_inspectNeighbors _ _ _).bind fun _ =>
        (reads_inspectNeighbors _ _ _).bind_nil fun _ => reads_pure _

/-! ### What comes of one check and of all of them -/

/-- What comes of a check. -/
def outcome (source : Source) (e : Expectation) (c : Check) : Except ReadError Bool :=
  ((c.inspect e).run source).result

/-- The checks that an expectation needs, in the order in which they are run. -/
def enabled (e : Expectation) : List Check := all.filter (isOn e)

variable {source : Source} {e : Expectation}

/-- A check fails with the error of the first of its reads that fails. -/
theorem outcome_eq_error_iff {c : Check} {err : ReadError} :
    c.outcome source e = .error err ↔
      ∃ before r after, c.readings e = before ++ r :: after ∧ r.failure source = some err ∧
        ∀ b ∈ before, b.failure source = none := by
  rw [outcome, (reads_inspect e c).result_eq_error_iff, List.findSome?_eq_some_iff]

/-- A check has an answer exactly if none of its reads fails. -/
theorem exists_outcome_eq_ok {c : Check} :
    (∃ b, c.outcome source e = .ok b) ↔ ∀ r ∈ c.readings e, r.failure source = none :=
  (reads_inspect e c).exists_result_eq_ok source

/-- Behind a check that holds, the others decide. -/
theorem result_inspectAll_of_holds {c : Check} {cs : List Check}
    (h : c.outcome source e = .ok true) :
    ((inspectAll e (c :: cs)).run source).result = ((inspectAll e cs).run source).result := by
  rw [outcome] at h
  rw [inspectAll, result_bind_of_eq_ok h, if_pos rfl]

/-- Behind a check that does not hold, nothing is looked at: its outcome is the outcome. -/
theorem result_inspectAll_of_stops {c : Check} {cs : List Check}
    (h : c.outcome source e ≠ .ok true) :
    ((inspectAll e (c :: cs)).run source).result = c.outcome source e := by
  rw [outcome] at h ⊢
  rw [inspectAll, run_bind]
  cases hresult : ((c.inspect e).run source).result with
  | error err => rfl
  | ok holds =>
      cases holds with
      | false => rfl
      | true => exact absurd hresult h

/-- The checks all hold together exactly if each of them does. -/
theorem result_inspectAll_eq_ok_true_iff {cs : List Check} :
    ((inspectAll e cs).run source).result = .ok true ↔
      ∀ c ∈ cs, c.outcome source e = .ok true := by
  induction cs with
  | nil => exact ⟨fun _ => nofun, fun _ => rfl⟩
  | cons c cs ih =>
      rw [List.forall_mem_cons]
      by_cases h : c.outcome source e = .ok true
      · rw [result_inspectAll_of_holds h, ih]
        simp only [h, true_and]
      · rw [result_inspectAll_of_stops h]
        simp only [h, false_and]

/-- Any other outcome is that of the first check that does not hold. -/
theorem result_inspectAll_eq_iff {cs : List Check} {r : Except ReadError Bool}
    (hr : r ≠ .ok true) :
    ((inspectAll e cs).run source).result = r ↔
      ∃ before c after, cs = before ++ c :: after ∧
        (∀ b ∈ before, b.outcome source e = .ok true) ∧ c.outcome source e = r := by
  induction cs with
  | nil =>
      constructor
      · intro h
        exact absurd h.symm hr
      · rintro ⟨before, c, after, hcs, -, -⟩
        simp at hcs
  | cons d ds ih =>
      by_cases h : d.outcome source e = .ok true
      · rw [result_inspectAll_of_holds h, ih]
        constructor
        · rintro ⟨before, c, after, rfl, hbefore, hc⟩
          exact ⟨d :: before, c, after, rfl, List.forall_mem_cons.mpr ⟨h, hbefore⟩, hc⟩
        · rintro ⟨before, c, after, hcs, hbefore, hc⟩
          cases before with
          | nil =>
              -- The split cannot be at the head, which holds.
              obtain ⟨rfl, -⟩ := List.cons.inj hcs
              exact absurd (hc.symm.trans h) hr
          | cons b before =>
              obtain ⟨rfl, hds⟩ := List.cons.inj hcs
              exact ⟨before, c, after, hds, (List.forall_mem_cons.mp hbefore).2, hc⟩
      · rw [result_inspectAll_of_stops h]
        constructor
        · intro hd
          exact ⟨[], d, ds, rfl, nofun, hd⟩
        · rintro ⟨before, c, after, hcs, hbefore, hc⟩
          cases before with
          | nil =>
              obtain ⟨rfl, -⟩ := List.cons.inj hcs
              exact hc
          | cons b before =>
              obtain ⟨rfl, -⟩ := List.cons.inj hcs
              exact absurd (List.forall_mem_cons.mp hbefore).1 h

end Check

namespace Expectation

/-- What comes of looking at everything that is expected. -/
def outcome (source : Source) (e : Expectation) : Except ReadError Bool :=
  (e.inspect.run source).result

/-- Everything is as expected exactly if every check that is needed holds. -/
theorem outcome_eq_ok_true_iff {source : Source} {e : Expectation} :
    e.outcome source = .ok true ↔ ∀ c ∈ Check.enabled e, c.outcome source e = .ok true :=
  Check.result_inspectAll_eq_ok_true_iff

/-- Any other outcome is that of the first check that does not hold. -/
theorem outcome_eq_iff {source : Source} {e : Expectation} {r : Except ReadError Bool}
    (hr : r ≠ .ok true) :
    e.outcome source = r ↔
      ∃ before c after, Check.enabled e = before ++ c :: after ∧
        (∀ b ∈ before, b.outcome source e = .ok true) ∧ c.outcome source e = r :=
  Check.result_inspectAll_eq_iff hr

/-- Within a check, a failed read is reported whatever else was found: the check fails exactly if
one of its reads does, with the error of the first of them, and a record that is missing is no
failure.  Between checks, the first outcome that is not a yes is the outcome of all, so a failed
read is reported exactly if the checks before it hold. -/
theorem inspect_failures (source : Source) (e : Expectation) :
    (∀ c : Check,
      ((∃ err, c.outcome source e = .error err) ↔
        ∃ r ∈ c.readings e, r.failure source ≠ none) ∧
      (∀ err, c.outcome source e = .error err ↔
        ∃ before r after, c.readings e = before ++ r :: after ∧ r.failure source = some err ∧
          ∀ b ∈ before, b.failure source = none)) ∧
    (∀ r : Reading, source r.path = .ok none → r.failure source = none) ∧
    (e.outcome source = .ok true ↔ ∀ c ∈ Check.enabled e, c.outcome source e = .ok true) ∧
    (∀ r, r ≠ .ok true → (e.outcome source = r ↔
      ∃ before c after, Check.enabled e = before ++ c :: after ∧
        (∀ b ∈ before, b.outcome source e = .ok true) ∧ c.outcome source e = r)) ∧
    (∀ err, e.outcome source = .error err ↔
      ∃ before c after, Check.enabled e = before ++ c :: after ∧
        (∀ b ∈ before, b.outcome source e = .ok true) ∧ c.outcome source e = .error err) := by
  refine ⟨fun c => ⟨?_, fun err => Check.outcome_eq_error_iff⟩, fun r => Reading.failure_of_none,
    outcome_eq_ok_true_iff, fun r => outcome_eq_iff, fun err => outcome_eq_iff nofun⟩
  constructor
  · rintro ⟨err, herr⟩
    obtain ⟨before, r, after, hreadings, hr, -⟩ := Check.outcome_eq_error_iff.mp herr
    refine ⟨r, by simp [hreadings], ?_⟩
    rw [hr]
    exact Option.some_ne_none err
  · rintro ⟨r, hr, hfailure⟩
    cases houtcome : c.outcome source e with
    | error err => exact ⟨err, rfl⟩
    | ok b => exact absurd (Check.exists_outcome_eq_ok.mp ⟨b, houtcome⟩ r hr) hfailure

/-- A port that is missing does not hide that the next one cannot be read; a flow that is missing
hides that a link cannot be read. -/
theorem inspect_failures_second :
    let source : Source := fun p =>
      if p.keys = ["otg", "port", "eth2"] ∨ p.keys = ["otg", "lag", "lag1"] then
        .ok (some (.bool true))
      else .ok none
    let ports := (({} : Expectation).withPort "eth1" {}).withPort "eth2" {}
    let links := (({} : Expectation).withFlow "udp" {}).withLag "lag1" {}
    ports.outcome source = .error (.undecodable (.generator "port" "eth2")
      (.wrongType (.bool true) "struct PortMetric")) ∧
    links.outcome source = .ok false := by
  intro source ports links
  constructor
  · have hports : Check.ports.outcome source ports = .error (.undecodable
        (.generator "port" "eth2") (.wrongType (.bool true) "struct PortMetric")) := by
      refine (((inspect_failures source ports).1 .ports).2 _).mpr ⟨[.record
        (.generator "port" "eth1") PortMetric.schema.decode], .record (.generator "port" "eth2")
        PortMetric.schema.decode, [], rfl, rfl, ?_⟩
      rw [List.forall_mem_singleton]
      exact (inspect_failures source ports).2.1 _ rfl
    exact ((inspect_failures source ports).2.2.2.2 _).mpr ⟨[], .ports, [], rfl, nofun, hports⟩
  · exact ((inspect_failures source links).2.2.2.1 (.ok false) nofun).mpr
      ⟨[], .flows, [.lags], rfl, nofun, rfl⟩

end Expectation

end Convergence
