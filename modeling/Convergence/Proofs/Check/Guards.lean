import Convergence.Proofs.Collections
import Convergence.Proofs.Inspection.Asks
import Convergence.Program

/-!
# `Convergence.Proofs.Check.Guards`: a check that is off would hold anyway

The sections of an expectation are listed three times: in the test for an empty expectation, in the
guards that turn checks on, and in the checks themselves.  The three agree.  An expectation is empty
exactly if it is the empty one, and exactly if every check is off (`isEmpty_iff_forall_isOn`); and a
check that is off is the inspection that answers yes at once, without a question or a report
(`inspect_of_isOn_eq_false`).  So the guards save nothing but work: with and without them the checks
are one and the same inspection (`inspectAll_filter`), which runs them in turn (`run_inspectAll`).

`inspect_eq_inspectAll` puts this together, with what it means for a run that is given an empty
expectation and ends before it polls.
-/

set_option autoImplicit false

namespace Convergence

namespace Expectation

variable {e : Expectation}

/-- The test for an empty expectation finds the empty one. -/
theorem isEmpty_iff : e.isEmpty = true ↔ e = {} := by
  cases e
  simp only [isEmpty, Bool.and_eq_true, OrderedMap.isEmpty_iff, OrderedSet.isEmpty_iff,
    Option.isNone_iff_eq_none, mk.injEq, and_assoc]

/-- So does the comparison with the empty expectation, though it takes rates as numbers: where there
is no flow there is no rate. -/
theorem eqv_empty : e.eqv {} = e.isEmpty := by
  rw [Bool.eq_iff_iff, isEmpty_iff]
  constructor
  · intro h
    simp only [eqv, Bool.and_eq_true, beq_iff_eq] at h
    obtain ⟨⟨hlength, -⟩, hothers⟩ := h
    have hflows : e.flows = ∅ :=
      OrderedMap.isEmpty_iff.mp (List.isEmpty_iff_length_eq_zero.mpr hlength)
    cases e
    cases hflows
    exact hothers
  · rintro rfl
    rfl

/-- The test for an empty expectation asks whether the guards are all off. -/
theorem isEmpty_eq_all : e.isEmpty = Check.all.all fun c => !c.isOn e := by
  simp [isEmpty, Check.all, Check.isOn, Bool.and_assoc]

/-- An expectation is empty exactly if every check is off. -/
theorem isEmpty_iff_forall_isOn : e.isEmpty = true ↔ ∀ c : Check, c.isOn e = false := by
  constructor
  · intro h c
    obtain rfl := isEmpty_iff.mp h
    cases c <;> rfl
  · intro h
    rw [isEmpty_eq_all, List.all_eq_true]
    intro c _
    rw [h c]
    rfl

end Expectation

namespace Check

/-- A section without entries that is shown as a table is passed over in silence. -/
theorem tabulate_of_isEmpty {τ χ : Type} {read : String → Inspection (Option τ)}
    {agrees : τ → χ → Bool} {table : List (String × τ) → Table} {entries : OrderedMap String χ}
    (htable : (table []).isEmpty = true) (h : entries.isEmpty = true) :
    tabulate read agrees table entries = pure true := by
  have hlist : entries.toList = [] := List.isEmpty_iff.mp h
  rw [tabulate, hlist]
  show (reportTable (table []) >>= fun _ => pure true) = pure true
  rw [reportTable, if_pos htable]
  rfl

/-- A check that is off answers yes at once. -/
theorem inspect_of_isOn_eq_false {e : Expectation} {c : Check} (h : c.isOn e = false) :
    c.inspect e = pure true := by
  have hlist : ∀ {χ : Type} {entries : OrderedMap String χ},
      (!entries.isEmpty) = false → entries.toList = [] := by
    intro χ entries hentries
    exact List.isEmpty_iff.mp (Bool.not_eq_eq_eq_not.mp hentries)
  cases c with
  | ports | flows | bgp4 | bgp6 | isis | lags | lacp =>
      exact tabulate_of_isEmpty rfl (Bool.not_eq_eq_eq_not.mp h)
  | bgpPrefixes | interfaces | bundles | bundleMembers =>
      simp only [inspect, hlist h]
      rfl
  | traffic =>
      have hnone : e.traffic = none := by simpa [isOn] using h
      simp only [inspect, hnone]
  | neighbors =>
      have hboth : e.ipv4Neighbors.isEmpty = true ∧ e.ipv6Neighbors.isEmpty = true := by
        simpa [isOn] using h
      simp only [inspect, inspectNeighbors, hboth.1, hboth.2]
      rfl

/-- What comes of checks that are run one after the other, up to the first whose result is not yes,
and the paths that are asked for on the way. -/
def inTurn (source : Source) (e : Expectation) : List Check → Report Bool × List Path
  | [] => (⟨.ok true, []⟩, [])
  | c :: cs =>
    let report := (c.inspect e).run source
    let paths := (c.inspect e).asked source
    match report.result with
    | .ok true =>
      let (later, laterPaths) := inTurn source e cs
      (⟨later.result, report.events ++ later.events⟩, paths ++ laterPaths)
    | _ => (report, paths)

/-- The inspection of several checks runs them in turn. -/
theorem run_inspectAll (source : Source) (e : Expectation) (cs : List Check) :
    ((inspectAll e cs).run source, (inspectAll e cs).asked source) = inTurn source e cs := by
  induction cs with
  | nil => rfl
  | cons c cs ih =>
      rw [inspectAll, Inspection.run_bind, Inspection.asked_bind, inTurn, ← ih]
      obtain ⟨result, events⟩ := (c.inspect e).run source
      rcases result with err | (_ | _)
      · simp
      · -- The answer no ends the inspection, without a further report or question.
        simp [Inspection.run, Inspection.asked, Inspection.pure_eq]
      · simp

/-- To leave out the checks that are off leaves the inspection as it is. -/
theorem inspectAll_filter (e : Expectation) (cs : List Check) :
    inspectAll e (cs.filter (isOn e)) = inspectAll e cs := by
  induction cs with
  | nil => rfl
  | cons c cs ih =>
      cases hon : c.isOn e with
      | true => rw [List.filter_cons_of_pos hon, inspectAll, inspectAll, ih]
      | false =>
          rw [List.filter_cons_of_neg (by simp [hon]), ih, inspectAll,
            inspect_of_isOn_eq_false hon]
          rfl

end Check

namespace Expectation

/-- To run the checks that are on is to run all of them. -/
theorem inspect_eq (e : Expectation) : e.inspect = Check.inspectAll e Check.all :=
  Check.inspectAll_filter e Check.all

/-- An empty expectation is found met at once. -/
theorem inspect_of_isEmpty {e : Expectation} (h : e.isEmpty = true) : e.inspect = pure true := by
  obtain rfl := isEmpty_iff.mp h
  rfl

end Expectation

/-- A poll for an empty expectation converges at its first evaluation and reads nothing. -/
theorem Policy.exists_waitFor_of_isEmpty (p : Policy) (label : String) (s : Snapshot) (fuel : Nat)
    {e : Expectation} (h : e.isEmpty = true) :
    ∃ f, p.waitFor label (s.condition e) (fuel + 1) { state := {} } = some f ∧
      f.result = .ok () ∧ f.state.reads = 0 ∧ f.starts = [0] := by
  have hcondition : s.condition e {} 0
      = ({ answer := .ok true, took := s.took 0 }, { reads := 0, evaluations := 1 }) := by
    unfold Snapshot.condition
    rw [Expectation.inspect_of_isEmpty h]
    rfl
  rw [waitFor, hcondition]
  exact ⟨_, rfl, rfl, rfl, rfl⟩

namespace Expectation

/-- **The guards are shortcuts.**  The test for an empty expectation is the comparison with the
empty one, and says that no guard is on.  A check whose guard is off would answer yes without asking
or reporting anything.  So the checks that are on make one and the same inspection as all checks,
whatever answers it; asked of one source, it has the result, the events and the questions of all
checks in turn, up to the first whose result is not yes.  And a run with an empty expectation, which
ends before it polls, ends with the status that the poll would have had, which would not have read
anything. -/
theorem inspect_eq_inspectAll (e : Expectation) :
    (e.isEmpty = true ↔ ∀ c : Check, c.isOn e = false) ∧
    e.isEmpty = e.eqv {} ∧
    (∀ c : Check, c.isOn e = false → c.inspect e = pure true) ∧
    e.inspect = Check.inspectAll e Check.all ∧
    (∀ source : Source,
      (e.inspect.run source, e.inspect.asked source) = Check.inTurn source e Check.all) ∧
    (e.isEmpty = true → ∀ (p : Policy) (label : String) (s : Snapshot) (fuel : Nat),
      ∃ r f, Plan.run ⟨p, e⟩ label s (fuel + 1) = some r ∧
        p.waitFor label (s.condition e) (fuel + 1) { state := {} } = some f ∧
        f.result = .ok () ∧ r.ending.status = (Ending.polled f.result).status ∧
        f.starts = [0] ∧ r.used.reads = f.state.reads) := by
  refine ⟨isEmpty_iff_forall_isOn, eqv_empty.symm, fun c => Check.inspect_of_isOn_eq_false,
    inspect_eq e, fun source => ?_, fun h p label s fuel => ?_⟩
  · rw [inspect_eq, Check.run_inspectAll]
  · obtain ⟨f, hf, hresult, hreads, hstarts⟩ := p.exists_waitFor_of_isEmpty label s fuel h
    refine ⟨{ ending := .nothingExpected }, f, ?_, hf, hresult, ?_, hstarts, hreads.symm⟩
    · rw [Plan.run, if_pos h]
    · rw [hresult]
      rfl

/-- Only a link is expected, so the check on ports is off and would say yes.  When nothing is
expected, the program ends as converged, which a poll of a missing snapshot would have done too. -/
theorem inspect_eq_inspectAll_link :
    let link := ({} : Expectation).withLag "lag1" (.up 2)
    let s : Snapshot := { name := "state", history := FileState.always .missing }
    link.isEmpty = false ∧ Check.ports.isOn link = false ∧ Check.ports.inspect link = pure true ∧
      ({} : Expectation).isEmpty = true ∧
      ∃ r f, Plan.run ⟨⟨1000, 5000⟩, {}⟩ "links" s 3 = some r ∧
        (⟨1000, 5000⟩ : Policy).waitFor "links" (s.condition {}) 3 { state := {} } = some f ∧
        r.ending.status = .converged ∧ (Ending.polled f.result).status = .converged := by
  intro link s
  have hports : Check.ports.isOn link = false := rfl
  have hempty : ({} : Expectation).isEmpty = true := rfl
  refine ⟨rfl, hports, (inspect_eq_inspectAll link).2.2.1 .ports hports, hempty, ?_⟩
  obtain ⟨r, f, hr, hf, hresult, hstatus, -, -⟩ :=
    (inspect_eq_inspectAll {}).2.2.2.2.2 hempty ⟨1000, 5000⟩ "links" s 2
  rw [hresult] at hstatus
  refine ⟨r, f, hr, hf, hstatus, ?_⟩
  rw [hresult]
  rfl

end Expectation

end Convergence
