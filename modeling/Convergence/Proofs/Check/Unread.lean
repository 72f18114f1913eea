import Convergence.Proofs.Check.Weakening

/-!
# `Convergence.Proofs.Check.Unread`: what can be decided without a read

Of a source that answers nothing, an inspection learns nothing.  A check that reads at all fails on
it with its first read (`Reads.run_failing`), and nearly every check that is on reads: the one
exception is a total over no flows, which is zero (`isOn_of_readings_eq_nil`).  So an expectation is
decided without a read exactly if such a total decides it (`Expectation.DecidedUnread`), because
nothing comes before the total and it either disagrees or is all that is expected
(`outcome_failing_eq_ok_iff`).
-/

set_option autoImplicit false

namespace Convergence

/-- The source that fails on every path, with the same error. -/
def Source.failing (err : ReadError) : Source := fun _ => .error err

namespace Inspection

variable {α : Type} {x : Inspection α} {err : ReadError}

/-- The first question to a source that fails is the last one. -/
theorem length_asked_failing (x : Inspection α) : (x.asked (.failing err)).length ≤ 1 := by
  induction x with
  | answer a => exact Nat.zero_le 1
  | abort e => exact Nat.zero_le 1
  | note e rest ih => exact ih
  | look p rest ih => exact Nat.le_refl 1

/-- What has an answer all the same has not asked. -/
theorem asked_failing_of_result_eq_ok {a : α} (h : (x.run (.failing err)).result = .ok a) :
    x.asked (.failing err) = [] := by
  induction x with
  | answer a => rfl
  | abort e => rfl
  | note e rest ih => exact ih h
  | look p rest ih => cases h

/-- What reads fails with the first read. -/
theorem Reads.run_failing {r : Reading} {rs : List Reading} (h : x.Reads (r :: rs))
    (err : ReadError) :
    (x.run (.failing err)).result = .error err ∧ x.asked (.failing err) = [r.path] := by
  constructor
  · rw [h.result_eq_error_iff]
    exact List.findSome?_cons_of_isSome rfl
  · generalize hreads : r :: rs = reads at h
    induction h with
    | answer a => cases hreads
    | note e _ ih => exact ih hreads
    | look _ _ _ _ _ =>
        obtain ⟨rfl, rfl⟩ := List.cons.inj hreads
        rfl

end Inspection

namespace Check

variable {e : Expectation} {err : ReadError} {c : Check}

/-- A check that is on without anything to read is a total over no flows. -/
theorem exists_traffic_of_readings_eq_nil (h : c.readings e = []) (hon : c.isOn e = true) :
    c = traffic ∧ ∃ x, e.traffic = some x ∧ x.flows.isEmpty = true := by
  cases c with
  | traffic =>
      obtain ⟨x, hx⟩ := Option.isSome_iff_exists.mp hon
      refine ⟨rfl, x, hx, ?_⟩
      simpa [readings, hx, OrderedSet.isEmpty] using h
  | neighbors =>
      -- One of the two caches is looked at, whichever has an address to look for.
      cases hipv4 : e.ipv4Neighbors.isEmpty <;> cases hipv6 : e.ipv6Neighbors.isEmpty <;>
        simp [readings, isOn, hipv4, hipv6] at h hon
  | ports | flows | bgp4 | bgp6 | bgpPrefixes | isis | lags | lacp | interfaces | bundles
  | bundleMembers =>
      simp [readings, isOn, OrderedMap.isEmpty] at h hon
      exact absurd h hon

/-- A total over no flows is zero, whatever telemetry says. -/
theorem outcome_traffic_of_flows_isEmpty {source : Source} {x : TrafficExpectation}
    (hx : e.traffic = some x) (hflows : x.flows.isEmpty = true) :
    traffic.outcome source e = .ok (x.framesRx == 0) := by
  have hnames : x.flows.toList = [] := List.isEmpty_iff.mp hflows
  have hanswer : (true && received [] == x.framesRx) = (x.framesRx == 0) := BEq.comm
  rw [outcome, inspect, hx, ← hanswer]
  simp only [inspectTraffic, hnames]
  rfl

/-- A check that is on and has an answer without a read is a total over no flows. -/
theorem exists_traffic_of_outcome_eq_ok {b : Bool} (hon : c.isOn e = true)
    (h : c.outcome (.failing err) e = .ok b) :
    c = traffic ∧ ∃ x, e.traffic = some x ∧ x.flows.isEmpty = true := by
  refine exists_traffic_of_readings_eq_nil ?_ hon
  have hreads := reads_inspect e c
  generalize c.readings e = rs at hreads ⊢
  cases rs with
  | nil => rfl
  | cons r rs =>
      rw [outcome, (hreads.run_failing err).1] at h
      cases h

/-- Checks that are run in turn have an answer without a read, or fail with the one read that they
make. -/
theorem inspectAll_failing (e : Expectation) (err : ReadError) (cs : List Check) :
    (∃ b, ((inspectAll e cs).run (.failing err)).result = .ok b) ∨
      ((inspectAll e cs).run (.failing err)).result = .error err ∧
        ((inspectAll e cs).asked (.failing err)).length = 1 := by
  induction cs with
  | nil => exact .inl ⟨true, rfl⟩
  | cons c cs ih =>
      have hreads := reads_inspect e c
      rw [inspectAll, Inspection.asked_bind]
      generalize c.readings e = rs at hreads
      cases rs with
      | nil =>
          obtain ⟨b, hb⟩ := (hreads.exists_result_eq_ok (.failing err)).mpr (List.forall_mem_nil _)
          rw [Inspection.result_bind_of_eq_ok hb, Inspection.asked_failing_of_result_eq_ok hb, hb]
          cases b with
          | true => exact ih
          | false => exact .inl ⟨false, rfl⟩
      | cons r rs =>
          obtain ⟨hresult, hasked⟩ := hreads.run_failing err
          rw [Inspection.run_bind, hresult, hasked]
          exact .inr ⟨rfl, rfl⟩

/-- Without the total, the other checks are on or off as they were. -/
theorem isOn_without_traffic (hc : c ≠ traffic) : c.isOn { e with traffic := none } = c.isOn e := by
  cases c with
  | traffic => exact absurd rfl hc
  | ports | flows | bgp4 | bgp6 | bgpPrefixes | isis | lags | lacp | interfaces | bundles
  | bundleMembers | neighbors => rfl

/-- If the total is the only check that is on, nothing else is expected. -/
theorem isEmpty_without_traffic_iff :
    ({ e with traffic := none } : Expectation).isEmpty = true ↔
      ∀ c : Check, c ≠ traffic → c.isOn e = false := by
  rw [Expectation.isEmpty_iff_forall_isOn]
  constructor
  · intro h c hc
    rw [← isOn_without_traffic hc, h c]
  · intro h c
    by_cases hc : c = traffic
    · rw [hc]
      rfl
    · rw [isOn_without_traffic hc, h c hc]

end Check

namespace Expectation

variable {e : Expectation} {x : TrafficExpectation} {err : ReadError}

/-- The expectation is decided without a read by its total `x`: no flows are added up, no port or
flow is looked at before, and nothing is looked at afterwards, because the total is not zero or is
all that is expected. -/
structure DecidedUnread (e : Expectation) (x : TrafficExpectation) : Prop where
  traffic : e.traffic = some x
  noneAdded : x.flows.isEmpty = true
  noPorts : e.ports.isEmpty = true
  noFlows : e.flows.isEmpty = true
  others : x.framesRx = 0 → ({ e with traffic := none } : Expectation).isEmpty = true

/-- Such a total decides, whatever telemetry says. -/
theorem DecidedUnread.outcome_eq (h : e.DecidedUnread x) (source : Source) :
    e.outcome source = .ok (x.framesRx == 0) := by
  have htotal : Check.traffic.outcome source e = .ok (x.framesRx == 0) :=
    Check.outcome_traffic_of_flows_isEmpty h.traffic h.noneAdded
  by_cases hzero : x.framesRx = 0
  · rw [hzero, beq_self_eq_true] at htotal ⊢
    rw [outcome_eq_ok_true_iff_forall]
    intro c
    by_cases hc : c = .traffic
    · rw [hc, htotal]
    · -- The other checks are off, and so say yes.
      have hoff := Check.isEmpty_without_traffic_iff.mp (h.others hzero) c hc
      rw [Check.outcome, Check.inspect_of_isOn_eq_false hoff]
      rfl
  · have hne : (x.framesRx == 0) = false := beq_eq_false_iff_ne.mpr hzero
    rw [hne] at htotal ⊢
    -- The total is the first check that is on.
    have henabled : Check.enabled e = .traffic :: (Check.all.drop 3).filter (Check.isOn e) := by
      simp [Check.enabled, Check.all, Check.isOn, h.traffic, h.noPorts, h.noFlows]
    exact (outcome_eq_iff (r := .ok false) (by simp)).mpr
      ⟨[], .traffic, _, henabled, List.forall_mem_nil _, htotal⟩

/-- Where all of it has an answer, every check that is reached has one. -/
theorem exists_outcome_eq_ok_of_split {source : Source} {b : Bool} {before after : List Check}
    {c : Check} (h : e.outcome source = .ok b) (hsplit : Check.enabled e = before ++ c :: after)
    (hbefore : ∀ d ∈ before, d.outcome source e = .ok true) :
    ∃ b, c.outcome source e = .ok b := by
  cases hc : c.outcome source e with
  | ok b => exact ⟨b, rfl⟩
  | error err =>
      rw [(outcome_eq_iff (r := .error err) nofun).mpr ⟨before, c, after, hsplit, hbefore, hc⟩] at h
      cases h

/-- Where nothing can be read and there is an answer, a check that is reached is the total. -/
theorem eq_traffic_of_reached {b : Bool} (h : e.outcome (.failing err) = .ok b)
    (before : List Check) {after : List Check} {c : Check}
    (hsplit : Check.enabled e = before ++ c :: after)
    (hbefore : ∀ d ∈ before, d.outcome (.failing err) e = .ok true) :
    c = .traffic ∧ ∃ x, e.traffic = some x ∧ x.flows.isEmpty = true := by
  obtain ⟨b, hc⟩ := exists_outcome_eq_ok_of_split h hsplit hbefore
  have hmem : c ∈ Check.enabled e := by simp [hsplit]
  exact Check.exists_traffic_of_outcome_eq_ok (List.mem_filter.mp hmem).2 hc

/-- If the total comes first, neither ports nor flows are expected. -/
theorem isOn_of_enabled_eq_cons {rest : List Check} (h : Check.enabled e = .traffic :: rest) :
    Check.ports.isOn e = false ∧ Check.flows.isOn e = false := by
  have hports : Check.ports.isOn e = false := by
    rw [← Bool.not_eq_true]
    intro hon
    cases h.symm.trans (List.filter_cons_of_pos hon)
  refine ⟨hports, ?_⟩
  rw [← Bool.not_eq_true]
  intro hon
  rw [Check.enabled, Check.all, List.filter_cons_of_neg (by simp [hports])] at h
  cases h.symm.trans (List.filter_cons_of_pos hon)

/-- If nothing can be read behind it either, a total that holds is all that is expected. -/
theorem isEmpty_without_traffic {b : Bool} {rest : List Check}
    (h : e.outcome (.failing err) = .ok b) (henabled : Check.enabled e = .traffic :: rest)
    (htotal : Check.traffic.outcome (.failing err) e = .ok true) :
    ({ e with traffic := none } : Expectation).isEmpty = true := by
  rw [Check.isEmpty_without_traffic_iff]
  intro c hc
  rw [← Bool.not_eq_true]
  intro hon
  have hmem : c ∈ Check.enabled e := List.mem_filter.mpr ⟨Check.mem_all c, hon⟩
  have hnodup : (Check.enabled e).Nodup := Check.nodup_all.filter _
  rw [henabled] at hmem hnodup
  cases rest with
  | nil => exact hc (List.mem_singleton.mp hmem)
  | cons c' rest =>
      -- The check behind the total is reached, so it would be the total again.
      have hbefore : ∀ d ∈ [Check.traffic], d.outcome (.failing err) e = .ok true := by
        rw [List.forall_mem_singleton]
        exact htotal
      obtain ⟨rfl, -⟩ := eq_traffic_of_reached h [.traffic] henabled hbefore
      simp at hnodup

/-- Where nothing can be read, an answer is that of a total of no flows. -/
theorem exists_decidedUnread {b : Bool} (hempty : e.isEmpty = false)
    (h : e.outcome (.failing err) = .ok b) : ∃ x, e.DecidedUnread x := by
  cases henabled : Check.enabled e with
  | nil =>
      have hoff : ∀ c : Check, c.isOn e = false := by
        intro c
        rw [← Bool.not_eq_true]
        exact List.filter_eq_nil_iff.mp henabled c (Check.mem_all c)
      rw [isEmpty_iff_forall_isOn.mpr hoff] at hempty
      cases hempty
  | cons c rest =>
      obtain ⟨rfl, x, hx, hflows⟩ := eq_traffic_of_reached h [] henabled nofun
      obtain ⟨hports, hrates⟩ := isOn_of_enabled_eq_cons henabled
      refine ⟨x, hx, hflows, Bool.not_eq_eq_eq_not.mp hports, Bool.not_eq_eq_eq_not.mp hrates,
        fun hzero => isEmpty_without_traffic h henabled ?_⟩
      rw [Check.outcome_traffic_of_flows_isEmpty hx hflows, hzero]
      rfl

/-- Where nothing can be read, there is an answer only if nothing is expected, or if the total of
no flows decides. -/
theorem outcome_failing_eq_ok_iff {b : Bool} :
    e.outcome (.failing err) = .ok b ↔
      e.isEmpty = true ∧ b = true ∨ ∃ x, e.DecidedUnread x ∧ (x.framesRx == 0) = b := by
  constructor
  · intro h
    cases hempty : e.isEmpty with
    | true =>
        rw [outcome, inspect_of_isEmpty hempty] at h
        exact .inl ⟨rfl, (Except.ok.inj h).symm⟩
    | false =>
        obtain ⟨x, hx⟩ := exists_decidedUnread hempty h
        exact .inr ⟨x, hx, Except.ok.inj ((hx.outcome_eq _).symm.trans h)⟩
  · rintro (⟨hempty, rfl⟩ | ⟨x, hx, rfl⟩)
    · rw [outcome, inspect_of_isEmpty hempty]
      rfl
    · exact hx.outcome_eq _

end Expectation

end Convergence
