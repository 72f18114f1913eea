import Convergence.Proofs.Check.Satisfaction

/-!
# `Convergence.Proofs.Check.Traffic`: the frames of single flows and of several together

An expectation may say how many frames a flow receives, and how many several flows receive
together.  Two checks look at this, each on its own: one goes through the flows section and
compares record by record, the other one reads the listed flows again and adds them up.  Where the
section says something about every listed flow, the two cannot disagree: once the single flows are
as expected, what has been received together is what is expected together
(`framesReceived_eq_framesExpected`), so the total is as expected exactly if it is the sum of what
the section says.

The total alone does not let one flow stand in for another: a flow without a record is a no,
however many frames the others have received, also when their sum does not fit in 64 bits.
-/

set_option autoImplicit false

namespace Convergence

namespace Expectation

/-- The frames that a flow is expected to have received, if its entry says so. -/
def flowFrames? (e : Expectation) (name : String) : Option UInt64 :=
  (e.flows.get? name).bind (·.framesRx)

/-- The frames that these flows are expected to have received together, as a number without bound.
A flow of which nothing is expected counts for nothing. -/
def framesExpected (e : Expectation) (names : List String) : Nat :=
  (names.map fun name => (e.flowFrames? name).elim 0 UInt64.toNat).sum

end Expectation

namespace Check

variable {source : Source} {e : Expectation}

/-- Where the single flows are as expected, a flow has received what its entry says. -/
theorem Holds.exists_flow? (h : Check.flows.Holds source e) {name : String} {n : UInt64}
    (hn : e.flowFrames? name = some n) : ∃ m, source.flow? name = some m ∧ m.framesRx = n := by
  obtain ⟨x, hx, hframes⟩ := Option.bind_eq_some_iff.mp hn
  obtain ⟨m, hm, hmet⟩ := h name x hx
  exact ⟨m, hm, hmet.framesRx n hframes⟩

/-- So several of them have received together what is expected of them together. -/
theorem Holds.framesReceived_eq_framesExpected (h : Check.flows.Holds source e)
    {names : List String} (hnames : ∀ name ∈ names, ∃ n, e.flowFrames? name = some n) :
    source.framesReceived names = e.framesExpected names := by
  refine congrArg List.sum (List.map_congr_left fun name hname => ?_)
  obtain ⟨n, hn⟩ := hnames name hname
  obtain ⟨m, hm, rfl⟩ := h.exists_flow? hn
  rw [hm, hn]
  rfl

/-- The check on the total is the look at the flows that it lists. -/
theorem outcome_traffic {x : TrafficExpectation} (htraffic : e.traffic = some x) :
    Check.traffic.outcome source e = ((inspectTraffic x).run source).result := by
  unfold outcome inspect
  rw [htraffic]

/-- With a record of every listed flow, the total has an answer. -/
theorem exists_outcome_traffic_eq_ok {x : TrafficExpectation} (htraffic : e.traffic = some x)
    (h : ∀ name ∈ x.flows, ∃ m, source.flow? name = some m) :
    ∃ answer, Check.traffic.outcome source e = .ok answer := by
  obtain ⟨records, hrecords⟩ := exists_records_iff.mpr h
  rw [outcome_traffic htraffic]
  exact ⟨_, inspectTraffic_eq_ok_iff.mpr
    ⟨records, true, readFlows_eq_ok_true_iff.mpr hrecords, rfl⟩⟩

end Check

namespace Expectation

/-- **The total and the single flows agree.**  Let the flows section say of every listed flow how
many frames it receives.  If the single flows are as expected, the check on the total has an
answer, and it is a yes exactly if the total that is expected is the sum of what is expected of the
listed flows.  Other flows, expected or reported, do not come into it.  And whatever is said of
single flows, a total that is as expected has a record of every listed flow behind it. -/
theorem traffic_agrees_with_flows (source : Source) (e : Expectation) (x : TrafficExpectation)
    (htraffic : e.traffic = some x) :
    ((∀ name ∈ x.flows, ∃ n, e.flowFrames? name = some n) →
      e.framesExpected x.flows.toList < 2 ^ 64 →
      Check.flows.outcome source e = .ok true →
      (∃ answer, Check.traffic.outcome source e = .ok answer) ∧
        (Check.traffic.outcome source e = .ok true ↔
          x.framesRx.toNat = e.framesExpected x.flows.toList)) ∧
    (Check.traffic.outcome source e = .ok true →
      ∀ name ∈ x.flows, ∃ m, source.flow? name = some m) := by
  constructor
  · intro hexpected hfits hflows
    have hholds : Check.flows.Holds source e :=
      (Check.outcome_eq_ok_true_iff_holds_of_ne (by decide)).mp hflows
    have hrecords : ∀ name ∈ x.flows, ∃ m, source.flow? name = some m := by
      intro name hname
      obtain ⟨n, hn⟩ := hexpected name hname
      obtain ⟨m, hm, -⟩ := hholds.exists_flow? hn
      exact ⟨m, hm⟩
    have hsum : source.framesReceived x.flows.toList = e.framesExpected x.flows.toList :=
      hholds.framesReceived_eq_framesExpected hexpected
    refine ⟨Check.exists_outcome_traffic_eq_ok htraffic hrecords, ?_⟩
    rw [Check.outcome_traffic htraffic,
      Check.inspectTraffic_eq_ok_true_iff (hsum.trans_lt hfits), hsum, eq_comm,
      and_iff_right hrecords]
  · intro h
    rw [Check.outcome_traffic htraffic] at h
    obtain ⟨records, hflows, -⟩ := Check.exists_records_of_inspectTraffic h
    exact Check.exists_records_iff.mp ⟨records, hflows⟩

/-- Two flows of which frames are expected make up the total.  A third one has received a surplus,
and is in the flows section too, where nothing is said of its frames.  With one frame more in the
total the check on it says no. -/
theorem traffic_agrees_with_flows_surplus :
    let source := (Document.ofValue (.object [("otg", .object [("flow", .object [
      ("tcp", .object [("frames-rx", .int 400)]), ("udp", .object [("frames-rx", .int 600)]),
      ("icmp", .object [("frames-rx", .int 1)])])])])).source
    let e := ((({} : Expectation).withFlow "udp" { framesRx := some 600 }).withFlow "tcp"
      { framesRx := some 400 }).withFlow "icmp" {}
    let x (n : UInt64) : TrafficExpectation := { flows := .ofList ["udp", "tcp"], framesRx := n }
    Check.traffic.outcome source (e.withTraffic (x 1000)) = .ok true ∧
      (∃ m, source.flow? "udp" = some m) ∧
      Check.traffic.outcome source (e.withTraffic (x 1001)) = .ok false := by
  intro source e x
  have hexpected : ∀ n, ∀ name ∈ (x n).flows, ∃ k,
      (e.withTraffic (x n)).flowFrames? name = some k := by
    intro n name hname
    have hname : name ∈ ["tcp", "udp"] := hname
    rw [List.mem_pair] at hname
    obtain rfl | rfl := hname
    · exact ⟨400, rfl⟩
    · exact ⟨600, rfl⟩
  have hsum : ∀ n, (e.withTraffic (x n)).framesExpected (x n).flows.toList = 1000 := fun _ => rfl
  have hflows : ∀ n, Check.flows.outcome source (e.withTraffic (x n)) = .ok true := fun _ => rfl
  have hfits : ∀ n, (e.withTraffic (x n)).framesExpected (x n).flows.toList < 2 ^ 64 := by
    intro n
    rw [hsum]
    decide
  have htotal := ((traffic_agrees_with_flows source _ (x 1000) rfl).1 (hexpected _) (hfits _)
    (hflows _)).2.mpr rfl
  refine ⟨htotal, (traffic_agrees_with_flows source _ (x 1000) rfl).2 htotal "udp" ?_, ?_⟩
  · exact OrderedSet.mem_ofList.mpr List.mem_cons_self
  · obtain ⟨⟨answer, hanswer⟩, hiff⟩ := (traffic_agrees_with_flows source _ (x 1001) rfl).1
      (hexpected _) (hfits _) (hflows _)
    cases answer with
    | false => exact hanswer
    | true =>
        have hwrong : 1001 = 1000 := (hiff.mp hanswer).trans (hsum _)
        exact absurd hwrong (by decide)

end Expectation

end Convergence
