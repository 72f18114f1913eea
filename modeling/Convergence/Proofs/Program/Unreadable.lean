import Convergence.Proofs.Check.Unread
import Convergence.Proofs.Program.Exit
import Convergence.Proofs.Snapshot.Call
import Convergence.Proofs.Snapshot.Source

/-!
# `Convergence.Proofs.Program.Unreadable`: a run on a snapshot that cannot be read

A file that holds no document answers nothing, so an inspection of it ends with its first read.
That is the end of the run, too: a failed read is not tried again.  The one way around it is not to
read, and a total of no flows is decided without a read.

`Arguments.run_unreadable` says which of the two it is, for every expectation and however the file
fails to be read from one time to the next.
-/

set_option autoImplicit false

namespace Convergence

namespace Snapshot

variable {α : Type} {s : Snapshot} {start : Nat} {err : ReadError}

/-- The file holds no document at any read.  It may fail to do so in a different way every time. -/
def Unreadable (s : Snapshot) : Prop := ∀ n, ¬∃ d, (s.history n).HoldsDocument d

/-- To a call, a file that is refused at its first read answers nothing at all. -/
theorem call_of_refuses (h : (s.history start).Refuses s.name err) (x : Inspection α) :
    s.call x start = (x.run (.failing err), start + (x.asked (.failing err)).length) := by
  refine call_eq_of_answers_asked fun j p hp => ?_
  obtain ⟨hj, -⟩ := List.getElem?_eq_some_iff.mp hp
  -- There is no second read that would have to find the file refused as well.
  obtain rfl := Nat.lt_one_iff.mp (Nat.lt_of_lt_of_le hj (Inspection.length_asked_failing x))
  rw [Nat.add_zero, h.source_eq]
  rfl

/-- What reads, fails with its first read, and makes no other. -/
theorem call_eq_error_of_refuses {e : Expectation} (h : (s.history start).Refuses s.name err)
    (hempty : e.isEmpty = false) (he : ¬∃ x, e.DecidedUnread x) :
    (s.call e.inspect start).1.result = .error err ∧ (s.call e.inspect start).2 = start + 1 := by
  rw [call_of_refuses h]
  rcases Check.inspectAll_failing e err (Check.enabled e) with ⟨b, hb⟩ | ⟨hresult, hlength⟩
  · exact absurd (Expectation.exists_decidedUnread hempty hb) he
  · exact ⟨hresult, congrArg (start + ·) hlength⟩

/-- What is decided without a read is decided all the same. -/
theorem call_eq_ok_of_refuses {e : Expectation} {x : TrafficExpectation}
    (h : (s.history start).Refuses s.name err) (hx : e.DecidedUnread x) :
    (s.call e.inspect start).1.result = .ok (x.framesRx == 0) ∧
      (s.call e.inspect start).2 = start := by
  have hanswer : (e.inspect.run (.failing err)).result = .ok (x.framesRx == 0) := hx.outcome_eq _
  rw [call_of_refuses h, Inspection.asked_failing_of_result_eq_ok hanswer]
  exact ⟨hanswer, rfl⟩

end Snapshot

namespace Plan

variable {p : Plan} {s : Snapshot} {label : String} {err : ReadError}

/-- What an evaluation answers is the result of its call. -/
theorem answerAt_eq (p : Plan) (s : Snapshot) (k : Nat) :
    p.answerAt s k = (s.call p.expected.inspect
      (p.policy.stateAt (s.condition p.expected) {} k).reads).1.result := by
  rw [answerAt, Policy.evaluationAt, Snapshot.condition_eq]

/-- The first evaluation is the last one if its answer is not false. -/
theorem isLast_zero (h : p.answerAt s 0 ≠ .ok false) : p.IsLast s 0 :=
  ⟨.inl h, fun k _ => k.zero_le⟩

/-- A run whose first call fails ends with it. -/
theorem exists_run_of_call_eq_error (hexpected : p.expected.isEmpty = false)
    (h : (s.call p.expected.inspect 0).1.result = .error err) :
    ∃ r, (∀ fuel, 0 < fuel → p.run label s fuel = some r) ∧
      r.ending = .polled (.error (.failed label err)) ∧
      r.used = ⟨(s.call p.expected.inspect 0).2, 1⟩ := by
  have hanswer : p.answerAt s 0 = .error err := (p.answerAt_eq s 0).trans h
  have hlast : p.IsLast s 0 := isLast_zero fun hfalse => nomatch hanswer.symm.trans hfalse
  let f := p.policy.finishedAt label (s.condition p.expected) {} 0
  refine ⟨{
    ending := .polled f.result
    reported := p.announcement label :: f.events
    used := f.state
    elapsed := f.elapsed }, fun fuel hfuel => ?_, ?_, rfl⟩
  · have hpoll : p.policy.waitFor label (s.condition p.expected) fuel { state := {} } = some f :=
      Policy.waitFor_eq_some p.policy label (s.condition p.expected) {} hlast.1
        (fun k hk => Policy.not_stops_of_lt hlast hk) hfuel
    rw [run_of_not_isEmpty hexpected, hpoll]
    rfl
  · show Ending.polled (Policy.conclusion label _ _ (p.answerAt s 0)) = _
    rw [hanswer]
    rfl

end Plan

namespace Arguments

/-- **A snapshot that cannot be read.**  Let something be expected, and let no read find a document.
Unless a total of no flows decides, every call fails with the error of its first read, so the run
ends with two after its first evaluation, and the one read of it.  If such a total decides, every
call has the answer without a read.  Then a total that holds ends the run with zero, and one that
does not hold with one, after the timeout. -/
theorem run_unreadable {a : Arguments} {configured : Policy} {file : FileState} {p : Plan}
    {s : Snapshot} (hp : p.IsFor a configured file) (hexpected : p.expected.isEmpty = false)
    (hs : s.Unreadable) :
    ((¬∃ x, p.expected.DecidedUnread x) →
      (∀ start, ∃ err, (s.history start).Refuses s.name err ∧
        (s.call p.expected.inspect start).1.result = .error err) ∧
      ∃ err r, (s.history 0).Refuses s.name err ∧
        (∀ fuel, 0 < fuel → a.run configured file s fuel = some r) ∧
        r.ending = .polled (.error (.failed a.label err)) ∧ r.ending.status.code = 2 ∧
        r.used.evaluations = 1 ∧ r.used.reads = 1) ∧
    (∀ x, p.expected.DecidedUnread x →
      (∀ start, (s.call p.expected.inspect start).1.result = .ok (x.framesRx == 0) ∧
        (s.call p.expected.inspect start).2 = start) ∧
      (x.framesRx = 0 → ∀ fuel, 0 < fuel → ∃ r, a.run configured file s fuel = some r ∧
        r.ending.status.code = 0 ∧ r.used.evaluations = 1) ∧
      (x.framesRx ≠ 0 →
        (∀ fuel r, a.run configured file s fuel = some r → r.ending.status.code = 1) ∧
        (0 < p.policy.interval → ∃ fuel r, a.run configured file s fuel = some r))) := by
  have hrefused : ∀ n, ∃ err, (s.history n).Refuses s.name err :=
    fun n => (FileState.exists_refuses_iff s.name).mpr (hs n)
  simp only [run_of_isFor hp]
  refine ⟨fun hreads => ⟨fun start => ?_, ?_⟩, fun x hx => ?_⟩
  · obtain ⟨err, herr⟩ := hrefused start
    exact ⟨err, herr, (Snapshot.call_eq_error_of_refuses herr hexpected hreads).1⟩
  · obtain ⟨err, herr⟩ := hrefused 0
    obtain ⟨hresult, hcount⟩ := Snapshot.call_eq_error_of_refuses herr hexpected hreads
    obtain ⟨r, hr, hending, hused⟩ := Plan.exists_run_of_call_eq_error hexpected hresult
    refine ⟨err, r, herr, hr, hending, ?_, ?_, ?_⟩
    · rw [hending]
      rfl
    · rw [hused]
    · rw [hused, hcount]
  · have hcall : ∀ start, (s.call p.expected.inspect start).1.result = .ok (x.framesRx == 0) ∧
        (s.call p.expected.inspect start).2 = start := by
      intro start
      obtain ⟨err, herr⟩ := hrefused start
      exact Snapshot.call_eq_ok_of_refuses herr hx
    have hanswer : ∀ k, p.answerAt s k = .ok (x.framesRx == 0) :=
      fun k => (p.answerAt_eq s k).trans (hcall _).1
    refine ⟨hcall, fun hzero fuel hfuel => ?_,
      fun hne => ⟨fun fuel r hr => ?_, fun hinterval => ?_⟩⟩
    · rw [hzero] at hanswer
      have hlast : p.IsLast s 0 :=
        Plan.isLast_zero fun hfalse => nomatch (hanswer 0).symm.trans hfalse
      obtain ⟨r, hr, hend⟩ := Plan.exists_run_endsWith hexpected hlast hfuel
      exact ⟨r, hr, hend.code.converged.mpr (hanswer 0), hend.evaluations⟩
    · obtain ⟨last, -, -, hend⟩ := Plan.exists_endsWith_of_run hexpected hr
      rw [beq_eq_false_iff_ne.mpr hne] at hanswer
      exact hend.code.timedOut.mpr (hanswer last)
    · obtain ⟨last, hlast⟩ := p.exists_isLast s hinterval
      obtain ⟨r, hr, -⟩ := Plan.exists_run_endsWith hexpected hlast last.lt_succ_self
      exact ⟨_, r, hr⟩

/-- The snapshot is missing at first, and then a directory stands in its place.  An interface ends
the run with two, and a total of no flows and no frames ends it with zero. -/
theorem run_unreadable_link :
    let a : Arguments := ⟨"s.json", "e.toml", none, none, none, none⟩
    let s : Snapshot :=
      { name := "s.json", history := fun n => if n = 0 then .missing else .directory }
    (∃ r, (∀ fuel, 0 < fuel →
        a.run {} (.content "[dut-interfaces]\neth0 = \"up\"\n".toUTF8) s fuel = some r) ∧
      r.ending.status.code = 2 ∧ r.used.reads = 1) ∧
    ∃ r, a.run {} (.content "[traffic]\nflows = []\nframes-rx = 0\n".toUTF8) s 1 = some r ∧
      r.ending.status.code = 0 := by
  intro a s
  have hs : s.Unreadable := by
    rintro n ⟨d, text, htext, -⟩
    dsimp only [s] at htext
    split at htext <;> cases htext
  constructor
  · let e := ({} : Expectation).withInterface "eth0" .up
    have hp : Plan.IsFor ⟨{}, e⟩ a {} (.content "[dut-interfaces]\neth0 = \"up\"\n".toUTF8) :=
      ⟨⟨rfl, rfl⟩, _, rfl, by decide +kernel⟩
    have hreads : ¬∃ x, e.DecidedUnread x := fun ⟨x, hx⟩ => nomatch hx.traffic
    obtain ⟨-, err, r, -, hr, -, hcode, -, hcount⟩ := (run_unreadable hp rfl hs).1 hreads
    exact ⟨r, hr, hcode, hcount⟩
  · let e : Expectation := { traffic := some {} }
    have hp : Plan.IsFor ⟨{}, e⟩ a {}
        (.content "[traffic]\nflows = []\nframes-rx = 0\n".toUTF8) :=
      ⟨⟨rfl, rfl⟩, _, rfl, by decide +kernel⟩
    have hx : e.DecidedUnread {} := ⟨rfl, rfl, rfl, rfl, fun _ => rfl⟩
    obtain ⟨-, hzero, -⟩ := (run_unreadable hp rfl hs).2 {} hx
    obtain ⟨r, hr, hcode, -⟩ := hzero rfl 1 Nat.one_pos
    exact ⟨r, hr, hcode⟩

/-- It is not enough that something is expected: a total of no flows and no frames holds without a
snapshot. -/
theorem not_forall_run_unreadable :
    ¬∀ (a : Arguments) (configured : Policy) (file : FileState) (p : Plan) (s : Snapshot),
      p.IsFor a configured file → p.expected.isEmpty = false → s.Unreadable →
        (∃ err, (s.call p.expected.inspect 0).1.result = .error err) ∧
        ∀ fuel r, a.run configured file s fuel = some r →
          r.ending.status.code = 2 ∧ r.used.evaluations = 1 := by
  intro h
  let a : Arguments := ⟨"s.json", "e.toml", none, none, none, none⟩
  let e : Expectation := { traffic := some {} }
  let s : Snapshot := { name := "s.json", history := FileState.missing.always }
  have hp : Plan.IsFor ⟨{}, e⟩ a {} (.content "[traffic]\nflows = []\nframes-rx = 0\n".toUTF8) :=
    ⟨⟨rfl, rfl⟩, _, rfl, by decide +kernel⟩
  have hs : s.Unreadable := fun _ ⟨_, _, htext, _⟩ => nomatch htext
  obtain ⟨⟨err, herr⟩, -⟩ := h a {} _ ⟨{}, e⟩ s hp rfl hs
  have hcall : (s.call e.inspect 0).1.result = .ok true := rfl
  cases hcall.symm.trans herr

end Arguments

end Convergence
