import Convergence.Proofs.Poll.Schedule
import Mathlib.Order.Bounds.Defs
import Mathlib.Order.Nat

/-!
# `Convergence.Proofs.Poll.Outcome`: when a poll ends, and with what

`waitForTimer_outcome` is the complete law of a poll that can fail.  Lay the evaluations out on
the clock (`Convergence.Proofs.Poll.Schedule`) and take the first one that stops the poll.  The
poll makes the evaluations up to that one and no other, each at its scheduled time, and ends when
that one has ended, with what its answer says.  If there is no such evaluation, the poll does not
end.

The order of the four decisions is what the law is about.  An answer counts before the deadline is
looked at, so that a condition that holds, or that cannot be evaluated, is reported as such even
when its evaluation ends late; and nobody sleeps once the outcome is known.
-/

set_option autoImplicit false

namespace Convergence.Policy

variable {σ ε : Type}

/-- A poll that can be counted reports the number of its evaluations. -/
theorem toNat_attempts {n : Nat} (h : n < UInt32.size) : (UInt32.ofNat n).toNat = n :=
  UInt32.toNat_ofNat_of_lt' h

/-- Before the first evaluation that stops the poll there is none that does. -/
theorem not_stops_of_lt {p : Policy} {condition : Condition σ ε} {state : σ} {i k : Nat}
    (hk : IsLeast {i | p.Stops condition state i} k) (hi : i < k) :
    ¬p.Stops condition state i := by
  intro hstops
  exact absurd (hk.2 hstops) (Nat.not_le.mpr hi)

/-- Where an evaluation stops the poll, there is a first one that does. -/
theorem exists_isLeast_of_stops {p : Policy} {condition : Condition σ ε} {state : σ} {i : Nat}
    (hi : p.Stops condition state i) : ∃ k, IsLeast {i | p.Stops condition state i} k := by
  classical
  exact ⟨_, Nat.isLeast_find ⟨i, hi⟩⟩

/-- A poll on a timer ends at the first evaluation that stops it. -/
theorem waitForTimer_eq_some (p : Policy) (label : String) (condition : Condition σ ε) (state : σ)
    {fuel k : Nat} (hk : IsLeast {i | p.Stops condition state i} k) (hfuel : k < fuel) :
    p.waitForTimer label condition fuel state = some (p.finishedAt label condition state k) := by
  rw [waitForTimer_eq_waitFor]
  exact waitFor_eq_some p label condition state hk.1 (fun i hi => not_stops_of_lt hk hi) hfuel

/-- A poll on a timer is abandoned before the first evaluation that stops it. -/
theorem waitForTimer_eq_none (p : Policy) (label : String) (condition : Condition σ ε) (state : σ)
    {fuel : Nat} (h : ∀ i < fuel, ¬p.Stops condition state i) :
    p.waitForTimer label condition fuel state = none := by
  rw [waitForTimer_eq_waitFor]
  exact waitFor_eq_none p label condition state h

/-- A poll on a timer is given enough exactly if it is given the first evaluation that stops it. -/
theorem waitForTimer_eq_ite (p : Policy) (label : String) (condition : Condition σ ε) (state : σ)
    {k : Nat} (hk : IsLeast {i | p.Stops condition state i} k) (fuel : Nat) :
    p.waitForTimer label condition fuel state
      = if k < fuel then some (p.finishedAt label condition state k) else none := by
  split
  · rename_i hfuel
    exact waitForTimer_eq_some p label condition state hk hfuel
  · rename_i hfuel
    refine waitForTimer_eq_none p label condition state fun i hi => ?_
    exact not_stops_of_lt hk (Nat.lt_of_lt_of_le hi (Nat.le_of_not_lt hfuel))

/-- A poll that has ended, whichever way it waits, was given the first evaluation that stops it, and
has ended there. -/
theorem exists_eq_finishedAt (p : Policy) (label : String) (condition : Condition σ ε) (state : σ)
    {fuel : Nat} {f : Finished σ ε}
    (hf : p.waitFor label condition fuel { state } = some f ∨
      p.waitForTimer label condition fuel state = some f) :
    ∃ k < fuel, IsLeast {i | p.Stops condition state i} k ∧
      f = p.finishedAt label condition state k := by
  rw [← waitForTimer_eq_waitFor, or_self] at hf
  obtain ⟨k, hk⟩ : ∃ k, IsLeast {i | p.Stops condition state i} k := by
    by_contra hnever
    rw [p.waitForTimer_eq_none label condition state fun i _ hi =>
      hnever (exists_isLeast_of_stops hi)] at hf
    cases hf
  rw [p.waitForTimer_eq_ite label condition state hk] at hf
  split at hf
  · rename_i hfuel
    exact ⟨k, hfuel, hk, (Option.some.inj hf).symm⟩
  · cases hf

/-- **The outcome of a poll.**  Let evaluation `k`, counted from zero, be the first one that does
not answer false, or that ends with the deadline reached, or the first of all if the interval
alone exceeds the timeout.  Then a poll that is given `k` evaluations or fewer has not ended, and
one that is given more makes exactly the first `k + 1` of them, at their times on the schedule,
and ends when evaluation `k` ends.  It converges if that one answered true; it fails with the
error that it gave; and if it answered false the poll has timed out, which it reports with that
time and with the number of evaluations.  Without such an evaluation the poll never ends. -/
theorem waitForTimer_outcome (p : Policy) (label : String) (condition : Condition σ ε)
    (state : σ) :
    (∀ k, IsLeast {i | p.Stops condition state i} k → ∀ fuel,
      (fuel ≤ k → p.waitForTimer label condition fuel state = none) ∧
      (k < fuel → ∃ f, p.waitForTimer label condition fuel state = some f ∧
        f.starts = (List.range (k + 1)).map (p.startAt condition state) ∧
        f.state = p.stateAt condition state (k + 1) ∧
        f.elapsed = p.endAt condition state k ∧
        ((p.evaluationAt condition state k).answer = .ok true → f.result = .ok ()) ∧
        (∀ e, (p.evaluationAt condition state k).answer = .error e →
          f.result = .error (.failed label e)) ∧
        ((p.evaluationAt condition state k).answer = .ok false → ∃ attempts : UInt32,
          f.result = .error (.timeout label (p.endAt condition state k) attempts) ∧
            (k + 1 < UInt32.size → attempts.toNat = k + 1)))) ∧
    ((∀ k, ¬p.Stops condition state k) → ∀ fuel,
      p.waitForTimer label condition fuel state = none) := by
  refine ⟨fun k hk fuel => ⟨fun hle => ?_, fun hlt => ?_⟩, fun hnever fuel => ?_⟩
  · -- Every evaluation that the poll is given comes before the one that would stop it.
    refine waitForTimer_eq_none p label condition state fun i hi => ?_
    exact not_stops_of_lt hk (Nat.lt_of_lt_of_le hi hle)
  · refine ⟨p.finishedAt label condition state k,
      waitForTimer_eq_some p label condition state hk hlt, rfl, rfl, rfl, ?_, ?_, ?_⟩
    · intro htrue
      show conclusion label _ _ _ = _
      rw [htrue]
      rfl
    · intro e herror
      show conclusion label _ _ _ = _
      rw [herror]
      rfl
    · intro hfalse
      refine ⟨.ofNat (k + 1), ?_, toNat_attempts⟩
      show conclusion label _ _ _ = _
      rw [hfalse]
      rfl
  · exact waitForTimer_eq_none p label condition state fun i _ => hnever i

/-- Two evaluations of one unit of time each, two units apart, under a timeout of three: the
second one ends at four, past the deadline, and its answer true still counts.  Without an interval
and with evaluations that take no time, the clock stands still and the poll does not end. -/
theorem waitForTimer_outcome_late :
    (∃ f : Finished Nat String,
      waitForTimer ⟨2, 3⟩ "links up" (fun n _ => ({ answer := .ok (n == 1), took := 1 }, n + 1))
          5 0 = some f ∧
        f.starts = [0, 3] ∧ f.elapsed = 4 ∧ f.result = .ok ()) ∧
    (∀ fuel, waitForTimer (ε := String) ⟨0, 3⟩ "links up"
      (fun n _ => ({ answer := .ok false }, n)) fuel 0 = none) := by
  constructor
  · let condition : Condition Nat String := fun n _ =>
      ({ answer := .ok (n == 1), took := 1 }, n + 1)
    have hleast : IsLeast {i | Stops ⟨2, 3⟩ condition 0 i} 1 := by
      refine ⟨.inl nofun, fun i hi => Nat.one_le_iff_ne_zero.mpr fun hzero => ?_⟩
      -- The first evaluation answers false at time one, before the deadline.
      subst hzero
      rcases hi with h | h | h
      · exact h rfl
      · exact absurd h (by decide)
      · exact absurd h (by decide)
    obtain ⟨f, hf, hstarts, -, helapsed, htrue, -, -⟩ :=
      ((waitForTimer_outcome ⟨2, 3⟩ "links up" condition 0).1 1 hleast 5).2 (by decide)
    exact ⟨f, hf, hstarts, helapsed, htrue rfl⟩
  · let condition : Condition Nat String := fun n _ => ({ answer := .ok false }, n)
    have hend : ∀ k, endAt ⟨0, 3⟩ condition 0 k = 0 := by
      intro k
      induction k with
      | zero => rfl
      | succ k ih => exact ih
    refine (waitForTimer_outcome ⟨0, 3⟩ "links up" condition 0).2 fun k hk => ?_
    rcases hk with h | h | h
    · exact h rfl
    · exact absurd h (by decide)
    · rw [hend] at h
      exact absurd h (by decide)

end Convergence.Policy
