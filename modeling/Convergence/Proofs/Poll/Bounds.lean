import Convergence.Proofs.Poll.Outcome
import Mathlib.Algebra.Order.Floor.Div

/-!
# `Convergence.Proofs.Poll.Bounds`: how long a poll takes

What brings a poll to its end is the distance to the deadline and not a counter.  Evaluation `k`
begins no earlier than after `k` intervals, however little time the evaluations take
(`mul_interval_le_startAt`), so an evaluation whose index reaches the timeout divided by the
interval, rounded up, stops the poll if none did before.  And an evaluation that is made after
another one begins an interval after a time before the deadline (`startAt_lt_of_not_stops`).

`waitForTimer_bounds` says what follows for the number of evaluations, for the times at which they
begin, and for the time that a timeout reports.
-/

set_option autoImplicit false

namespace Convergence.Policy

variable {σ ε : Type}

section
variable (p : Policy) (condition : Condition σ ε) (state : σ)

/-- Before evaluation `k` lie `k` intervals. -/
theorem mul_interval_le_startAt (k : Nat) :
    k * p.interval ≤ p.startAt condition state k := by
  induction k with
  | zero => simp
  | succ k ih =>
      have hend : k * p.interval ≤ p.endAt condition state k :=
        Nat.le_trans ih (p.startAt_le_endAt condition state k)
      rw [startAt_succ, Nat.succ_mul]
      exact Nat.add_le_add_right hend _

/-- An evaluation that lies as many intervals after the start as the timeout holds, rounded up,
stops the poll. -/
theorem stops_ceilDiv (hinterval : 0 < p.interval) :
    p.Stops condition state (p.timeout ⌈/⌉ p.interval) := by
  refine .inr (.inr ?_)
  calc p.timeout ≤ p.interval * (p.timeout ⌈/⌉ p.interval) :=
        (ceilDiv_le_iff_le_mul hinterval).mp (Nat.le_refl _)
    _ = (p.timeout ⌈/⌉ p.interval) * p.interval := Nat.mul_comm _ _
    _ ≤ p.startAt condition state _ := p.mul_interval_le_startAt condition state _
    _ ≤ p.endAt condition state _ := p.startAt_le_endAt condition state _

/-- Under a timeout that holds no interval, or none at all, the first evaluation stops the
poll. -/
theorem stops_zero (h : p.timeout < p.interval ∨ p.timeout = 0) :
    p.Stops condition state 0 := by
  rcases h with h | h
  · exact .inr (.inl h)
  · exact .inr (.inr (by rw [h]; exact Nat.zero_le _))

/-- With an interval between its evaluations a poll has a last one. -/
theorem exists_isLeast_stops (hinterval : 0 < p.interval) :
    ∃ k, IsLeast {i | p.Stops condition state i} k :=
  exists_isLeast_of_stops (p.stops_ceilDiv condition state hinterval)

/-- The evaluation after one that does not stop the poll begins less than an interval after the
deadline. -/
theorem startAt_lt_of_not_stops {k : Nat} (h : ¬p.Stops condition state k) :
    p.startAt condition state (k + 1) < p.timeout + p.interval := by
  obtain ⟨-, -, hend⟩ := (p.not_stops_iff condition state k).mp h
  rw [startAt_succ]
  exact Nat.add_lt_add_right hend _

/-- Every evaluation up to the last one begins less than an interval after the deadline. -/
theorem startAt_lt (hinterval : 0 < p.interval) {k : Nat}
    (hbefore : ∀ i < k, ¬p.Stops condition state i) :
    p.startAt condition state k < p.timeout + p.interval := by
  cases k with
  | zero =>
      rw [startAt_zero]
      exact Nat.lt_of_lt_of_le hinterval (Nat.le_add_left _ _)
  | succ k => exact p.startAt_lt_of_not_stops condition state (hbefore k (Nat.lt_succ_self k))

/-- Evaluations that take no time lie an interval apart. -/
theorem startAt_eq_mul {n k : Nat} (hk : k ≤ n)
    (htook : ∀ i ≤ n, (p.evaluationAt condition state i).took = 0) :
    p.startAt condition state k = k * p.interval := by
  induction k with
  | zero => simp
  | succ k ih =>
      rw [startAt_succ, endAt, htook k (by omega), ih (by omega), Nat.succ_mul]
      rfl

/-- Evaluations that take no time end where they begin. -/
theorem endAt_eq_mul {n k : Nat} (hk : k ≤ n)
    (htook : ∀ i ≤ n, (p.evaluationAt condition state i).took = 0) :
    p.endAt condition state k = k * p.interval := by
  rw [endAt, htook k hk, p.startAt_eq_mul condition state hk htook]
  rfl

/-- A poll whose evaluations take no time and answer false has its last evaluation at the first
multiple of the interval that is not before the deadline. -/
theorem eq_ceilDiv_of_isLeast {k : Nat} (hinterval : 0 < p.interval)
    (hk : IsLeast {i | p.Stops condition state i} k)
    (hle : p.interval ≤ p.timeout)
    (htook : ∀ i ≤ k, (p.evaluationAt condition state i).took = 0)
    (hfalse : ∀ i ≤ k, (p.evaluationAt condition state i).answer = .ok false) :
    k = p.timeout ⌈/⌉ p.interval := by
  have hend : p.endAt condition state k = k * p.interval :=
    p.endAt_eq_mul condition state (Nat.le_refl k) htook
  have hupper : k ≤ p.timeout ⌈/⌉ p.interval := hk.2 (p.stops_ceilDiv condition state hinterval)
  refine Nat.le_antisymm hupper ((ceilDiv_le_iff_le_mul hinterval).mpr ?_)
  -- The last evaluation answers false within a timeout that holds an interval, so only the
  -- deadline can have stopped the poll.
  rcases hk.1 with h | h | h
  · exact absurd (hfalse k (Nat.le_refl k)) h
  · exact absurd hle (Nat.not_le.mpr h)
  · rw [hend] at h
    rw [Nat.mul_comm]
    exact h

end

/-- **Bounds on a poll with an interval.**  The poll ends, whatever its evaluations answer and
however long they take: it has a last evaluation, of index `last` counted from zero, and is over
as soon as it is given that many.  There are at most as many as the timeout holds intervals,
rounded up, and one more; there is only one if the timeout holds no interval or is zero.  Those
after the first begin less than an interval after the deadline.  A timeout is reported with a time
that is not before the deadline and exceeds it by less than an interval and the last evaluation's
length.  If no evaluation takes any time and all answer false, they lie on the multiples of the
interval up to the first that is not before the deadline, which is the time that is reported. -/
theorem waitForTimer_bounds (p : Policy) (label : String) (condition : Condition σ ε) (state : σ)
    (hinterval : 0 < p.interval) :
    ∃ (last : Nat) (f : Finished σ ε),
      f.starts.length = last + 1 ∧
      (∀ fuel, p.waitForTimer label condition fuel state
        = if last < fuel then some f else none) ∧
      last + 1 ≤ p.timeout ⌈/⌉ p.interval + 1 ∧
      (p.timeout < p.interval ∨ p.timeout = 0 → last + 1 = 1) ∧
      (∀ start ∈ f.starts.tail, start < p.timeout + p.interval) ∧
      (p.interval ≤ p.timeout → ∀ c elapsed attempts,
        f.result = .error (.timeout c elapsed attempts) →
          p.timeout ≤ elapsed ∧
          elapsed < p.timeout + p.interval + (p.evaluationAt condition state last).took) ∧
      (p.interval ≤ p.timeout →
        (∀ i ≤ last, (p.evaluationAt condition state i).took = 0) →
        (∀ i ≤ last, (p.evaluationAt condition state i).answer = .ok false) →
          f.starts = (List.range (p.timeout ⌈/⌉ p.interval + 1)).map (· * p.interval) ∧
          f.elapsed = (p.timeout ⌈/⌉ p.interval) * p.interval ∧
          ∃ attempts, f.result
            = .error (.timeout label ((p.timeout ⌈/⌉ p.interval) * p.interval) attempts)) := by
  obtain ⟨k, hk⟩ := p.exists_isLeast_stops condition state hinterval
  have hbefore : ∀ i < k, ¬p.Stops condition state i := by
    intro i hi
    exact not_stops_of_lt hk hi
  refine ⟨k, p.finishedAt label condition state k, ?_, ?_, ?_, ?_, ?_, ?_, ?_⟩
  · simp [finishedAt]
  · intro fuel
    split
    · rename_i hfuel
      exact waitForTimer_eq_some p label condition state hk hfuel
    · rename_i hfuel
      exact waitForTimer_eq_none p label condition state fun i hi => hbefore i (by omega)
  · exact Nat.succ_le_succ (hk.2 (p.stops_ceilDiv condition state hinterval))
  · intro hsmall
    have hzero : k ≤ 0 := hk.2 (p.stops_zero condition state hsmall)
    omega
  · intro start hstart
    -- The tail of the starts begins with that of evaluation one.
    obtain ⟨i, hi, rfl⟩ : ∃ i < k, p.startAt condition state (i + 1) = start := by
      simpa [finishedAt, List.range_succ_eq_map] using hstart
    exact p.startAt_lt_of_not_stops condition state (hbefore i hi)
  · intro hle c elapsed attempts hresult
    obtain ⟨hfalse, -, rfl, -⟩ := (conclusion_eq_timeout_iff label).mp hresult
    have hstart := p.startAt_lt condition state hinterval hbefore
    refine ⟨?_, Nat.add_lt_add_right hstart _⟩
    rcases hk.1 with h | h | h
    · exact absurd hfalse h
    · exact absurd hle (Nat.not_le.mpr h)
    · exact h
  · intro hle htook hfalse
    have hlast := p.eq_ceilDiv_of_isLeast condition state hinterval hk hle htook hfalse
    have hstarts : ∀ i ≤ k, p.startAt condition state i = i * p.interval := fun i hi =>
      p.startAt_eq_mul condition state hi htook
    have hend : p.endAt condition state k = k * p.interval :=
      p.endAt_eq_mul condition state (Nat.le_refl k) htook
    rw [← hlast, ← hend]
    refine ⟨?_, rfl, .ofNat (k + 1), ?_⟩
    · show (List.range (k + 1)).map _ = _
      exact List.map_congr_left fun i hi =>
        hstarts i (Nat.le_of_lt_succ (List.mem_range.mp hi))
    · show conclusion label _ _ _ = _
      rw [hfalse k (Nat.le_refl k)]
      rfl

/-- A condition that is looked at every second, takes no time and never holds has been looked at
61 times when a minute has passed, and the poll ends on the minute. -/
theorem waitForTimer_bounds_minute :
    0 < Duration.ofMillis 1000 ∧
      ∃ f : Finished Unit String,
        waitForTimer ⟨.ofMillis 1000, .ofMillis 60000⟩ "LAG up"
            (fun s _ => ({ answer := .ok false }, s)) 61 () = some f ∧
          f.starts.length = 61 ∧ f.elapsed = .ofMillis 60000 ∧
          ∃ attempts, f.result = .error (.timeout "LAG up" (.ofMillis 60000) attempts) := by
  refine ⟨by decide, ?_⟩
  obtain ⟨last, f, hlength, hfuel, -, -, -, -, hsteady⟩ :=
    waitForTimer_bounds (ε := String) ⟨.ofMillis 1000, .ofMillis 60000⟩ "LAG up"
      (fun s _ => ({ answer := .ok false }, s)) () (by decide)
  obtain ⟨hstarts, helapsed, hresult⟩ :=
    hsteady (by decide) (fun _ _ => rfl) (fun _ _ => rfl)
  have hceil : Duration.ofMillis 60000 ⌈/⌉ Duration.ofMillis 1000 = 60 := by
    rw [Nat.ceilDiv_eq_add_pred_div]
    decide
  simp only [hceil] at hstarts helapsed hresult
  have hcount : f.starts.length = 61 := by
    rw [hstarts, List.length_map, List.length_range]
  refine ⟨f, ?_, hcount, helapsed, hresult⟩
  rw [hfuel, if_pos (by omega)]

end Convergence.Policy
