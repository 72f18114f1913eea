import Convergence.Proofs.Poll.Bounds
import Mathlib.Order.Bounds.Basic
import Mathlib.Order.Nat

/-!
# `Convergence.Proofs.Poll.Flip`: a condition that comes to hold is seen

A condition does not hold at first, comes to hold at some time and holds from then on.  A poll
looks at it again and again, and each look tells how things stand when the look is over
(`Observes`).  Then the poll stops at the first evaluation that ends with the condition holding or
with the deadline reached (`Observes.stops_iff`), and the question is which of the two comes first.

`waitForTimer_converges` is the answer.  A condition that comes to hold up to the deadline is never
missed, and the evaluation that sees it begins less than an interval late.  If evaluations take no
time, the poll looks at multiples of the interval, the last of them being the first that is not
before the deadline, so that a condition may come to hold after the deadline and still be seen.
-/

set_option autoImplicit false

namespace Convergence.Policy

variable {σ ε : Type}

section
variable (p : Policy) (condition : Condition σ ε) (state : σ)

/-- Each evaluation answers whether the condition holds when the evaluation ends, of a condition
that holds from the time `flip` on and not before. -/
def Observes (flip : Duration) : Prop :=
  ∀ k, (p.evaluationAt condition state k).answer
    = .ok (decide (flip ≤ p.endAt condition state k))

variable {p condition state} {flip : Duration}

/-- It is enough that this holds of an evaluation in any state and at any time. -/
theorem observes_of_forall
    (h : ∀ s now, (condition s now).1.answer
      = .ok (decide (flip ≤ now + (condition s now).1.took))) :
    p.Observes condition state flip := by
  intro k
  exact h (p.stateAt condition state k) (p.startAt condition state k)

/-- Under a timeout that holds an interval, an evaluation stops the poll exactly if it ends with
the condition holding or with the deadline reached. -/
theorem Observes.stops_iff (h : p.Observes condition state flip) (hle : p.interval ≤ p.timeout)
    (k : Nat) :
    p.Stops condition state k
      ↔ flip ≤ p.endAt condition state k ∨ p.timeout ≤ p.endAt condition state k := by
  have hlt : ¬p.timeout < p.interval := Nat.not_lt.mpr hle
  simp only [Stops, h k, hlt, false_or, ne_eq, Except.ok.injEq, decide_eq_false_iff_not,
    Classical.not_not]

/-- A condition that comes to hold up to the deadline stops the poll before the deadline does. -/
theorem Observes.stops_iff_of_le (h : p.Observes condition state flip)
    (hle : p.interval ≤ p.timeout) (hflip : flip ≤ p.timeout) (k : Nat) :
    p.Stops condition state k ↔ flip ≤ p.endAt condition state k := by
  rw [h.stops_iff hle]
  constructor
  · rintro (hend | hend)
    · exact hend
    · exact Nat.le_trans hflip hend
  · exact .inl

/-- A poll converges at an evaluation exactly if the condition holds when that one ends. -/
theorem Observes.result_finishedAt_iff (h : p.Observes condition state flip) (label : String)
    (k : Nat) :
    (p.finishedAt label condition state k).result = .ok ()
      ↔ flip ≤ p.endAt condition state k := by
  show conclusion label _ _ (p.evaluationAt condition state k).answer = .ok () ↔ _
  rw [h k]
  by_cases hend : flip ≤ p.endAt condition state k
  · simp [hend, conclusion]
  · simp [hend, conclusion]

end

section
variable (p : Policy) (condition : Condition σ ε) (state : σ)

/-- With an interval between the evaluations, there is a first one that does not end before a
given time. -/
theorem exists_isLeast_endAt (hinterval : 0 < p.interval) (time : Duration) :
    ∃ k, IsLeast {i | time ≤ p.endAt condition state i} k := by
  have hex : ∃ k, time ≤ p.endAt condition state k := by
    -- So many intervals take at least that long.
    refine ⟨time, ?_⟩
    calc time ≤ time * p.interval := Nat.le_mul_of_pos_right time hinterval
      _ ≤ p.startAt condition state time := p.mul_interval_le_startAt condition state time
      _ ≤ p.endAt condition state time := p.startAt_le_endAt condition state time
  exact ⟨Nat.find hex, Nat.isLeast_find hex⟩

/-- The first evaluation that does not end before a given time is the first of all, or begins less
than an interval after that time. -/
theorem startAt_lt_of_isLeast_endAt {time : Duration} {k : Nat}
    (hk : IsLeast {i | time ≤ p.endAt condition state i} k) :
    k = 0 ∨ p.startAt condition state k < time + p.interval := by
  cases k with
  | zero => exact .inl rfl
  | succ k =>
      right
      -- The evaluation before it ends too early, and an interval later this one begins.
      have hend : p.endAt condition state k < time := by
        refine Nat.lt_of_not_le fun hle => ?_
        exact absurd (hk.2 hle) (Nat.not_succ_le_self k)
      rw [startAt_succ]
      exact Nat.add_lt_add_right hend p.interval

/-- The first multiple of the interval that is not before a given time. -/
theorem isLeast_ceilDiv (hinterval : 0 < p.interval) (time : Duration) :
    IsLeast {i | time ≤ i * p.interval} (time ⌈/⌉ p.interval) := by
  constructor
  · show time ≤ (time ⌈/⌉ p.interval) * p.interval
    rw [Nat.mul_comm]
    exact (ceilDiv_le_iff_le_mul hinterval).mp (Nat.le_refl _)
  · intro i hi
    rw [ceilDiv_le_iff_le_mul hinterval, Nat.mul_comm]
    exact hi

variable {p condition state} {flip : Duration}

/-- With evaluations that take no time, the poll stops at a multiple of the interval: the first one
at which the condition holds or, if that comes earlier, the first one that is not before the
deadline. -/
theorem Observes.isLeast_stops_min (h : p.Observes condition state flip)
    (hinterval : 0 < p.interval) (hle : p.interval ≤ p.timeout)
    (htook : ∀ k, (p.evaluationAt condition state k).took = 0) :
    IsLeast {i | p.Stops condition state i}
      (min (flip ⌈/⌉ p.interval) (p.timeout ⌈/⌉ p.interval)) := by
  have hstops : {i | p.Stops condition state i}
      = {i | flip ≤ i * p.interval} ∪ {i | p.timeout ≤ i * p.interval} := by
    ext i
    rw [Set.mem_union, Set.mem_ofPred_eq, Set.mem_ofPred_eq, Set.mem_ofPred_eq, h.stops_iff hle,
      p.endAt_eq_mul condition state (Nat.le_refl i) fun j _ => htook j]
  rw [hstops]
  exact (p.isLeast_ceilDiv hinterval flip).union (p.isLeast_ceilDiv hinterval p.timeout)

end

/-- **No convergence is missed.**  Let each evaluation tell whether the condition holds when the
evaluation ends, and let the condition hold from the time `flip` on.  If that is up to the
deadline, the poll ends at the first evaluation that does not end before `flip`, and converges;
this evaluation is the first of all or begins less than an interval after `flip`.

If the evaluations take no time, the poll converges exactly if `flip` is at most the first multiple
of the interval that is not before the deadline, and does so at the first multiple that is not
before `flip`.  In particular it converges on its last evaluation when the condition comes to hold
within the interval before that. -/
theorem waitForTimer_converges (p : Policy) (label : String) (condition : Condition σ ε)
    (state : σ) (flip : Duration) (hinterval : 0 < p.interval) (hle : p.interval ≤ p.timeout)
    (hobserves : p.Observes condition state flip) :
    (flip ≤ p.timeout → ∃ (k : Nat) (f : Finished σ ε),
      IsLeast {i | flip ≤ p.endAt condition state i} k ∧
      (∀ fuel, p.waitForTimer label condition fuel state = if k < fuel then some f else none) ∧
      f.result = .ok () ∧
      f.starts = (List.range (k + 1)).map (p.startAt condition state) ∧
      f.elapsed = p.endAt condition state k ∧
      (k = 0 ∨ p.startAt condition state k < flip + p.interval)) ∧
    ((∀ k, (p.evaluationAt condition state k).took = 0) → ∃ f : Finished σ ε,
      (∀ fuel, p.waitForTimer label condition fuel state
        = if min (flip ⌈/⌉ p.interval) (p.timeout ⌈/⌉ p.interval) < fuel then some f else none) ∧
      (f.result = .ok () ↔ flip ≤ (p.timeout ⌈/⌉ p.interval) * p.interval) ∧
      (f.result = .ok () → f.elapsed = (flip ⌈/⌉ p.interval) * p.interval) ∧
      ((p.timeout ⌈/⌉ p.interval - 1) * p.interval < flip →
        flip ≤ (p.timeout ⌈/⌉ p.interval) * p.interval →
          f.result = .ok () ∧ f.elapsed = (p.timeout ⌈/⌉ p.interval) * p.interval)) := by
  constructor
  · intro hflip
    obtain ⟨k, hk⟩ := p.exists_isLeast_endAt condition state hinterval flip
    have hstops : IsLeast {i | p.Stops condition state i} k := by
      simpa only [hobserves.stops_iff_of_le hle hflip] using hk
    exact ⟨k, p.finishedAt label condition state k, hk,
      p.waitForTimer_eq_ite label condition state hstops,
      (hobserves.result_finishedAt_iff label k).mpr hk.1, rfl, rfl,
      p.startAt_lt_of_isLeast_endAt condition state hk⟩
  · intro htook
    let last := min (flip ⌈/⌉ p.interval) (p.timeout ⌈/⌉ p.interval)
    have hstops : IsLeast {i | p.Stops condition state i} last :=
      hobserves.isLeast_stops_min hinterval hle htook
    have hceil : ∀ {time n : Nat}, time ⌈/⌉ p.interval ≤ n ↔ time ≤ n * p.interval := by
      intro time n
      rw [ceilDiv_le_iff_le_mul hinterval, Nat.mul_comm]
    have hend : p.endAt condition state last = last * p.interval :=
      p.endAt_eq_mul condition state (Nat.le_refl last) fun k _ => htook k
    -- The last evaluation sees the condition hold exactly if the deadline does not come first.
    have hresult : (p.finishedAt label condition state last).result = .ok () ↔
        flip ⌈/⌉ p.interval ≤ p.timeout ⌈/⌉ p.interval := by
      rw [hobserves.result_finishedAt_iff, hend, ← hceil, le_min_iff]
      exact and_iff_right (Nat.le_refl _)
    have helapsed : flip ⌈/⌉ p.interval ≤ p.timeout ⌈/⌉ p.interval →
        p.endAt condition state last = (flip ⌈/⌉ p.interval) * p.interval := by
      intro hbefore
      rw [hend, show last = flip ⌈/⌉ p.interval from Nat.min_eq_left hbefore]
    refine ⟨p.finishedAt label condition state last,
      p.waitForTimer_eq_ite label condition state hstops, ?_, ?_, ?_⟩
    · rw [hresult, hceil]
    · intro hok
      exact helapsed (hresult.mp hok)
    · intro hafter hbefore
      have hupper : flip ⌈/⌉ p.interval ≤ p.timeout ⌈/⌉ p.interval := hceil.mpr hbefore
      have hlower : p.timeout ⌈/⌉ p.interval ≤ flip ⌈/⌉ p.interval := by
        refine Nat.le_of_lt_succ (Nat.lt_of_not_le fun hbelow => ?_)
        exact absurd (hceil.mp (Nat.le_sub_one_of_lt hbelow)) (Nat.not_le.mpr hafter)
      refine ⟨hresult.mpr hupper, ?_⟩
      rw [Nat.le_antisymm hlower hupper]
      exact helapsed hupper

/-- A condition that comes to hold after 2.1 s is looked at every half second, and has been seen
when 2.5 s have passed.  When looking takes one unit of time, an interval of two and a timeout of
three let a condition that comes to hold on the deadline be seen at four. -/
theorem waitForTimer_converges_late :
    (0 < Duration.ofMillis 500 ∧ Duration.ofMillis 500 ≤ Duration.ofMillis 3000 ∧
      ∃ f : Finished Unit String,
        waitForTimer ⟨.ofMillis 500, .ofMillis 3000⟩ "LAG up"
            (fun s now => ({ answer := .ok (decide (Duration.ofMillis 2100 ≤ now)) }, s)) 6 ()
          = some f ∧
        f.result = .ok () ∧ f.elapsed = .ofMillis 2500) ∧
    (0 < 2 ∧ 2 ≤ 3 ∧ ∃ f : Finished Unit String,
      waitForTimer ⟨2, 3⟩ "LAG up"
          (fun s now => ({ answer := .ok (decide (3 ≤ now + 1)), took := 1 }, s)) 2 () = some f ∧
        f.result = .ok () ∧ f.starts = [0, 3] ∧ f.elapsed = 4) := by
  refine ⟨⟨by decide, by decide, ?_⟩, by decide, by decide, ?_⟩
  · let condition : Condition Unit String := fun s now =>
      ({ answer := .ok (decide (Duration.ofMillis 2100 ≤ now)) }, s)
    have hobserves : Observes ⟨.ofMillis 500, .ofMillis 3000⟩ condition () (.ofMillis 2100) :=
      observes_of_forall fun _ _ => rfl
    obtain ⟨f, hfuel, hiff, helapsed, -⟩ :=
      (waitForTimer_converges ⟨.ofMillis 500, .ofMillis 3000⟩ "LAG up" condition () _ (by decide)
        (by decide) hobserves).2 fun _ => rfl
    have hflip : Duration.ofMillis 2100 ⌈/⌉ Duration.ofMillis 500 = 5 := by
      rw [Nat.ceilDiv_eq_add_pred_div]
      decide
    have htimeout : Duration.ofMillis 3000 ⌈/⌉ Duration.ofMillis 500 = 6 := by
      rw [Nat.ceilDiv_eq_add_pred_div]
      decide
    simp only [hflip, htimeout] at hfuel hiff helapsed
    have hresult : f.result = .ok () := hiff.mpr (by decide)
    refine ⟨f, ?_, hresult, helapsed hresult⟩
    rw [hfuel, if_pos (by decide)]
  · let condition : Condition Unit String := fun s now =>
      ({ answer := .ok (decide (3 ≤ now + 1)), took := 1 }, s)
    have hobserves : Observes ⟨2, 3⟩ condition () 3 := observes_of_forall fun _ _ => rfl
    obtain ⟨k, f, hk, hfuel, hresult, hstarts, helapsed, -⟩ :=
      (waitForTimer_converges ⟨2, 3⟩ "LAG up" condition () 3 (by decide) (by decide)
        hobserves).1 (by decide)
    -- The evaluations end at one and at four.
    have hone : k ≤ 1 := hk.2 (show 3 ≤ endAt ⟨2, 3⟩ condition () 1 by decide)
    obtain rfl : k = 1 := by
      refine Nat.le_antisymm hone (Nat.one_le_iff_ne_zero.mpr fun hzero => ?_)
      subst hzero
      exact absurd hk.1 (by decide)
    refine ⟨f, ?_, hresult, hstarts, helapsed⟩
    rw [hfuel, if_pos (by decide)]

end Convergence.Policy
