import Convergence.Proofs.Poll.Step

/-!
# `Convergence.Proofs.Poll.Schedule`: the evaluations of a poll, laid out on its clock

A poll is a loop that stops, but its evaluations can be laid out without saying when it does.
`turn` gives the state and the time at which each evaluation would begin if none ended the poll:
an evaluation begins an interval after the one before it has ended.  `Stops` says which
evaluations end a poll, and `finishedAt` what a poll is like that ends there.  Indices count from
zero, so the evaluation of index `k` is number `k + 1`.

Main statements:

* `waitFor_eq_some`: a poll ends as `finishedAt` says at the first evaluation that stops it, as
  soon as it is given that many evaluations.
* `waitFor_eq_none`: it is abandoned if no evaluation that it is given stops it.

The step is `step_of_not_stops` and `step_of_stops`; `progressAt` is the invariant that carries it
through the run.
-/

set_option autoImplicit false

namespace Convergence.Policy

variable {σ ε : Type}

/-! ### The schedule -/

section
variable (p : Policy) (condition : Condition σ ε) (state : σ)

/-- The state and the time at which evaluation `k` begins, when none before it ends the poll. -/
def turn : Nat → σ × Duration
  | 0 => (state, 0)
  | k + 1 =>
    let (s, start) := turn k
    let (x, s') := condition s start
    (s', start + x.took + p.interval)

/-- The state in which evaluation `k` begins. -/
def stateAt (k : Nat) : σ := (p.turn condition state k).1

/-- The time at which evaluation `k` begins. -/
def startAt (k : Nat) : Duration := (p.turn condition state k).2

/-- Evaluation `k`. -/
def evaluationAt (k : Nat) : Evaluation ε :=
  (condition (p.stateAt condition state k) (p.startAt condition state k)).1

/-- The time at which evaluation `k` has ended. -/
def endAt (k : Nat) : Duration :=
  p.startAt condition state k + (p.evaluationAt condition state k).took

/-- Evaluation `k` ends a poll that has come so far: its answer is not false, or the interval
alone exceeds the timeout, or the deadline has come when the evaluation ends. -/
def Stops (k : Nat) : Prop :=
  (p.evaluationAt condition state k).answer ≠ .ok false ∨ p.timeout < p.interval ∨
    p.timeout ≤ p.endAt condition state k

/-- The poll goes on after an evaluation exactly if it answers false, the timeout holds an
interval and the evaluation ends before the deadline. -/
theorem not_stops_iff (k : Nat) :
    ¬p.Stops condition state k
      ↔ (p.evaluationAt condition state k).answer = .ok false ∧ p.interval ≤ p.timeout ∧
          p.endAt condition state k < p.timeout := by
  unfold Stops
  rw [not_or, not_or, Classical.not_not, Nat.not_lt, Nat.not_le]

/-- The first evaluation begins at once. -/
@[simp]
theorem startAt_zero : p.startAt condition state 0 = 0 := rfl

/-- Between the end of an evaluation and the start of the next one lies the interval. -/
@[simp]
theorem startAt_succ (k : Nat) :
    p.startAt condition state (k + 1) = p.endAt condition state k + p.interval := rfl

/-- An evaluation does not end before it begins. -/
theorem startAt_le_endAt (k : Nat) : p.startAt condition state k ≤ p.endAt condition state k :=
  Nat.le_add_right _ _

end

/-! ### The decision after an evaluation -/

section
variable (p : Policy) (label : String)

/-- What a poll ends with whose last evaluation gave the answer. -/
def conclusion (elapsed : Duration) (attempts : UInt32) :
    Except ε Bool → Except (PollError ε) Unit
  | .error e => .error (.failed label e)
  | .ok true => .ok ()
  | .ok false => .error (.timeout label elapsed attempts)

/-- A poll fails with the error that its last evaluation gave. -/
theorem conclusion_eq_failed_iff {elapsed : Duration} {attempts : UInt32}
    {answer : Except ε Bool} {c : String} {e : ε} :
    conclusion label elapsed attempts answer = .error (.failed c e) ↔
      answer = .error e ∧ label = c := by
  rcases answer with e' | (_ | _) <;> simp [conclusion, and_comm]

/-- A poll times out if its last evaluation answered false, and tells when that one ended. -/
theorem conclusion_eq_timeout_iff {elapsed t : Duration} {attempts n : UInt32}
    {answer : Except ε Bool} {c : String} :
    conclusion label elapsed attempts answer = .error (.timeout c t n) ↔
      answer = .ok false ∧ label = c ∧ elapsed = t ∧ attempts = n := by
  rcases answer with e | (_ | _) <;> simp [conclusion]

/-- There is another evaluation exactly after the answer false, before the deadline and under a
timeout that holds an interval. -/
theorem judge_eq_again_iff (elapsed : Duration) (attempts : UInt32) (answer : Except ε Bool) :
    p.judge label elapsed attempts answer = .again
      ↔ answer = .ok false ∧ p.interval ≤ p.timeout ∧ elapsed < p.timeout := by
  rcases answer with e | (_ | _)
  · simp [judge]
  · simp only [judge, retries, Bool.and_eq_true, decide_eq_true_eq, true_and]
    split <;> simp_all
  · simp [judge]

/-- A poll that does not go on ends with the conclusion. -/
theorem judge_eq_stop {elapsed : Duration} {attempts : UInt32} {answer : Except ε Bool}
    (h : p.judge label elapsed attempts answer ≠ .again) :
    p.judge label elapsed attempts answer
      = .stop (conclusion label elapsed attempts answer) := by
  rcases answer with e | (_ | _)
  · rfl
  · simp only [judge] at h ⊢
    split
    · rename_i hr
      rw [if_pos hr] at h
      exact absurd rfl h
    · rfl
  · rfl

end

section
variable (p : Policy) (label : String) (condition : Condition σ ε) (state : σ)

/-- The verdict on evaluation `k`. -/
def verdictAt (k : Nat) : Verdict ε :=
  p.judge label (p.endAt condition state k) (.ofNat (k + 1))
    (p.evaluationAt condition state k).answer

/-- The poll goes on after every evaluation that does not stop it. -/
theorem verdictAt_of_not_stops {k : Nat} (h : ¬p.Stops condition state k) :
    p.verdictAt label condition state k = .again := by
  rw [verdictAt, judge_eq_again_iff]
  exact (p.not_stops_iff condition state k).mp h

/-- The poll ends with the conclusion after an evaluation that stops it. -/
theorem verdictAt_of_stops {k : Nat} (h : p.Stops condition state k) :
    p.verdictAt label condition state k
      = .stop (conclusion label (p.endAt condition state k) (.ofNat (k + 1))
          (p.evaluationAt condition state k).answer) := by
  refine judge_eq_stop p label fun hagain => ?_
  rw [judge_eq_again_iff] at hagain
  exact (p.not_stops_iff condition state k).mpr hagain h

/-! ### What a poll has done at each evaluation -/

/-- What is reported about evaluation `k`: first by the evaluation, then by the poll. -/
def reportsAt (k : Nat) : List Event :=
  (p.evaluationAt condition state k).events ++
    (p.verdictAt label condition state k).events label (p.endAt condition state k) (.ofNat (k + 1))

/-- What a poll has done when evaluation `k` is about to begin. -/
def progressAt (k : Nat) : Progress σ where
  state := p.stateAt condition state k
  now := p.startAt condition state k
  attempts := .ofNat k
  starts := ((List.range k).map (p.startAt condition state)).reverse
  reported := ((List.range k).flatMap (p.reportsAt label condition state)).reverse

/-- A poll that evaluation `k` has ended. -/
def finishedAt (k : Nat) : Finished σ ε where
  result := conclusion label (p.endAt condition state k) (.ofNat (k + 1))
    (p.evaluationAt condition state k).answer
  state := p.stateAt condition state (k + 1)
  elapsed := p.endAt condition state k
  starts := (List.range (k + 1)).map (p.startAt condition state)
  events := (List.range (k + 1)).flatMap (p.reportsAt label condition state)

/-- A poll starts with no evaluation behind it. -/
theorem progressAt_zero : p.progressAt label condition state 0 = { state } := rfl

/-- The evaluation of index `k` is number `k + 1`, also where the count wraps. -/
theorem attempts_succ (k : Nat) : UInt32.ofNat k + 1 = UInt32.ofNat (k + 1) :=
  (UInt32.ofNat_add k 1).symm

/-- What evaluation `k` adds to what a poll has done. -/
theorem progressAt_succ (k : Nat) :
    p.progressAt label condition state (k + 1)
      = { state := p.stateAt condition state (k + 1)
          now := p.startAt condition state (k + 1)
          attempts := .ofNat (k + 1)
          starts := p.startAt condition state k :: (p.progressAt label condition state k).starts
          reported := (p.reportsAt label condition state k).reverse ++
            (p.progressAt label condition state k).reported } := by
  simp [progressAt, List.range_succ]

/-- A poll that evaluation `k` has ended has done one evaluation more. -/
theorem finishedAt_eq (k : Nat) :
    p.finishedAt label condition state k
      = { result := conclusion label (p.endAt condition state k) (.ofNat (k + 1))
            (p.evaluationAt condition state k).answer
          state := p.stateAt condition state (k + 1)
          elapsed := p.endAt condition state k
          starts := (p.progressAt label condition state (k + 1)).starts.reverse
          events := (p.progressAt label condition state (k + 1)).reported.reverse } := by
  simp [finishedAt, progressAt]

/-! ### The loop -/

/-- A turn whose evaluation does not stop the poll comes to the next evaluation. -/
theorem step_of_not_stops {k : Nat} (h : ¬p.Stops condition state k) :
    p.step label condition (p.progressAt label condition state k)
      = .going (p.progressAt label condition state (k + 1)) := by
  have hv := p.verdictAt_of_not_stops label condition state h
  have hr : p.reportsAt label condition state k
      = (p.evaluationAt condition state k).events ++ (Verdict.again (ε := ε)).events label
          (p.endAt condition state k) (.ofNat (k + 1)) := by
    rw [reportsAt, hv]
  rw [progressAt_succ, hr, List.reverse_append, List.append_assoc, step]
  -- The loop computes the values of the schedule afresh, so its verdict is `verdictAt` unfolded.
  unfold verdictAt endAt evaluationAt stateAt startAt at hv
  simp only [progressAt, attempts_succ, stateAt, startAt, hv]
  rfl

/-- A turn whose evaluation stops the poll is the last one. -/
theorem step_of_stops {k : Nat} (h : p.Stops condition state k) :
    p.step label condition (p.progressAt label condition state k)
      = .ended (p.finishedAt label condition state k) := by
  have hv := p.verdictAt_of_stops label condition state h
  have hr : p.reportsAt label condition state k
      = (p.evaluationAt condition state k).events ++
          (Verdict.stop (conclusion label (p.endAt condition state k) (.ofNat (k + 1))
            (p.evaluationAt condition state k).answer)).events label
            (p.endAt condition state k) (.ofNat (k + 1)) := by
    rw [reportsAt, hv]
  rw [finishedAt_eq, progressAt_succ, hr, List.reverse_append, List.append_assoc, step]
  unfold verdictAt endAt evaluationAt stateAt startAt at hv
  simp only [progressAt, attempts_succ, stateAt, startAt, hv]
  rfl

/-- A run of the loop through evaluations that do not stop the poll comes to the evaluation after
them, with `k` evaluations less to go. -/
theorem waitFor_progressAt {k : Nat} (h : ∀ i < k, ¬p.Stops condition state i) (fuel : Nat) :
    p.waitFor label condition (fuel + k) { state }
      = p.waitFor label condition fuel (p.progressAt label condition state k) := by
  induction k generalizing fuel with
  | zero => rw [progressAt_zero]; rfl
  | succ k ih =>
      have hbefore : ∀ i < k, ¬p.Stops condition state i := fun i hi =>
        h i (Nat.lt_succ_of_lt hi)
      have hk : ¬p.Stops condition state k := h k (Nat.lt_succ_self k)
      rw [show fuel + (k + 1) = fuel + 1 + k by omega, ih hbefore, waitFor_succ,
        step_of_not_stops p label condition state hk]

/-- A poll that is given no more evaluations than do not stop it is abandoned. -/
theorem waitFor_eq_none {fuel : Nat} (h : ∀ i < fuel, ¬p.Stops condition state i) :
    p.waitFor label condition fuel { state } = none := by
  have hrun := waitFor_progressAt p label condition state h 0
  rw [Nat.zero_add] at hrun
  rw [hrun, waitFor]

/-- A poll ends at the first evaluation that stops it. -/
theorem waitFor_eq_some {fuel k : Nat} (hk : p.Stops condition state k)
    (hbefore : ∀ i < k, ¬p.Stops condition state i) (hfuel : k < fuel) :
    p.waitFor label condition fuel { state } = some (p.finishedAt label condition state k) := by
  obtain ⟨rest, rfl⟩ : ∃ rest, fuel = rest + 1 + k := ⟨fuel - 1 - k, by omega⟩
  rw [waitFor_progressAt p label condition state hbefore, waitFor_succ,
    step_of_stops p label condition state hk]

end

end Convergence.Policy
