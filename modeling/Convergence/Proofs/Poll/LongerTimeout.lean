import Convergence.Proofs.Poll.Step

/-!
# `Convergence.Proofs.Poll.LongerTimeout`: more time never loses a result

The timeout has no part in when evaluations begin and what they answer, only in whether there is
another one after an answer that is false.  A poll that has more time takes the same turns as one
that has less, but for the turn that ends the latter with a timeout (`step_of_timeout_le`).  That
covers a timeout that does not hold an interval, too: the poll then ends with its first turn, and
with more time that turn is made as well.

`waitFor_of_timeout_le` follows by induction over the turns.  What is evaluated in less time is
evaluated in more, and a result that is no timeout is the same, with all that was reported on the
way.
-/

set_option autoImplicit false

namespace Convergence.Policy

variable {σ ε : Type} {interval timeout timeout' : Duration}

/-- A poll that goes on also goes on if it has more time. -/
theorem retries_of_timeout_le (hle : timeout ≤ timeout') {elapsed : Duration}
    (h : retries ⟨interval, timeout⟩ elapsed = true) :
    retries ⟨interval, timeout'⟩ elapsed = true := by
  simp only [retries, Bool.and_eq_true, decide_eq_true_eq] at h ⊢
  exact ⟨Nat.le_trans h.1 hle, Nat.lt_of_lt_of_le h.2 hle⟩

section
variable (label : String) (condition : Condition σ ε)

/-- With more time the same turns are taken, unless less of it ends the poll with a timeout. -/
theorem step_of_timeout_le (hle : timeout ≤ timeout') (w : Progress σ) :
    step ⟨interval, timeout'⟩ label condition w = step ⟨interval, timeout⟩ label condition w ∨
      ∃ f, step ⟨interval, timeout⟩ label condition w = .ended f ∧
        ∃ c elapsed attempts, f.result = .error (.timeout c elapsed attempts) := by
  simp only [step]
  rcases (condition w.state w.now).1.answer with e | (_ | _)
  · exact .inl rfl
  · -- Only an answer that is false lets the timeout decide.
    simp only [judge]
    cases hr : retries ⟨interval, timeout⟩ (w.now + (condition w.state w.now).1.took) with
    | true =>
        rw [retries_of_timeout_le hle hr]
        exact .inl rfl
    | false => exact .inr ⟨_, rfl, _, _, _, rfl⟩
  · exact .inl rfl

/-- Every evaluation that is made in less time is made in more, at the same time and with the same
answer. -/
theorem evaluations_of_timeout_le (hle : timeout ≤ timeout') (n : Nat) (w : Progress σ) :
    evaluations ⟨interval, timeout'⟩ label condition
        (evaluations ⟨interval, timeout⟩ label condition n w).length w =
      evaluations ⟨interval, timeout⟩ label condition n w := by
  induction n generalizing w with
  | zero => rfl
  | succ n ih =>
      rw [evaluations, List.length_cons, evaluations]
      refine congrArg _ ?_
      cases hstep : step ⟨interval, timeout⟩ label condition w with
      | going w' =>
          rcases step_of_timeout_le label condition hle w with hsame | ⟨f, hended, -⟩
          · rw [hsame, hstep]
            exact ih w'
          · rw [hstep] at hended
            cases hended
      | ended f => cases step ⟨interval, timeout'⟩ label condition w <;> rfl

/-- A result that is no timeout is found in more time, too. -/
theorem waitFor_of_result_ne (hle : timeout ≤ timeout') {n : Nat} {w : Progress σ}
    {f : Finished σ ε} (hf : waitFor ⟨interval, timeout⟩ label condition n w = some f)
    (hresult : ∀ c elapsed attempts, f.result ≠ .error (.timeout c elapsed attempts)) :
    waitFor ⟨interval, timeout'⟩ label condition n w = some f ∧
      ∀ m, evaluations ⟨interval, timeout'⟩ label condition m w =
        evaluations ⟨interval, timeout⟩ label condition m w := by
  induction n generalizing w with
  | zero => cases hf
  | succ n ih =>
      rw [waitFor_succ] at hf ⊢
      have hsame : step ⟨interval, timeout'⟩ label condition w =
          step ⟨interval, timeout⟩ label condition w := by
        rcases step_of_timeout_le label condition hle w with hsame | ⟨f', hended, c, t, k, htimeout⟩
        · exact hsame
        · rw [hended] at hf
          cases hf
          exact absurd htimeout (hresult c t k)
      rw [hsame]
      cases hstep : step ⟨interval, timeout⟩ label condition w with
      | going w' =>
          rw [hstep] at hf
          obtain ⟨hwait, hrest⟩ := ih hf
          refine ⟨hwait, fun m => ?_⟩
          cases m with
          | zero => rfl
          | succ m =>
              rw [evaluations, evaluations, hsame, hstep]
              exact congrArg _ (hrest m)
      | ended f' =>
          rw [hstep] at hf
          refine ⟨hf, fun m => ?_⟩
          cases m with
          | zero => rfl
          | succ m => rw [evaluations, evaluations, hsame, hstep]

end

/-- **A longer timeout never loses a result.**  Take a poll that has ended, whichever way it waits,
and give it more time.  Its evaluations are made again, all of them, at the same times and with the
same answers, also if the poll now goes on behind them or does not end at all.  And if the poll
ended with its condition, or because the condition failed, it ends in the same way again, after the
same evaluations and with the same reports. -/
theorem waitFor_of_timeout_le (hle : timeout ≤ timeout') (label : String)
    (condition : Condition σ ε) (state : σ) {fuel : Nat} {f : Finished σ ε}
    (hf : waitFor ⟨interval, timeout⟩ label condition fuel { state } = some f ∨
      waitForTimer ⟨interval, timeout⟩ label condition fuel state = some f) :
    let made := evaluations ⟨interval, timeout⟩ label condition fuel { state }
    f.starts = made.map (·.1) ∧
    evaluations ⟨interval, timeout'⟩ label condition f.starts.length { state } = made ∧
    timerEvaluations ⟨interval, timeout'⟩ label condition f.starts.length
      (.sleeping 0 { state }) = made ∧
    (f.result = .ok () ∨ (∃ c e, f.result = .error (.failed c e)) →
      waitFor ⟨interval, timeout'⟩ label condition fuel { state } = some f ∧
      waitForTimer ⟨interval, timeout'⟩ label condition fuel state = some f ∧
      ∀ n, evaluations ⟨interval, timeout'⟩ label condition n { state } =
          evaluations ⟨interval, timeout⟩ label condition n { state } ∧
        timerEvaluations ⟨interval, timeout'⟩ label condition n (.sleeping 0 { state }) =
          timerEvaluations ⟨interval, timeout⟩ label condition n (.sleeping 0 { state })) := by
  intro made
  rw [waitForTimer_eq_waitFor, or_self] at hf
  have hstarts : f.starts = made.map (·.1) := starts_of_waitFor _ label condition hf
  have hmade : evaluations ⟨interval, timeout'⟩ label condition f.starts.length { state } =
      made := by
    rw [hstarts, List.length_map]
    exact evaluations_of_timeout_le label condition hle fuel { state }
  refine ⟨hstarts, hmade, ?_, fun hresult => ?_⟩
  · rw [timerEvaluations_eq]
    exact hmade
  · have hne : ∀ c elapsed attempts, f.result ≠ .error (.timeout c elapsed attempts) := by
      intro c elapsed attempts htimeout
      rw [htimeout] at hresult
      rcases hresult with h | ⟨c', e, h⟩ <;> cases h
    obtain ⟨hwait, hsame⟩ := waitFor_of_result_ne label condition hle hf hne
    refine ⟨hwait, ?_, fun n => ⟨hsame n, ?_⟩⟩
    · rw [waitForTimer_eq_waitFor]
      exact hwait
    · rw [timerEvaluations_eq, timerEvaluations_eq]
      exact hsame n

/-- A timeout of one unit does not hold an interval of two, and lets the poll look once; under a
timeout of three units the poll looks at the same time first, sees the same, and looks again.  A
condition that is seen to hold in three units of time is seen to hold at that time in nine. -/
theorem waitFor_of_timeout_le_once :
    let condition : Condition Nat String := fun n _ =>
      ({ answer := .ok (n == 1), took := 1 }, n + 1)
    (∃ f, waitFor ⟨2, 1⟩ "links up" condition 5 { state := 0 } = some f ∧
      f.starts = [0] ∧ f.result = .error (.timeout "links up" 1 1) ∧
      (evaluations ⟨2, 3⟩ "links up" condition 1 { state := 0 }).map (·.1) = f.starts) ∧
    ∃ f, waitFor ⟨2, 3⟩ "links up" condition 5 { state := 0 } = some f ∧
      f.starts = [0, 3] ∧ f.result = .ok () ∧
      waitFor ⟨2, 9⟩ "links up" condition 5 { state := 0 } = some f := by
  intro condition
  constructor
  · obtain ⟨f, hf, hstarts, hresult⟩ :
        ∃ f, waitFor ⟨2, 1⟩ "links up" condition 5 { state := 0 } = some f ∧
          f.starts = [0] ∧ f.result = .error (.timeout "links up" 1 1) := ⟨_, rfl, rfl, rfl⟩
    obtain ⟨hmade, hagain, -, -⟩ := waitFor_of_timeout_le (show 1 ≤ 3 by decide) "links up"
      condition 0 (.inl hf)
    rw [hstarts] at hagain
    exact ⟨f, hf, hstarts, hresult, (congrArg _ hagain).trans hmade.symm⟩
  · obtain ⟨f, hf, hstarts, hresult⟩ :
        ∃ f, waitFor ⟨2, 3⟩ "links up" condition 5 { state := 0 } = some f ∧
          f.starts = [0, 3] ∧ f.result = .ok () := ⟨_, rfl, rfl, rfl⟩
    obtain ⟨-, -, -, hfound⟩ := waitFor_of_timeout_le (show 3 ≤ 9 by decide) "links up"
      condition 0 (.inl hf)
    exact ⟨f, hf, hstarts, hresult, (hfound (.inl hresult)).1⟩

end Convergence.Policy
