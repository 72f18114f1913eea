import Convergence.Proofs.Poll.Step

/-!
# `Convergence.Proofs.Poll.Infallible`: the four ways to poll agree

There are two ways to wait, and each is there for conditions that may fail and for conditions that
cannot.  A poll hands an error on and never looks into it, so that calling the errors by other names
(`mapError`) changes nothing in what it does: `step_mapError` is the step, `waitFor_mapError` and
`evaluations_mapError` the run.  A condition that cannot fail is one whose errors have no names, and
read as a condition with errors of any kind it takes the same course.

`polls_agree` joins this with the agreement of the two ways to wait
(`Convergence.Proofs.Poll.Step`).
-/

set_option autoImplicit false

namespace Convergence

variable {σ ε ε' : Type}

/-! ### Other names for errors -/

/-- The evaluation with another name for its error. -/
def Evaluation.mapError (g : ε → ε') (x : Evaluation ε) : Evaluation ε' where
  answer := x.answer.mapError g
  took := x.took
  events := x.events

/-- The condition with other names for its errors. -/
def Condition.mapError (g : ε → ε') (condition : Condition σ ε) : Condition σ ε' :=
  fun s now => ((condition s now).1.mapError g, (condition s now).2)

/-- The error of a poll with another name for the error of its condition. -/
def PollError.mapError (g : ε → ε') : PollError ε → PollError ε'
  | timeout c elapsed attempts => timeout c elapsed attempts
  | failed c e => failed c (g e)

/-- The verdict with another name for an error. -/
def Verdict.mapError (g : ε → ε') : Verdict ε → Verdict ε'
  | again => again
  | stop result => stop (result.mapError (PollError.mapError g))

/-- The end of a poll with another name for an error. -/
def Finished.mapError (g : ε → ε') (f : Finished σ ε) : Finished σ ε' where
  result := f.result.mapError (PollError.mapError g)
  state := f.state
  elapsed := f.elapsed
  starts := f.starts
  events := f.events

/-- How far a poll has come, with another name for an error. -/
def Stage.mapError (g : ε → ε') : Stage σ ε → Stage σ ε'
  | going w => going w
  | ended f => ended (f.mapError g)

/-- Nothing is reported of an error, whatever its name. -/
theorem Verdict.events_mapError (g : ε → ε') (label : String) (elapsed : Duration)
    (attempts : UInt32) (v : Verdict ε) :
    (v.mapError g).events label elapsed attempts = v.events label elapsed attempts := by
  rcases v with _ | (e | ⟨⟩) <;> rfl

namespace Policy

variable (p : Policy) (label : String)

/-- The decision after an evaluation does not depend on what an error is called. -/
theorem judge_mapError (g : ε → ε') (elapsed : Duration) (attempts : UInt32)
    (answer : Except ε Bool) :
    p.judge label elapsed attempts (answer.mapError g) =
      (p.judge label elapsed attempts answer).mapError g := by
  rcases answer with e | (_ | _)
  · rfl
  · show (if p.retries elapsed then _ else _) =
      Verdict.mapError g (if p.retries elapsed then _ else _)
    cases p.retries elapsed <;> rfl
  · rfl

variable (g : ε → ε') (condition : Condition σ ε)

/-- Nor does a turn of the loop. -/
theorem step_mapError (w : Progress σ) :
    p.step label (Condition.mapError g condition) w =
      (p.step label condition w).mapError g := by
  simp only [step, Condition.mapError, Evaluation.mapError, judge_mapError,
    Verdict.events_mapError]
  cases p.judge label (w.now + (condition w.state w.now).1.took) (w.attempts + 1)
    (condition w.state w.now).1.answer <;> rfl

/-- So a poll comes to the same after each number of evaluations. -/
theorem stage_mapError (n : Nat) (w : Progress σ) :
    p.stage label (Condition.mapError g condition) n w =
      (p.stage label condition n w).mapError g := by
  induction n generalizing w with
  | zero => rfl
  | succ n ih =>
      rw [stage, stage, step_mapError]
      cases p.step label condition w with
      | going w' => exact ih w'
      | ended f => rfl

/-- It makes the same evaluations. -/
theorem evaluations_mapError (n : Nat) (w : Progress σ) :
    p.evaluations label (Condition.mapError g condition) n w =
      (p.evaluations label condition n w).map fun v => (v.1, v.2.mapError g) := by
  induction n generalizing w with
  | zero => rfl
  | succ n ih =>
      rw [evaluations, evaluations, step_mapError, List.map_cons]
      cases p.step label condition w with
      | going w' => exact congrArg _ (ih w')
      | ended f => rfl

/-- And it has the same result. -/
theorem waitFor_mapError (n : Nat) (w : Progress σ) :
    p.waitFor label (Condition.mapError g condition) n w =
      (p.waitFor label condition n w).map (Finished.mapError g) := by
  rw [waitFor_eq, waitFor_eq, stage_mapError]
  cases p.stage label condition n w <;> rfl

end Policy

/-! ### Conditions that cannot fail -/

/-- Without errors, a poll either has its condition or has timed out, and its outcome says which. -/
theorem Outcome.ofResult_cases (result : Except (PollError Empty) Unit) :
    result = .ok () ∧ Outcome.ofResult result = .converged ∨
      ∃ c elapsed attempts, result = .error (.timeout c elapsed attempts) ∧
        Outcome.ofResult result = .timedOut := by
  rcases result with (⟨c, elapsed, attempts⟩ | ⟨c, e⟩) | ⟨⟩
  · exact .inr ⟨c, elapsed, attempts, rfl, rfl⟩
  · exact e.elim
  · exact .inl ⟨rfl, rfl⟩

namespace Policy

/-- A poll without a label is one under the label of conditions that have no name. -/
theorem poll_eq_some_iff (p : Policy) (condition : Condition σ Empty) (fuel : Nat) (state : σ)
    (o : Outcome) (f : Finished σ Empty) :
    p.poll condition fuel state = some (o, f) ↔
      p.waitFor plainLabel condition fuel { state } = some f ∧ o = .ofResult f.result := by
  rw [poll, Option.map_eq_some_iff]
  constructor
  · rintro ⟨f', hf, heq⟩
    cases heq
    exact ⟨hf, rfl⟩
  · rintro ⟨hf, rfl⟩
    exact ⟨f, hf, rfl⟩

/-- **The four ways to poll agree.**  After each number `n` of evaluations, a poll that sleeps in
place and a poll on a timer have made the same evaluations at the same times, have reported the
same events and waited as long, and either both go on or both have ended with the same result, which
is what they return.

Polls of a condition that cannot fail do the same, evaluation by evaluation, as the polls under the
label `condition` of the condition that gives the same answers but might have failed, with errors of
any type.  They report that the condition came to hold exactly if those polls do, and a timeout
exactly if those do; and those never report that the condition failed. -/
theorem polls_agree (p : Policy) (state : σ) :
    (∀ (label : String) (condition : Condition σ ε) (n : Nat),
      p.timerEvaluations label condition n (.sleeping 0 { state }) =
        p.evaluations label condition n { state } ∧
      (p.task label condition n (.sleeping 0 { state })).stage =
        p.stage label condition n { state } ∧
      p.waitFor label condition n { state } =
        (p.stage label condition n { state }).finished? ∧
      p.waitForTimer label condition n state = p.waitFor label condition n { state }) ∧
    (∀ (plain : Condition σ Empty) (n : Nat),
      let condition : Condition σ ε := Condition.mapError Empty.elim plain
      p.evaluations "condition" condition n { state } =
        (p.evaluations "condition" plain n { state }).map
          (fun v => (v.1, v.2.mapError Empty.elim)) ∧
      p.timerEvaluations "condition" plain n (.sleeping 0 { state }) =
        p.evaluations "condition" plain n { state } ∧
      p.stage "condition" condition n { state } =
        (p.stage "condition" plain n { state }).mapError Empty.elim ∧
      p.pollTimer plain n state = p.poll plain n state ∧
      (p.poll plain n state).map (fun r => r.2.mapError Empty.elim) =
        p.waitFor "condition" condition n { state } ∧
      ∀ o f, p.poll plain n state = some (o, f) →
        ∃ f', p.waitFor "condition" condition n { state } = some f' ∧
          f'.starts = f.starts ∧ f'.events = f.events ∧ f'.elapsed = f.elapsed ∧
          (o = .converged ↔ f'.result = .ok ()) ∧
          (o = .timedOut ↔
            ∃ c elapsed attempts, f'.result = .error (.timeout c elapsed attempts)) ∧
          ∀ c e, f'.result ≠ .error (.failed c e)) := by
  constructor
  · intro label condition n
    exact ⟨p.timerEvaluations_eq label condition n 0 { state },
      p.stage_task label condition n 0 { state }, p.waitFor_eq label condition n { state },
      p.waitForTimer_eq_waitFor label condition state n⟩
  · intro plain n condition
    refine ⟨p.evaluations_mapError "condition" Empty.elim plain n { state },
      p.timerEvaluations_eq "condition" plain n 0 { state },
      p.stage_mapError "condition" Empty.elim plain n { state }, ?_, ?_, ?_⟩
    · rw [pollTimer, waitForTimer_eq_waitFor, poll]
    · rw [p.waitFor_mapError "condition" Empty.elim plain n, poll, Option.map_map]
      rfl
    · intro o f hf
      obtain ⟨hwait, rfl⟩ := (p.poll_eq_some_iff plain n state o f).mp hf
      refine ⟨f.mapError Empty.elim, ?_, rfl, rfl, rfl, ?_⟩
      · rw [p.waitFor_mapError "condition" Empty.elim plain n]
        exact congrArg _ hwait
      · show (_ ↔ f.result.mapError _ = _) ∧ (_ ↔ ∃ c elapsed attempts, f.result.mapError _ = _) ∧
          ∀ c e, f.result.mapError _ ≠ _
        rcases Outcome.ofResult_cases f.result with ⟨hok, ho⟩ | ⟨c, elapsed, attempts, hout, ho⟩
        · rw [ho, hok]
          exact ⟨⟨fun _ => rfl, fun _ => rfl⟩, ⟨nofun, nofun⟩, nofun⟩
        · rw [ho, hout]
          exact ⟨⟨nofun, nofun⟩, ⟨fun _ => ⟨c, elapsed, attempts, rfl⟩, fun _ => rfl⟩, nofun⟩

/-- Looked at every two units of time, a condition that holds from the second evaluation on is seen
to hold then by both polls that take it for one that cannot fail, as by the poll that does not. -/
theorem polls_agree_twice :
    let plain : Condition Nat Empty := fun n _ => ({ answer := .ok (n == 1), took := 1 }, n + 1)
    ∃ f, poll ⟨2, 5⟩ plain 9 0 = some (.converged, f) ∧ f.starts = [0, 3] ∧
      pollTimer ⟨2, 5⟩ plain 9 0 = some (.converged, f) ∧
      ∃ f' : Finished Nat String,
        waitFor ⟨2, 5⟩ "condition" (Condition.mapError Empty.elim plain) 9 { state := 0 } =
          some f' ∧ f'.starts = [0, 3] ∧ f'.result = .ok () := by
  intro plain
  obtain ⟨f, hpoll, hstarts⟩ :
      ∃ f, poll ⟨2, 5⟩ plain 9 0 = some (.converged, f) ∧ f.starts = [0, 3] := ⟨_, rfl, rfl⟩
  obtain ⟨-, hplain⟩ := polls_agree (ε := String) ⟨2, 5⟩ 0
  obtain ⟨-, -, -, htimer, -, hagree⟩ := hplain plain 9
  obtain ⟨f', hwait, hstarts', -, -, hconverged, -, -⟩ := hagree _ _ hpoll
  exact ⟨f, hpoll, hstarts, htimer.trans hpoll, f', hwait, hstarts'.trans hstarts,
    hconverged.mp rfl⟩

end Policy

end Convergence
