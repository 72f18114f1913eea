import Convergence.Poll.Run

/-!
# `Convergence.Proofs.Poll.Step`: polls one evaluation at a time

A poll may go on for ever, and then it has no result to compare.  It is compared instead after each
number of evaluations: `Policy.stage` is a poll that sleeps in place with at most `n` evaluations
behind it, `Policy.task` one on a timer, and `evaluations` and `timerEvaluations` are the
evaluations that they have made by then, each with the time at which it began.

The step is `stage_resume`: what is done between two wakings of the timer is what the loop that
sleeps in place does in one turn.  `stage_task` carries it through the run, whether the run ends or
not, and `waitFor_eq` and `drive_eq` say what it means for the results.
-/

set_option autoImplicit false

namespace Convergence

variable {σ ε : Type}

/-- A poll between two evaluations, or at its end. -/
inductive Stage (σ ε : Type) where
  | going (w : Progress σ)
  | ended (f : Finished σ ε)

/-- What the poll has come to, if it is over. -/
def Stage.finished? : Stage σ ε → Option (Finished σ ε)
  | going _ => none
  | ended f => some f

/-- How far a poll on a timer has come, with its next evaluation at the time when it wakes. -/
def Task.stage : Task σ ε → Stage σ ε
  | sleeping wake w => .going { w with now := wake }
  | finished f => .ended f

namespace Policy

section
variable (p : Policy) (label : String) (condition : Condition σ ε)

/-! ### Sleeping in place -/

/-- One turn of the loop: an evaluation, and the sleep behind it. -/
def step (w : Progress σ) : Stage σ ε :=
  let (x, state) := condition w.state w.now
  let attempts := w.attempts + 1
  let elapsed := w.now + x.took
  let verdict := p.judge label elapsed attempts x.answer
  let starts := w.now :: w.starts
  let reported :=
    (verdict.events label elapsed attempts).reverse ++ (x.events.reverse ++ w.reported)
  match verdict with
  | .again => .going { state, now := elapsed + p.interval, attempts, starts, reported }
  | .stop result => .ended
      { result, state, elapsed, starts := starts.reverse, events := reported.reverse }

/-- The poll after at most `n` evaluations. -/
def stage : (n : Nat) → Progress σ → Stage σ ε
  | 0, w => .going w
  | n + 1, w =>
    match p.step label condition w with
    | .going w' => stage n w'
    | .ended f => .ended f

/-- The first `n` evaluations, or as many as there are, each with the time at which it begins. -/
def evaluations : (n : Nat) → Progress σ → List (Duration × Evaluation ε)
  | 0, _ => []
  | n + 1, w =>
    (w.now, (condition w.state w.now).1) ::
      match p.step label condition w with
      | .going w' => evaluations n w'
      | .ended _ => []

/-- The loop takes turns until the poll is over. -/
theorem waitFor_succ (fuel : Nat) (w : Progress σ) :
    p.waitFor label condition (fuel + 1) w =
      match p.step label condition w with
      | .going w' => p.waitFor label condition fuel w'
      | .ended f => some f := by
  simp only [waitFor, step]
  cases p.judge label (w.now + (condition w.state w.now).1.took) (w.attempts + 1)
    (condition w.state w.now).1.answer <;> rfl

/-- So a poll has a result within `n` evaluations exactly if it is over after them. -/
theorem waitFor_eq (n : Nat) (w : Progress σ) :
    p.waitFor label condition n w = (p.stage label condition n w).finished? := by
  induction n generalizing w with
  | zero => rfl
  | succ n ih =>
      rw [waitFor_succ, stage]
      cases p.step label condition w with
      | going w' => exact ih w'
      | ended f => rfl

/-- A turn records when its evaluation began. -/
theorem starts_of_step (w : Progress σ) :
    match p.step label condition w with
    | .going w' => w'.starts = w.now :: w.starts
    | .ended f => f.starts = (w.now :: w.starts).reverse := by
  simp only [step]
  cases p.judge label (w.now + (condition w.state w.now).1.took) (w.attempts + 1)
    (condition w.state w.now).1.answer <;> rfl

/-- The times that a poll has recorded in the end are those of its evaluations. -/
theorem starts_of_waitFor {n : Nat} {w : Progress σ} {f : Finished σ ε}
    (h : p.waitFor label condition n w = some f) :
    f.starts = w.starts.reverse ++ (p.evaluations label condition n w).map (·.1) := by
  induction n generalizing w with
  | zero => cases h
  | succ n ih =>
      rw [waitFor_succ] at h
      have hstarts := starts_of_step p label condition w
      rw [evaluations]
      cases hstep : p.step label condition w with
      | going w' =>
          rw [hstep] at h hstarts
          rw [ih h, hstarts, List.reverse_cons, List.append_assoc]
          rfl
      | ended f' =>
          rw [hstep] at h hstarts
          cases h
          rw [hstarts, List.reverse_cons]
          rfl

/-! ### On a timer -/

/-- The poll after at most `n` wakings. -/
def task : (n : Nat) → Task σ ε → Task σ ε
  | 0, t => t
  | n + 1, .sleeping wake w => task n (p.resume label condition wake w)
  | _ + 1, .finished f => .finished f

/-- The evaluations at the first `n` wakings, or as many as there are. -/
def timerEvaluations : (n : Nat) → Task σ ε → List (Duration × Evaluation ε)
  | 0, _ => []
  | n + 1, .sleeping wake w =>
    (wake, (condition w.state wake).1) :: timerEvaluations n (p.resume label condition wake w)
  | _ + 1, .finished _ => []

/-- A poll on a timer has a result within `n` wakings exactly if it is over after them. -/
theorem drive_eq (n : Nat) (t : Task σ ε) :
    p.drive label condition n t = (p.task label condition n t).stage.finished? := by
  induction n generalizing t with
  | zero => cases t <;> rfl
  | succ n ih =>
      cases t with
      | sleeping wake w => exact ih _
      | finished f => rfl

/-- Between two wakings the poll does what the loop does in one turn. -/
theorem stage_resume (wake : Duration) (w : Progress σ) :
    (p.resume label condition wake w).stage = p.step label condition { w with now := wake } := by
  simp only [resume, step]
  cases p.judge label (wake + (condition w.state wake).1.took) (w.attempts + 1)
    (condition w.state wake).1.answer <;> rfl

/-- So both polls have come equally far after each number of evaluations. -/
theorem stage_task (n : Nat) (wake : Duration) (w : Progress σ) :
    (p.task label condition n (.sleeping wake w)).stage =
      p.stage label condition n { w with now := wake } := by
  induction n generalizing wake w with
  | zero => rfl
  | succ n ih =>
      rw [task, stage, ← stage_resume]
      cases p.resume label condition wake w with
      | sleeping wake' w' => exact ih wake' w'
      | finished f => cases n <;> rfl

/-- And they have made the same evaluations at the same times. -/
theorem timerEvaluations_eq (n : Nat) (wake : Duration) (w : Progress σ) :
    p.timerEvaluations label condition n (.sleeping wake w) =
      p.evaluations label condition n { w with now := wake } := by
  induction n generalizing wake w with
  | zero => rfl
  | succ n ih =>
      rw [timerEvaluations, evaluations, ← stage_resume]
      cases p.resume label condition wake w with
      | sleeping wake' w' => exact congrArg _ (ih wake' w')
      | finished f => cases n <;> rfl

/-- Waiting on a timer and sleeping in place come to the same. -/
theorem waitForTimer_eq_waitFor (state : σ) (fuel : Nat) :
    p.waitForTimer label condition fuel state = p.waitFor label condition fuel { state } := by
  rw [waitForTimer, drive_eq, stage_task, waitFor_eq]

end

end Policy

end Convergence
