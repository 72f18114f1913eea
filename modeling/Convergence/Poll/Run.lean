import Convergence.Poll

/-!
# `Convergence.Poll.Run`: polls on a clock of their own

The clock stands at zero when a poll begins and is moved by the evaluations, each of which takes
its time, and by sleeps.  A poll may go on for ever, so it is given a number of evaluations, `fuel`,
after which it is abandoned.

There are two ways to wait.  `Policy.waitFor` sleeps where it stands.  `Policy.resume` runs up to
the next sleep and hands back what is needed to go on, and `Policy.drive` wakes it when a timer
says so.
-/

set_option autoImplicit false

namespace Convergence

/-- One evaluation of a condition. -/
structure Evaluation (ε : Type) where
  answer : Except ε Bool
  /-- How long the evaluation takes. -/
  took : Duration := 0
  /-- What is reported during the evaluation. -/
  events : List Event := []

/-- A condition whose evaluation depends on a state and on the time since the poll began. -/
abbrev Condition (σ ε : Type) := σ → Duration → Evaluation ε × σ

/-- What a poll has done so far. -/
structure Progress (σ : Type) where
  state : σ
  /-- The time of the next evaluation. -/
  now : Duration := 0
  attempts : UInt32 := 0
  /-- When the evaluations began, the last one first. -/
  starts : List Duration := []
  /-- What was reported, the last event first. -/
  reported : List Event := []

/-- A poll that has ended. -/
structure Finished (σ ε : Type) where
  result : Except (PollError ε) Unit
  state : σ
  elapsed : Duration
  starts : List Duration
  events : List Event

/-- A poll at a point where it waits for the timer, or at its end. -/
inductive Task (σ ε : Type) where
  | sleeping (wake : Duration) (progress : Progress σ)
  | finished (f : Finished σ ε)

namespace Policy

variable {σ ε : Type}

/-- Waits for the condition, sleeping between two evaluations. -/
def waitFor (p : Policy) (label : String) (condition : Condition σ ε) :
    (fuel : Nat) → Progress σ → Option (Finished σ ε)
  | 0, _ => none
  | fuel + 1, w =>
    let (x, state) := condition w.state w.now
    let attempts := w.attempts + 1
    let elapsed := w.now + x.took
    let verdict := p.judge label elapsed attempts x.answer
    let starts := w.now :: w.starts
    let reported :=
      (verdict.events label elapsed attempts).reverse ++ (x.events.reverse ++ w.reported)
    match verdict with
    | .again => p.waitFor label condition fuel
        { state, now := elapsed + p.interval, attempts, starts, reported }
    | .stop result => some
        { result, state, elapsed, starts := starts.reverse, events := reported.reverse }

/-- Evaluates the condition once, at the given time, and says when to wake again. -/
def resume (p : Policy) (label : String) (condition : Condition σ ε) (now : Duration)
    (w : Progress σ) : Task σ ε :=
  let (x, state) := condition w.state now
  let attempts := w.attempts + 1
  let elapsed := now + x.took
  let starts := now :: w.starts
  let reported := x.events.reverse ++ w.reported
  match p.judge label elapsed attempts x.answer with
  | .again =>
    let e := (Verdict.again (ε := ε)).events label elapsed attempts
    .sleeping (elapsed + p.interval)
      { state, now := elapsed, attempts, starts, reported := e.reverse ++ reported }
  | .stop result =>
    let e := (Verdict.stop result).events label elapsed attempts
    .finished
      { result, state, elapsed, starts := starts.reverse,
        events := (e.reverse ++ reported).reverse }

/-- Moves the clock to each time at which the poll wants to wake. -/
def drive (p : Policy) (label : String) (condition : Condition σ ε) :
    (fuel : Nat) → Task σ ε → Option (Finished σ ε)
  | _, .finished f => some f
  | 0, .sleeping _ _ => none
  | fuel + 1, .sleeping wake w => p.drive label condition fuel (p.resume label condition wake w)

/-- Waits for the condition on a timer. -/
def waitForTimer (p : Policy) (label : String) (condition : Condition σ ε) (fuel : Nat)
    (state : σ) : Option (Finished σ ε) :=
  p.drive label condition fuel (.sleeping 0 { state })

/-- The label of conditions that have no name. -/
def plainLabel : String := "condition"

/-- Polls a condition that can always be evaluated. -/
def poll (p : Policy) (condition : Condition σ Empty) (fuel : Nat) (state : σ) :
    Option (Outcome × Finished σ Empty) :=
  (p.waitFor plainLabel condition fuel { state }).map fun f => (.ofResult f.result, f)

/-- Polls a condition that can always be evaluated, on a timer. -/
def pollTimer (p : Policy) (condition : Condition σ Empty) (fuel : Nat) (state : σ) :
    Option (Outcome × Finished σ Empty) :=
  (p.waitForTimer plainLabel condition fuel state).map fun f => (.ofResult f.result, f)

end Policy

end Convergence
