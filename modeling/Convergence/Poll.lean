import Convergence.Decode.Record
import Convergence.Duration
import Convergence.Event

/-!
# `Convergence.Poll`: waiting for a condition

A poll evaluates its condition again and again, an interval apart, until it holds, until it cannot
be evaluated, or until the timeout has passed.  `Policy.judge` decides after each evaluation; the
condition is always evaluated once, and once more after the deadline has passed during a sleep.
-/

set_option autoImplicit false

namespace Convergence

/-- How long to sleep between two evaluations, and how long to go on. -/
structure Policy where
  interval : Duration := .ofMillis 500
  timeout : Duration := .ofMillis 30000
  deriving DecidableEq, Repr

/-- The layout of a policy. -/
def Policy.schema : Schema Policy where
  name := "PollPolicy"
  fields := [
    .optional "interval-ms" .uint64 fun x r => { r with interval := .ofMillis x.toNat },
    .optional "timeout-ms" .uint64 fun x r => { r with timeout := .ofMillis x.toNat }]
  initial := {}
  strict := true

/-- Why a poll ended without its condition. -/
inductive PollError (ε : Type) where
  | timeout (condition : String) (elapsed : Duration) (attempts : UInt32)
  | failed (condition : String) (e : ε)
  deriving DecidableEq, Repr

namespace PollError

variable {ε : Type}

/-- The label of the condition. -/
def condition : PollError ε → String
  | timeout c _ _ => c
  | failed c _ => c

/-- The timeout has passed. -/
def isTimeout : PollError ε → Bool
  | timeout _ _ _ => true
  | failed _ _ => false

/-- The text of the error without its cause. -/
def message : PollError ε → String
  | timeout c _ _ => "timeout occurred while waiting for " ++ c
  | failed c _ => "error while waiting for " ++ c

/-- The messages of the error and of its causes. -/
def chain (causes : ε → List String) (e : PollError ε) : List String :=
  e.message :: match e with
    | timeout _ _ _ => []
    | failed _ cause => causes cause

/-- The report of the error. -/
def event (causes : ε → List String) (e : PollError ε) : Event where
  level := .warn
  component := .poll
  message := e.message
  fields := match e with
    | timeout c elapsed attempts =>
      [("condition", c), ("elapsed", Duration.text elapsed), ("attempts", natText attempts.toNat)]
    | failed c cause => [("condition", c), ("error", chainText (causes cause))]

end PollError

/-- What follows an evaluation. -/
inductive Verdict (ε : Type) where
  | again
  | stop (result : Except (PollError ε) Unit)

namespace Policy

variable {ε : Type}

/-- A condition that does not hold after that time is evaluated again. -/
def retries (p : Policy) (elapsed : Duration) : Bool :=
  p.interval ≤ p.timeout && elapsed < p.timeout

/-- Decides after an evaluation that ended at `elapsed`. -/
def judge (p : Policy) (condition : String) (elapsed : Duration) (attempts : UInt32) :
    Except ε Bool → Verdict ε
  | .error e => .stop (.error (.failed condition e))
  | .ok true => .stop (.ok ())
  | .ok false =>
    if p.retries elapsed then .again else .stop (.error (.timeout condition elapsed attempts))

end Policy

/-- What a poll reports about an evaluation: that the condition holds, or that it does not yet.
An error is reported by whoever asked for the poll. -/
def Verdict.events {ε : Type} (condition : String) (elapsed : Duration) (attempts : UInt32)
    (v : Verdict ε) : List Event :=
  let fields := [("condition", condition), ("elapsed", elapsed.text),
    ("attempts", natText attempts.toNat)]
  match v with
  | .again => [⟨.debug, .poll, "condition not met yet", fields⟩]
  | .stop (.ok ()) => [⟨.info, .poll, "done waiting", fields⟩]
  | .stop (.error _) => []

/-- The result of polling a condition that can always be evaluated. -/
inductive Outcome where
  | converged
  | timedOut
  deriving DecidableEq, Repr

namespace Outcome

/-- The condition held. -/
def isConverged (o : Outcome) : Bool := o == converged

/-- The timeout has passed. -/
def isTimedOut (o : Outcome) : Bool := o == timedOut

/-- The outcome of a poll that cannot fail. -/
def ofResult : Except (PollError Empty) Unit → Outcome
  | .ok () => converged
  | .error _ => timedOut

end Outcome

end Convergence
