import Convergence.Error

/-!
# `Convergence.Event`: log events

What the parts of the program report while they run.  An event names its part by the target under
which log filters know it.
-/

set_option autoImplicit false

namespace Convergence

/-- How important an event is, the least important first. -/
inductive Level where
  | trace
  | debug
  | info
  | warn
  | error
  deriving DecidableEq, Repr

/-- The name of the level. -/
def Level.name : Level → String
  | trace => "TRACE"
  | debug => "DEBUG"
  | info => "INFO"
  | warn => "WARN"
  | error => "ERROR"

/-- The place of the level among the others, from the least important on. -/
def Level.rank : Level → Nat
  | trace => 0
  | debug => 1
  | info => 2
  | warn => 3
  | error => 4

/-- The part of the program that reports. -/
inductive Component where
  | program
  | poll
  | check
  | source
  deriving DecidableEq, Repr

/-- The target that filters select by. -/
def Component.target : Component → String
  | program => "conv_wait"
  | poll => "conv_utils::poll"
  | check => "conv_telemetry::check"
  | source => "conv_telemetry::error"

/-- A report with named texts. -/
structure Event where
  level : Level
  component : Component
  message : String
  fields : List (String × String) := []
  deriving DecidableEq, Repr

/-- The report of a failed telemetry read. -/
def ReadError.event (e : ReadError) : Event where
  level := .warn
  component := .source
  message := e.message
  fields := [("path", e.location), ("error", e.cause)]

end Convergence
