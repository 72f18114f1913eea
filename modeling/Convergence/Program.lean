import Convergence.CommandLine.Help
import Convergence.Config
import Convergence.Expectation.Codec
import Convergence.LogFilter
import Convergence.Snapshot

/-!
# `Convergence.Program`: what the program does

A run takes the policy from the command line and the configuration, reads the expectation, and
polls the snapshot until it is as expected.  How it ends decides the exit status.  The whole program
is a run with what comes before it: the command line, the configuration, the log file and the log
filter.  `program` says what becomes of given surroundings; `Convergence.Command` is the same
program step by step.
-/

set_option autoImplicit false

namespace Convergence

/-- What the program reports by its exit status. -/
inductive ExitStatus where
  | converged
  | timedOut
  | unreadable
  | invalidInput
  deriving DecidableEq, Repr

/-- The number of the exit status. -/
def ExitStatus.code : ExitStatus → Nat
  | converged => 0
  | timedOut => 1
  | unreadable => 2
  | invalidInput => 3

/-- The exit status of a poll. -/
def ExitStatus.ofPoll {ε : Type} : Except (PollError ε) Unit → ExitStatus
  | .ok () => converged
  | .error (.timeout _ _ _) => timedOut
  | .error (.failed _ _) => unreadable

/-- The expectation that a file holds. -/
def Expectation.load (path : String) (file : FileState) : Except InputError Expectation := do
  let text ← file.read.mapError (.unreadable path)
  (Toml.load Expectation.schema.decode text).mapError (.unusable path)

/-- What a run is to do. -/
structure Plan where
  policy : Policy
  expected : Expectation

/-- The plan of a run.  The command line is looked at before the expectation. -/
def Plan.make (a : Arguments) (configured : Policy) (expected : FileState) :
    Except InputError Plan := do
  let policy ← a.policy configured
  return { policy, expected := ← Expectation.load a.expected expected }

/-- How a run ends. -/
inductive Ending where
  | refused (e : InputError)
  | nothingExpected
  | polled (result : Except (PollError ReadError) Unit)

namespace Ending

/-- The exit status. -/
def status : Ending → ExitStatus
  | refused _ => .invalidInput
  | nothingExpected => .converged
  | polled result => .ofPoll result

/-- What is printed on standard error; `text` says what is told of a bad input. -/
def complaints (text : InputError → String) : Ending → List String
  | refused e => [text e]
  | _ => []

/-- What is reported last; `causes` says what is told of a failed read. -/
def events (causes : ReadError → List String) : Ending → List Event
  | refused _ => []
  | nothingExpected => [⟨.info, .program, "nothing to wait for", []⟩]
  | polled (.ok ()) => []
  | polled (.error e) => [e.event causes]

end Ending

/-- A run that has ended. -/
structure Run where
  ending : Ending
  /-- What was reported before the end. -/
  reported : List Event := []
  /-- What became of the snapshot. -/
  used : SnapshotUse := {}
  /-- How long the poll took. -/
  elapsed : Duration := 0

/-- Everything that the run reported. -/
def Run.events (r : Run) : List Event := r.reported ++ r.ending.events ReadError.chain

/-- The report that the poll begins. -/
def Plan.announcement (p : Plan) (label : String) : Event where
  level := .info
  component := .program
  message := "waiting"
  fields := [("condition", label), ("interval", p.policy.interval.text),
    ("timeout", p.policy.timeout.text)]

/-- Carries out a plan, with at most `fuel` evaluations of the condition. -/
def Plan.run (p : Plan) (label : String) (s : Snapshot) (fuel : Nat) : Option Run :=
  if p.expected.isEmpty then some { ending := .nothingExpected }
  else
    (p.policy.waitFor label (s.condition p.expected) fuel { state := {} }).map fun f => {
      ending := .polled f.result
      reported := p.announcement label :: f.events
      used := f.state
      elapsed := f.elapsed }

namespace Arguments

/-- Runs with these arguments. -/
def run (a : Arguments) (configured : Policy) (expected : FileState) (s : Snapshot) (fuel : Nat) :
    Option Run :=
  match Plan.make a configured expected with
  | .error e => some { ending := .refused e }
  | .ok p => p.run a.label s fuel

/-- The file that holds the configuration. -/
def configPath (a : Arguments) : String := a.config.getD Config.defaultPath

end Arguments

/-- What the program finds when it is started. -/
structure Surroundings where
  /-- The files by name, each over time. -/
  files : String → FileHistory
  /-- How long each evaluation of the condition takes, counted from zero. -/
  took : Nat → Duration := fun _ => 0
  /-- The text of the log filter. -/
  filter : String := ""
  /-- Why a log file cannot be made, if it cannot. -/
  logFailure : FileLog → Option String := fun _ => none

/-- The snapshot that the arguments name. -/
def Surroundings.snapshot (w : Surroundings) (a : Arguments) : Snapshot where
  name := a.snapshot
  history := w.files a.snapshot
  took := w.took

/-- Why the log file of the configuration cannot be made.  A log that is off has none. -/
def Surroundings.logFailure? (w : Surroundings) (logging : Logging) : Option String :=
  if logging.file.enabled then w.logFailure logging.file else none

/-- What the program did. -/
inductive Process where
  /-- It did not get beyond its command line. -/
  | stopped (s : Stop)
  | badConfig (e : InputError)
  /-- It broke off, because its log file could not be made. -/
  | brokenOff (loaded : Config.Loaded) (reason : String)
  | ran (loaded : Config.Loaded) (filter : LogFilter) (ignored : List LogFilter.Ignored) (r : Run)

/-- What a command line that ends the program prints on standard output. -/
def Stop.printed : Stop → List String
  | help => [CommandLine.helpText]
  | version => [CommandLine.versionText]
  | wrong _ => []

/-- What it prints on standard error. -/
def Stop.complaints : Stop → List String
  | wrong e => [CommandLine.refusalText e]
  | _ => []

/-- The lines that say that the defaults stand for a configuration that could not be read. -/
def Config.Loaded.notice (loaded : Config.Loaded) : List String :=
  match loaded.unread with
  | some e =>
    ["Failed to load configuration file: " ++ e.message, "Falling back to default configuration..."]
  | none => []

namespace Process

/-- The exit code.  A command line that is wrong has the code of a timeout, and a program that
breaks off has one that is none of an exit status. -/
def exitCode : Process → Nat
  | stopped (.wrong _) => 1
  | stopped _ => 0
  | badConfig _ => ExitStatus.invalidInput.code
  | brokenOff _ _ => 101
  | ran _ _ _ r => r.ending.status.code

/-- The configuration that a run had. -/
def config? : Process → Option Config
  | ran loaded _ _ _ => some loaded.config
  | _ => none

/-- What became of the snapshot. -/
def used : Process → SnapshotUse
  | ran _ _ _ r => r.used
  | _ => {}

/-- How long its poll took. -/
def elapsed : Process → Duration
  | ran _ _ _ r => r.elapsed
  | _ => 0

/-- The events that are logged. -/
def logged (events : Run → List Event) : Process → List Event
  | ran _ filter _ r => (events r).filter filter.admits
  | _ => []

/-- What is printed on standard output besides the log. -/
def printed : Process → List String
  | stopped s => s.printed
  | _ => []

/-- What is printed on standard error; `text` says what is told of a bad input. -/
def complaints (text : InputError → String) : Process → List String
  | stopped s => s.complaints
  | badConfig e => [text e]
  | brokenOff loaded reason => loaded.notice ++ [reason]
  | ran loaded _ ignored r =>
    loaded.notice ++ ignored.map LogFilter.Ignored.line ++ r.ending.complaints text

end Process

/-- The program with its arguments, and with at most `fuel` evaluations of its condition. -/
def program (args : List String) (w : Surroundings) (fuel : Nat) : Option Process :=
  match Arguments.parse args with
  | .error stop => some (.stopped stop)
  | .ok a =>
    match Config.load a.configPath (w.files a.configPath 0) with
    | .error e => some (.badConfig e)
    | .ok loaded =>
      match w.logFailure? loaded.config.logging with
      | some reason => some (.brokenOff loaded reason)
      | none =>
        let (filter, ignored) := LogFilter.parse w.filter
        (a.run loaded.config.poll (w.files a.expected 0) (w.snapshot a) fuel).map
          (.ran loaded filter ignored)

end Convergence
