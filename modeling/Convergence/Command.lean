import Convergence.Program

/-!
# `Convergence.Command`: the program step by step

The command is written for any monad that has its effects.  `World` names them: what the command
finds out about its surroundings, what it writes, and how time passes.  `Convergence.Main` runs it
in `IO`.  In the world that given surroundings make, it does what `program` says
(`Convergence.Proofs.Program.Command`).
-/

set_option autoImplicit false

namespace Convergence

/-- What the command needs of the world around it. -/
structure World (m : Type → Type) where
  /-- What stands under the name of an input file. -/
  file : String → m FileState
  /-- What stands under the name of the snapshot now. -/
  snapshot : String → m FileState
  /-- The text of the log filter. -/
  filter : m String
  /-- Makes the log file.  Answers why it cannot be made, if it cannot. -/
  makeLog : FileLog → m (Option String)
  /-- Writes an event to the logs. -/
  log : Logging → Event → m Unit
  /-- Writes to standard output. -/
  print : String → m Unit
  /-- Writes to standard error. -/
  complain : String → m Unit
  /-- The time since some start. -/
  now : m Duration
  sleep : Duration → m Unit
  /-- Makes an evaluation of the condition, which takes its time. -/
  evaluate : m (Except ReadError Bool) → m (Except ReadError Bool)

section
variable {m : Type → Type} [Monad m]

/-- Answers a path by one more read of the snapshot. -/
def World.get (w : World m) (name : String) (p : Path) : m (Except ReadError (Option Value)) :=
  return (← w.snapshot name).source name p

/-- The condition that the snapshot is as expected. -/
def World.condition (w : World m) (report : Event → m Unit) (name : String) (e : Expectation) :
    m (Except ReadError Bool) :=
  w.evaluate do
    let r ← e.inspect.runM (w.get name)
    r.events.forM report
    return r.result

/-- One evaluation of the condition, and the sleep behind it if there is to be another.  Answers
how many evaluations there have been, or how the poll ends. -/
def Plan.turn (p : Plan) (w : World m) (report : Event → m Unit) (a : Arguments)
    (start : Duration) (attempts : UInt32) :
    m (UInt32 ⊕ Except (PollError ReadError) Unit) := do
  let answer ← w.condition report a.snapshot p.expected
  let elapsed := (← w.now) - start
  let attempts := attempts + 1
  let verdict := p.policy.judge a.label elapsed attempts answer
  (verdict.events a.label elapsed attempts).forM report
  match verdict with
  | .again =>
    w.sleep p.policy.interval
    return .inl attempts
  | .stop result => return .inr result

/-- Carries out a plan. -/
def Plan.carryOut (p : Plan) (w : World m) (report : Event → m Unit) (a : Arguments) :
    m Ending := do
  if p.expected.isEmpty then return .nothingExpected
  else
    report (p.announcement a.label)
    return .polled (← repeatM (p.turn w report a (← w.now)) 0)

/-- Runs with these arguments. -/
def Arguments.carryOut (a : Arguments) (w : World m) (report : Event → m Unit)
    (configured : Policy) : m Ending := do
  match Plan.make a configured (← w.file a.expected) with
  | .error e => return .refused e
  | .ok p => p.carryOut w report a

/-- Makes the log file of the configuration, unless the log is off. -/
def World.startLog (w : World m) (logging : Logging) : m (Option String) :=
  if logging.file.enabled then w.makeLog logging.file else return none

/-- Logs an event, if the filter admits it. -/
def World.report (w : World m) (logging : Logging) (filter : LogFilter) (e : Event) : m Unit :=
  if filter.admits e then w.log logging e else return ()

/-- The program with its arguments.  Answers the exit code. -/
def command (w : World m) (args : List String) : m Nat := do
  match Arguments.parse args with
  | .error stop =>
    stop.printed.forM w.print
    stop.complaints.forM w.complain
    return (Process.stopped stop).exitCode
  | .ok a =>
    match Config.load a.configPath (← w.file a.configPath) with
    | .error e =>
      w.complain (chainText e.chain)
      return (Process.badConfig e).exitCode
    | .ok loaded =>
      loaded.notice.forM w.complain
      match ← w.startLog loaded.config.logging with
      | some reason =>
        w.complain reason
        return (Process.brokenOff loaded reason).exitCode
      | none =>
        let (filter, ignored) := LogFilter.parse (← w.filter)
        (ignored.map LogFilter.Ignored.line).forM w.complain
        let report := w.report loaded.config.logging filter
        let ending ← a.carryOut w report loaded.config.poll
        (ending.complaints (chainText ·.chain)).forM w.complain
        (ending.events ReadError.chain).forM report
        return ending.status.code

end

end Convergence
