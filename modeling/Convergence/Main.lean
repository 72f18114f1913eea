import Convergence.Command
import Convergence.LogLine
import Std.Time.DateTime

/-!
# `Convergence.Main`: the command in its world

Files, clocks and output for `Convergence.Command`.
-/

set_option autoImplicit false

namespace Convergence.Main

/-- What stands under a file name now. -/
def fileState (path : String) : IO FileState := do
  try return .content (← IO.FS.readBinFile path)
  catch
    | .noFileOrDirectory _ _ _ => return .missing
    | .inappropriateType _ 21 _ => return .directory
    | e => return .broken (toString e)

/-- The present moment. -/
def moment : IO Moment := do
  let t := Std.Time.PlainDateTime.ofWallTime ((← Std.Time.Timestamp.now).toWallTime .zero)
  return {
    year := t.year.toInt.toNat, month := t.month.val.toNat, day := t.day.val.toNat,
    hour := t.hour.val.toNat, minute := t.minute.val.toNat, second := t.second.val.toNat,
    microsecond := t.nanosecond.val.toNat / 1000 }

/-- Writes to the end of a file, which is made if it is not there. -/
def append (path text : String) : IO Unit := do
  let handle ← IO.FS.Handle.mk path .append
  handle.putStr text

/-- Does what it can: a log that cannot be written ends nothing. -/
def attempt (act : IO Unit) : IO Unit := do
  try act catch _ => return ()

/-- Makes the log file.  Answers why it cannot be made, if it cannot. -/
def makeLog (f : FileLog) : IO (Option String) := do
  try
    if f.dir ≠ "" then IO.FS.createDirAll f.dir
    append (f.path (← moment)) ""
    return none
  catch e => return some (toString e)

/-- Writes an event to the logs. -/
def log (logging : Logging) (e : Event) : IO Unit := do
  let now ← moment
  if logging.file.enabled then
    attempt (append (logging.file.path now) (e.line logging.file.format now ++ "\n"))
  if logging.console.enabled then
    attempt (IO.println (e.line logging.console.format now))

/-- The world around the process. -/
def world : World IO where
  file := fileState
  snapshot := fileState
  filter := return (← IO.getEnv "RUST_LOG").getD ""
  makeLog
  log
  print := IO.println
  complain := IO.eprintln
  now := IO.monoNanosNow
  sleep d := IO.sleep (UInt32.ofNat (min d.toMillis 4294967295))
  evaluate := id

end Convergence.Main

/-- Runs the command. -/
def main (args : List String) : IO UInt32 :=
  return UInt32.ofNat (← Convergence.command Convergence.Main.world args)
