import Convergence.InputError
import Convergence.Poll

/-!
# `Convergence.Config`: the configuration file

Where log lines go and how they look, and the poll policy.  A key that is not known is refused at
every depth.  `Config.load` takes a file that cannot be read for one that is not there, and answers
the defaults.
-/

set_option autoImplicit false

namespace Convergence

/-- The layout of log lines. -/
inductive LogStyle where
  | compact
  | full
  | json
  | pretty
  deriving DecidableEq, Repr

/-- When a log file is followed by a new one. -/
inductive Rotation where
  | never
  | hourly
  | daily
  deriving DecidableEq, Repr

/-- What log lines look like. -/
structure LogFormat where
  style : LogStyle := .full
  colors : Bool := false
  showThreadId : Bool := false
  showSource : Bool := false
  deriving DecidableEq, Repr

/-- The log file. -/
structure FileLog where
  enabled : Bool := false
  dir : String := "."
  name : String := "conv-wait.log"
  rotation : Rotation := .never
  format : LogFormat := {}
  deriving DecidableEq, Repr

/-- The log on standard output. -/
structure ConsoleLog where
  enabled : Bool := true
  format : LogFormat := { style := .compact }
  deriving DecidableEq, Repr

/-- The logs. -/
structure Logging where
  file : FileLog := {}
  console : ConsoleLog := {}
  deriving DecidableEq, Repr

/-- The configuration. -/
structure Config where
  logging : Logging := {}
  poll : Policy := {}
  deriving DecidableEq, Repr

/-! ### Reading -/

/-- The spellings of styles. -/
def LogStyle.decode : Decoder LogStyle :=
  .choice [("compact", .compact), ("full", .full), ("json", .json), ("pretty", .pretty)]

/-- The spellings of rotations. -/
def Rotation.decode : Decoder Rotation :=
  .choice [("never", .never), ("hourly", .hourly), ("daily", .daily)]

/-- The keys of a format, which stand among the keys of the log that has it. -/
def LogFormat.fields {ρ : Type} (change : (LogFormat → LogFormat) → ρ → ρ) : List (Field ρ) := [
  .optional "style" (fun _ => LogStyle.decode .shared) fun x => change ({ · with style := x }),
  .optional "colors" .bool fun x => change ({ · with colors := x }),
  .optional "show_thread_id" .bool fun x => change ({ · with showThreadId := x }),
  .optional "show_source" .bool fun x => change ({ · with showSource := x })]

/-- The layout of the log file's table. -/
def FileLog.schema : Schema FileLog where
  name := "LoggingFile"
  fields := [
    .optional "enabled" .bool fun x r => { r with enabled := x },
    .optional "dir" .string fun x r => { r with dir := x },
    .optional "name" .string fun x r => { r with name := x },
    .optional "rotation" Rotation.decode fun x r => { r with rotation := x }] ++
    LogFormat.fields fun f r => { r with format := f r.format }
  initial := {}
  strict := true

/-- The layout of the table of standard output.  Where the table is written, lines are laid out in
full unless it names a style. -/
def ConsoleLog.schema : Schema ConsoleLog where
  name := "LoggingStdout"
  fields :=
    .optional "enabled" .bool (fun x r => { r with enabled := x }) ::
    LogFormat.fields fun f r => { r with format := f r.format }
  initial := { format := {} }
  strict := true

/-- A record that stands as a table only. -/
def Schema.decodeTable {ρ : Type} (s : Schema ρ) : Decoder ρ := fun f v =>
  match v with
  | .object ms => s.ofMembers f ms
  | v => .error (.wrongType v.found ("struct " ++ s.name))

/-- The layout of the logs. -/
def Logging.schema : Schema Logging where
  name := "Logging"
  fields := [
    .optional "file" FileLog.schema.decodeTable fun x r => { r with file := x },
    .optional "stdout" ConsoleLog.schema.decodeTable fun x r => { r with console := x }]
  initial := {}
  strict := true

/-- The layout of the configuration. -/
def Config.schema : Schema Config where
  name := "Config"
  fields := [
    .optional "logging" Logging.schema.decode fun x r => { r with logging := x },
    .optional "poll" Policy.schema.decode fun x r => { r with poll := x }]
  initial := {}
  strict := true

namespace Config

/-- The file that is read when no other is named. -/
def defaultPath : String := "conv-wait.toml"

/-- A configuration, and why its file could not be read if the defaults stand for it. -/
structure Loaded where
  config : Config
  unread : Option FileError
  deriving DecidableEq, Repr

/-- The configuration that a file holds.  A file that cannot be read gives the defaults. -/
def load (path : String) (file : FileState) : Except InputError Loaded :=
  match file.read with
  | .ok text => ((Toml.load Config.schema.decode text).map (⟨·, none⟩)).mapError (.unusable path)
  | .error e => .ok ⟨{}, some e⟩

end Config

end Convergence
