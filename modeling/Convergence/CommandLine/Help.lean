import Convergence.CommandLine

/-!
# `Convergence.CommandLine.Help`: what the program says about itself
-/

set_option autoImplicit false

namespace Convergence

namespace Setting

/-- What the value of the option is called. -/
def valueName : Setting → String
  | config | snapshot | expected => "file"
  | interval | timeout => "millis"
  | condition => "label"

/-- What the option is for. -/
def help : Setting → String
  | config => "Specify an alternative configuration file."
  | snapshot => "JSON telemetry snapshot, re-read on every attempt."
  | expected => "TOML file describing the expected state."
  | interval => "Time to sleep between two attempts."
  | timeout => "Maximum time to wait."
  | condition => "Label used in log messages."

/-- A line about the option. -/
def helpLine (s : Setting) : String :=
  let short := match s.short? with
    | some c => String.ofList ['-', c, ',', ' ']
    | none => "    "
  let name := "    " ++ short ++ "--" ++ s.long ++ " <" ++ s.valueName ++ ">"
  name ++ String.ofList (List.replicate (36 - name.length) ' ') ++ s.help

end Setting

namespace CommandLine

/-- The name and the version of the program. -/
def versionText : String := "Telemetry convergence waiter 0.1.0"

/-- How the program is called. -/
def usageText : String := "USAGE:\n    conv-wait [OPTIONS] --expected <file> --snapshot <file>"

/-- What is said of a command line that is refused. -/
def refusalText (e : UsageError) : String := "error: " ++ e.message ++ "\n\n" ++ usageText

/-- The help. -/
def helpText : String :=
  "\n".intercalate ([versionText, "", usageText, "", "FLAGS:",
    "    -h, --help                      Prints help information",
    "    -V, --version                   Prints version information", "", "OPTIONS:"] ++
    Setting.all.map Setting.helpLine)

end CommandLine

end Convergence
