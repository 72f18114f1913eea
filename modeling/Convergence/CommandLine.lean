import Convergence.InputError
import Convergence.Poll

/-!
# `Convergence.CommandLine`: the arguments of the program

Options take a value: `--snapshot file`, `--snapshot=file`, `-s file`, `-sfile` or `-s=file`.  An
argument that begins with a dash is never the value of the option before it.  There are no
arguments besides options.

`read` lists the options as they are given; `Arguments.ofGiven` then asks for the ones that must be
given, for a value of each, and that none is given twice.
-/

set_option autoImplicit false

namespace Convergence

/-- The options that take a value. -/
inductive Setting where
  | config
  | snapshot
  | expected
  | interval
  | timeout
  | condition
  deriving DecidableEq, Repr

namespace Setting

/-- All options that take a value. -/
def all : List Setting := [config, snapshot, expected, interval, timeout, condition]

/-- The long name. -/
def long : Setting → String
  | config => "config"
  | snapshot => "snapshot"
  | expected => "expected"
  | interval => "interval-ms"
  | timeout => "timeout-ms"
  | condition => "condition"

/-- The letter, for options that have one. -/
def short? : Setting → Option Char
  | config => some 'c'
  | snapshot => some 's'
  | expected => some 'e'
  | _ => none

end Setting

/-- The arguments of a run. -/
structure Arguments where
  snapshot : String
  expected : String
  config : Option String := none
  interval : Option String := none
  timeout : Option String := none
  condition : Option String := none
  deriving DecidableEq, Repr

/-- What is wrong with a command line. -/
inductive UsageError where
  | missingRequired
  | unknownArgument
  | emptyValue
  | repeated
  deriving DecidableEq, Repr

/-- The text of the error. -/
def UsageError.message : UsageError → String
  | missingRequired => "--snapshot and --expected must be given"
  | unknownArgument => "unknown argument"
  | emptyValue => "an option needs a value"
  | repeated => "an option is given more than once"

/-- A command line that asks for something other than a run. -/
inductive Stop where
  | help
  | version
  | wrong (e : UsageError)
  deriving DecidableEq, Repr

namespace CommandLine

/-- An option as it is given, and its value once that is known. -/
structure Given where
  setting : Setting
  value : Option String
  deriving DecidableEq, Repr

/-- The argument is an option and not a value. -/
def isOption : List Char → Bool
  | ['-'] => false
  | '-' :: _ => true
  | _ => false

/-- The text behind the characters of one kind that it begins with. -/
def strip (c : Char) (cs : List Char) : List Char := cs.dropWhile (· = c)

/-- An option by its long name, with a value behind an equals sign if there is one. -/
def ofLong (cs : List Char) : Except Stop Given :=
  let name := String.ofList (cs.takeWhile (· ≠ '='))
  let value := match cs.dropWhile (· ≠ '=') with
    | [] => none
    | v => some (String.ofList (strip '=' v))
  match Setting.all.find? (·.long == name) with
  | some setting => .ok ⟨setting, value⟩
  | none =>
    if name = "help" then .error .help
    else if name = "version" then .error .version
    else .error (.wrong .unknownArgument)

/-- An option by its letter, with the rest as its value if there is one. -/
def ofShort : List Char → Except Stop Given
  | [] => .error (.wrong .unknownArgument)
  | c :: rest =>
    match Setting.all.find? (·.short? == some c) with
    | some setting =>
      .ok ⟨setting, if rest = [] then none else some (String.ofList (strip '=' rest))⟩
    | none =>
      if c = 'h' then .error .help
      else if c = 'V' then .error .version
      else .error (.wrong .unknownArgument)

/-- The option that an argument gives. -/
def ofArgument : List Char → Except Stop Given
  | '-' :: '-' :: cs => ofLong (strip '-' cs)
  | cs => ofShort (strip '-' cs)

/-- The options in the order in which they are given.  `awaiting` says that the next argument may
be the value of the last option; `acc` are the earlier options, the last one first. -/
def readOptions : (awaiting : Bool) → (acc : List Given) → List String → Except Stop (List Given)
  | _, acc, [] => .ok acc.reverse
  | awaiting, acc, a :: rest =>
    if a = "--" then
      if rest = [] then .ok acc.reverse else .error (.wrong .unknownArgument)
    else if isOption a.toList then
      match ofArgument a.toList with
      | .ok g => readOptions g.value.isNone (g :: acc) rest
      | .error stop => .error stop
    else match awaiting, acc with
      | true, g :: acc => readOptions false ({ g with value := some a } :: acc) rest
      | _, _ => .error (.wrong .unknownArgument)

/-- The values of an option. -/
def values (setting : Setting) (given : List Given) : List String :=
  (given.filter (·.setting == setting)).filterMap (·.value)

/-- How often an option is given. -/
def count (setting : Setting) (given : List Given) : Nat :=
  given.countP (·.setting == setting)

end CommandLine

open CommandLine in
/-- The arguments that options amount to. -/
def Arguments.ofGiven (given : List Given) : Except UsageError Arguments :=
  if count .snapshot given = 0 ∨ count .expected given = 0 then .error .missingRequired
  else if Setting.all.any fun s => count s given ≠ 0 ∧ values s given = [] then .error .emptyValue
  else if Setting.all.any fun s => 1 < count s given then .error .repeated
  else
    let value (s : Setting) := (values s given).head?
    match value .snapshot, value .expected with
    | some snapshot, some expected => .ok {
        snapshot, expected, config := value .config, interval := value .interval,
        timeout := value .timeout, condition := value .condition }
    | _, _ => .error .emptyValue

namespace Arguments

/-- The arguments of a command line. -/
def parse (args : List String) : Except Stop Arguments := do
  (ofGiven (← CommandLine.readOptions false [] args)).mapError .wrong

/-- The value of an option. -/
def value? (a : Arguments) : Setting → Option String
  | .config => a.config
  | .snapshot => some a.snapshot
  | .expected => some a.expected
  | .interval => a.interval
  | .timeout => a.timeout
  | .condition => a.condition

/-- A whole number below `2 ^ 64` in decimal digits, with or without a plus sign. -/
def number? (text : String) : Option Nat :=
  unsigned? digit? 10 18446744073709551616 text.toList

/-- The number of milliseconds that an option gives. -/
def millis (a : Arguments) (setting : Setting) : Except InputError (Option Duration) :=
  match a.value? setting with
  | none => .ok none
  | some text =>
    match number? text with
    | some n => .ok (some (.ofMillis n))
    | none => .error (.invalidArgument setting.long text)

/-- The policy of a run: what the command line gives stands before what is configured. -/
def policy (a : Arguments) (configured : Policy) : Except InputError Policy := do
  let interval ← a.millis .interval
  let timeout ← a.millis .timeout
  return ⟨interval.getD configured.interval, timeout.getD configured.timeout⟩

/-- The label of the condition. -/
def label (a : Arguments) : String := a.condition.getD "telemetry convergence"

end Arguments

end Convergence
