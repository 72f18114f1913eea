import Convergence.Decode.Basic
import Convergence.Error
import Convergence.Toml.Parser

/-!
# `Convergence.InputError`: inputs of the program that are refused

The program reads two TOML files, its configuration and the expectation, and takes two numbers
from its command line.  Any of them can be bad; this is what can be wrong and how it is said.
-/

set_option autoImplicit false

namespace Convergence

/-- Why a text is not the record that a TOML document should hold. -/
inductive Toml.LoadError where
  | malformed (e : Toml.Error)
  | undecodable (e : DecodeError)
  deriving DecidableEq, Repr

/-- The text of the error. -/
def Toml.LoadError.message : Toml.LoadError → String
  | malformed e => e.message
  | undecodable e => e.message

/-- The record that a TOML document holds. -/
def Toml.load {α : Type} (d : Decoder α) (text : String) : Except Toml.LoadError α := do
  let v ← (Toml.parse text).mapError .malformed
  (d .toml v).mapError .undecodable

/-- Why an input is refused. -/
inductive InputError where
  | unreadable (path : String) (e : FileError)
  | unusable (path : String) (e : Toml.LoadError)
  /-- The value of an option is not a number of milliseconds. -/
  | invalidArgument (option : String) (value : String)
  deriving DecidableEq, Repr

namespace InputError

/-- The text of the error without its cause. -/
def message : InputError → String
  | unreadable path _ => "failed to read " ++ path
  | unusable path _ => "failed to parse " ++ path
  | invalidArgument option value => "invalid value for --" ++ option ++ ": " ++ value

/-- The text of the cause, if there is one. -/
def cause? : InputError → Option String
  | unreadable _ e => some e.message
  | unusable _ e => some e.message
  | invalidArgument _ _ => none

/-- The messages of the error and of its cause. -/
def chain (e : InputError) : List String := e.message :: e.cause?.toList

end InputError

end Convergence
