import Convergence.Mac
import Convergence.Text.Quoted
import Convergence.Value

/-!
# `Convergence.Decode.Error`: why a value is not a record

The causes that decoding a value can fail for, and the one text of each.
-/

set_option autoImplicit false

namespace Convergence

/-- What was met in place of the expected kind of value. -/
inductive Found where
  | null
  | bool (b : Bool)
  | int (n : Int)
  | float (x : BinaryFloat)
  | string (s : String)
  | sequence
  | map
  deriving DecidableEq, Repr

/-- What a value is met as. -/
def Value.found : Value → Found
  | .null => .null
  | .bool b => .bool b
  | .int n => .int n
  | .float x => .float x
  | .string s => .string s
  | .array _ => .sequence
  | .object _ => .map

/-- What was met, in words. -/
def Found.text : Found → String
  | null => "null"
  | bool b => if b then "boolean `true`" else "boolean `false`"
  | int n => "integer `" ++ intText n ++ "`"
  | float x => "floating point `" ++ x.messageText .double ++ "`"
  | string s => "string " ++ Text.quoted s
  | sequence => "sequence"
  | map => "map"

/-- The cause of a failed decoding. -/
inductive DecodeError where
  | wrongType (found : Found) (expected : String)
  | outOfRange (n : Int) (expected : String)
  /-- An object that should name one choice has no member or several. -/
  | notSingleKey
  | tooManyElements (count : Nat)
  | tooFewElements (count : Nat) (expected : String)
  | missingField (name : String)
  | unknownField (name : String) (known : List String)
  | unknownVariant (name : String) (known : List String)
  | invalidMac (e : InvalidMac)
  | invalidAddress
  deriving DecidableEq, Repr

namespace DecodeError

/-- A name between backquotes. -/
def ticked (name : String) : String := "`" ++ name ++ "`"

/-- The names that would have been right. -/
def alternatives : List String → String
  | [] => "nothing"
  | [a] => ticked a
  | [a, b] => ticked a ++ " or " ++ ticked b
  | names => "one of " ++ ", ".intercalate (names.map ticked)

/-- The text of the error. -/
def message : DecodeError → String
  | wrongType found expected => "invalid type: " ++ found.text ++ ", expected " ++ expected
  | outOfRange n expected => "invalid value: integer `" ++ intText n ++ "`, expected " ++ expected
  | notSingleKey => "invalid value: map, expected map with a single key"
  | tooManyElements n => "invalid length " ++ natText n ++ ", expected fewer elements in array"
  | tooFewElements n expected => "invalid length " ++ natText n ++ ", expected " ++ expected
  | missingField name => "missing field " ++ ticked name
  | unknownField name known =>
    "unknown field " ++ ticked name ++ ", expected " ++ alternatives known
  | unknownVariant name known =>
    "unknown variant " ++ ticked name ++ ", expected " ++ alternatives known
  | invalidMac e => e.message
  | invalidAddress => "invalid IP address syntax"

end DecodeError

end Convergence
