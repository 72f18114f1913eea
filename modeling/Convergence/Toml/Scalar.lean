import Convergence.Text.Quoted
import Convergence.Number.Decimal
import Convergence.Value

/-!
# `Convergence.Toml.Scalar`: numbers and words of TOML

A number or word stands without quotes.  Digits may be grouped by single underscores; a decimal
number has no leading zero.  Whole numbers lie between `-2 ^ 63` and `2 ^ 64 - 1`, and a float must
not be too large for 64 bits.  Dates and times have no place in the documents read here and count
as unknown words.
-/

set_option autoImplicit false

namespace Convergence.Toml

/-- What is wrong with a document. -/
inductive Error where
  | unexpectedEnd
  | unexpectedCharacter (c : Char)
  | controlCharacter
  | invalidEscape
  | unknownWord (word : String)
  | numberOutOfRange
  | tooDeep
  | duplicateKey (key : String)
  | notTable (key : String)
  deriving DecidableEq, Repr

/-- The text of the error. -/
def Error.message : Error → String
  | unexpectedEnd => "the document ends too early"
  | unexpectedCharacter c => "unexpected character " ++ Text.quoted c.toString
  | controlCharacter => "control character"
  | invalidEscape => "invalid escape"
  | unknownWord w => "neither a number nor a known word: " ++ Text.quoted w
  | numberOutOfRange => "number out of range"
  | tooDeep => "nested too deeply"
  | duplicateKey k => "key " ++ Text.quoted k ++ " is defined twice"
  | notTable k => "key " ++ Text.quoted k ++ " is not a table that can be extended"

/-- Digits in groups: an underscore stands between two digits. -/
def groupedDigits? (value? : Char → Option Nat) : List Char → Option (List Nat)
  | [] => none
  | [c] => (value? c).map ([·])
  | c :: '_' :: d :: cs => do
    let x ← value? c
    return x :: (← groupedDigits? value? (d :: cs))
  | c :: cs => do
    let x ← value? c
    return x :: (← groupedDigits? value? cs)

/-- A digit of a base up to eight. -/
def smallDigit? (base : Nat) (c : Char) : Option Nat :=
  (digit? c).filter (· < base)

/-- A sign and what follows it. -/
def takeSign : List Char → Bool × List Char
  | '-' :: cs => (true, cs)
  | '+' :: cs => (false, cs)
  | cs => (false, cs)

/-- Decimal digits without a leading zero. -/
def wholeDigits? (cs : List Char) : Option (List Nat) :=
  (groupedDigits? digit? cs).filter fun ds => ds.head? ≠ some 0 || ds == [0]

/-- A whole number of the range. -/
def boundedInt (n : Int) : Except Error Value :=
  if -9223372036854775808 ≤ n ∧ n ≤ 18446744073709551615 then .ok (.int n)
  else .error .numberOutOfRange

/-- A whole number: decimal with a sign or none, or in another base without a sign. -/
def integer? (cs : List Char) : Option Int :=
  match cs with
  | '0' :: 'x' :: ds => (groupedDigits? hexDigit? ds).map fun ds => ofDigits 16 ds
  | '0' :: 'o' :: ds => (groupedDigits? (smallDigit? 8) ds).map fun ds => ofDigits 8 ds
  | '0' :: 'b' :: ds => (groupedDigits? (smallDigit? 2) ds).map fun ds => ofDigits 2 ds
  | cs =>
    let (negative, ds) := takeSign cs
    (wholeDigits? ds).map fun ds => if negative then -ofDigits 10 ds else ofDigits 10 ds

/-- A float with a fraction, an exponent or both. -/
def float? (cs : List Char) : Option BinaryFloat := do
  let (negative, cs) := takeSign cs
  let isMark (c : Char) : Bool := c = 'e' || c = 'E'
  let mantissa := cs.takeWhile (!isMark ·)
  let exponent ← match cs.dropWhile (!isMark ·) with
    | [] => some 0
    | _ :: x =>
      let (minus, ds) := takeSign x
      (groupedDigits? digit? ds).map fun ds =>
        (if minus then -(ofDigits 10 ds : Int) else ofDigits 10 ds)
  let whole ← wholeDigits? (mantissa.takeWhile (· ≠ '.'))
  let fraction ← match mantissa.dropWhile (· ≠ '.') with
    | [] => some []
    | _ :: ds => groupedDigits? digit? ds
  return .ofDecimal .double negative
    ⟨ofDigits 10 (whole ++ fraction), exponent - fraction.length⟩

/-- The value of a word. -/
def ofWord (cs : List Char) : Except Error Value :=
  let (negative, unsigned) := takeSign cs
  if cs = "true".toList then .ok (.bool true)
  else if cs = "false".toList then .ok (.bool false)
  else if unsigned = "inf".toList then .ok (.float (.infinite negative))
  else if unsigned = "nan".toList then .ok (.float .nan)
  else match integer? cs, float? cs with
    | some n, _ => boundedInt n
    | none, some x => if x.isFinite then .ok (.float x) else .error .numberOutOfRange
    | none, none => .error (.unknownWord (String.ofList cs))

end Convergence.Toml
