import Convergence.Number.Shortest

/-!
# `Convergence.Number.Decimal`: decimal text

Reading digits, writing whole numbers, and the two texts of a floating-point number: in full, as
tables and records show it, and with an exponent beyond sixteen places, as messages show it.
-/

set_option autoImplicit false

namespace Convergence

/-- The value of an ASCII decimal digit. -/
def digit? (c : Char) : Option Nat :=
  if '0' ≤ c ∧ c ≤ '9' then some (c.toNat - '0'.toNat) else none

/-- The value of an ASCII hexadecimal digit, of either case. -/
def hexDigit? (c : Char) : Option Nat :=
  if '0' ≤ c ∧ c ≤ '9' then some (c.toNat - '0'.toNat)
  else if 'a' ≤ c ∧ c ≤ 'f' then some (c.toNat - 'a'.toNat + 10)
  else if 'A' ≤ c ∧ c ≤ 'F' then some (c.toNat - 'A'.toNat + 10)
  else none

/-- The number that a string of digits of the given base writes. -/
def ofDigits (base : Nat) (ds : List Nat) : Nat :=
  ds.foldl (fun n d => base * n + d) 0

/-- The number below the bound that digits of the base write, one at least. -/
def digits? (value? : Char → Option Nat) (base bound : Nat) (ds : List Char) : Option Nat :=
  if ds = [] then none else ((ds.mapM value?).map (ofDigits base)).filter (· < bound)

/-- A number below the bound with or without a plus sign before its digits. -/
def unsigned? (value? : Char → Option Nat) (base bound : Nat) : List Char → Option Nat
  | '+' :: ds => digits? value? base bound ds
  | ds => digits? value? base bound ds

/-- The digits of a whole number. -/
def decimalDigits (n : Nat) : List Char := Nat.toDigits 10 n

/-- A whole number as text. -/
def natText (n : Nat) : String := String.ofList (decimalDigits n)

/-- A whole number as text, with a minus sign if it is negative. -/
def intText : Int → String
  | .ofNat n => natText n
  | .negSucc n => String.ofList ('-' :: decimalDigits (n + 1))

/-- A number below `base ^ width` in exactly `width` digits. -/
def paddedDigits (base width n : Nat) : List Char :=
  let ds := Nat.toDigits base n
  List.replicate (width - ds.length) '0' ++ ds

namespace Decimal

/-- The same number without trailing zeros, looked for at most as often as there are digits. -/
def trim (d : Decimal) : Decimal := go (decimalDigits d.digits).length d
where
  go : Nat → Decimal → Decimal
    | 0, d => d
    | n + 1, d =>
      if d.digits ≠ 0 ∧ d.digits % 10 = 0 then go n ⟨d.digits / 10, d.exponent + 1⟩ else d

/-- All digits, without an exponent and without a point after a whole number. -/
def plain (d : Decimal) : List Char :=
  let ds := decimalDigits d.digits
  if 0 ≤ d.exponent then ds ++ List.replicate d.exponent.toNat '0'
  else
    let places := (-d.exponent).toNat
    if places < ds.length then
      ds.take (ds.length - places) ++ '.' :: ds.drop (ds.length - places)
    else '0' :: '.' :: (List.replicate (places - ds.length) '0' ++ ds)

/-- One digit, the others after a point if there are any, and a signed exponent of at least two
digits. -/
def scientific (d : Decimal) : List Char :=
  let ds := decimalDigits d.digits
  let x := d.exponent + (ds.length - 1 : Nat)
  let fraction := match ds.drop 1 with
    | [] => []
    | rest => '.' :: rest
  ds.take 1 ++ fraction ++ 'e' :: (if x < 0 then '-' else '+') :: paddedDigits 10 2 x.natAbs

end Decimal

namespace BinaryFloat

/-- The fewest digits that read back, never with an exponent; a tie goes away from zero. -/
def plainText (f : FloatFormat) : BinaryFloat → String
  | nan => "NaN"
  | infinite s => if s then "-inf" else "inf"
  | finite s m e =>
    let ds := if m = 0 then ['0'] else (shortest f .up m e).trim.plain
    String.ofList (if s then '-' :: ds else ds)

/-- The fewest digits that read back, with at least one decimal; with an exponent from `1e16` up
and below `1e-5`.  A tie goes to the even digit. -/
def messageText (f : FloatFormat) : BinaryFloat → String
  | nan => "NaN"
  | infinite s => if s then "-inf" else "inf"
  | finite s m e =>
    let ds :=
      if m = 0 then ['0', '.', '0']
      else
        let d := (shortest f .even m e).trim
        let x := d.exponent + ((decimalDigits d.digits).length - 1 : Nat)
        if x < -5 ∨ 16 ≤ x then d.scientific
        else if 0 ≤ d.exponent then d.plain ++ ['.', '0']
        else d.plain
    String.ofList (if s then '-' :: ds else ds)

/-- The number of the format nearest to the decimal.  A number whose leading digit stands beyond
the four hundredth place is an infinity or zero in every format used here. -/
def ofDecimal (f : FloatFormat) (negative : Bool) (d : Decimal) : BinaryFloat :=
  let place := d.exponent + (decimalDigits d.digits).length
  if d.digits = 0 ∨ place < -400 then finite negative 0 0
  else if 400 < place then infinite negative
  else if 0 ≤ d.exponent then round f negative (d.digits * Nat.pow 10 d.exponent.toNat) 0
  else roundRatio f negative d.digits 0 (Nat.pow 10 (-d.exponent).toNat) 0

end BinaryFloat

end Convergence
