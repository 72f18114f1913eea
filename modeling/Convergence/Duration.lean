import Convergence.Number.Decimal

/-!
# `Convergence.Duration`: lengths of time
-/

set_option autoImplicit false

namespace Convergence

/-- A length of time, or a time since some start, in nanoseconds. -/
abbrev Duration := Nat

namespace Duration

/-- So many milliseconds. -/
def ofMillis (ms : Nat) : Duration := ms * 1000000

/-- The whole milliseconds. -/
def toMillis (d : Duration) : Nat := d / 1000000

/-- A number with the digits of a fraction after it, trailing zeros left out. -/
def withFraction (whole places fraction : Nat) : List Char :=
  let ds := ((paddedDigits 10 places fraction).reverse.dropWhile (· = '0')).reverse
  decimalDigits whole ++ (if ds = [] then [] else '.' :: ds)

/-- The length in the largest of the units second, millisecond, microsecond and nanosecond that it
holds at least once. -/
def text (d : Duration) : String :=
  if 1000000000 ≤ d then
    String.ofList (withFraction (d / 1000000000) 9 (d % 1000000000) ++ ['s'])
  else if 1000000 ≤ d then
    String.ofList (withFraction (d / 1000000) 6 (d % 1000000) ++ ['m', 's'])
  else if 1000 ≤ d then
    String.ofList (withFraction (d / 1000) 3 (d % 1000) ++ ['µ', 's'])
  else natText d ++ "ns"

end Duration

end Convergence
