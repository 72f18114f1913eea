import Convergence.Number.Decimal
import Convergence.Value

/-!
# `Convergence.Value.Number`: number literals

A literal is split into sign, digits, fraction and exponent.  Without fraction and exponent it is
a whole number if it lies between `-2 ^ 63` and `2 ^ 64 - 1`; all others, and `-0`, are floats.
A float is read from as many leading digits as stay below `2 ^ 64`, which are scaled by a power of
ten with one rounding for each of the two steps.
-/

set_option autoImplicit false

namespace Convergence

/-- A number literal taken apart. -/
structure Literal where
  negative : Bool
  whole : List Nat
  /-- The digits after the point, if there is one. -/
  fraction : Option (List Nat)
  /-- The sign and digits of the exponent, if there is one. -/
  exponent : Option (Bool × List Nat)

namespace Literal

/-- The leading digits of a text and what follows them. -/
def takeDigits : List Char → List Nat × List Char
  | [] => ([], [])
  | c :: cs =>
    match digit? c with
    | none => ([], c :: cs)
    | some d =>
      let (ds, rest) := takeDigits cs
      (d :: ds, rest)

/-- Takes a literal apart: a minus sign or none, digits without a leading zero, a fraction and an
exponent with at least one digit each. -/
def ofChars? (cs : List Char) : Option Literal := do
  let (negative, cs) := match cs with
    | '-' :: cs => (true, cs)
    | cs => (false, cs)
  let (whole, cs) := takeDigits cs
  guard (whole ≠ [] ∧ (whole.head? = some 0 → whole = [0]))
  let (fraction, cs) := match cs with
    | '.' :: cs =>
      let (ds, cs) := takeDigits cs
      (some ds, cs)
    | cs => (none, cs)
  guard (fraction ≠ some [])
  let (exponent, cs) := match cs with
    | c :: cs =>
      if c = 'e' ∨ c = 'E' then
        let (minus, cs) := match cs with
          | '-' :: cs => (true, cs)
          | '+' :: cs => (false, cs)
          | cs => (false, cs)
        let (ds, cs) := takeDigits cs
        (some (minus, ds), cs)
      else (none, c :: cs)
    | [] => (none, [])
  guard (exponent.map (·.2) ≠ some [] ∧ cs = [])
  return ⟨negative, whole, fraction, exponent⟩

/-- Appends digits to a number while it stays below `2 ^ 64`, and gives back the others. -/
def absorb (n : Nat) : List Nat → Nat × List Nat
  | [] => (n, [])
  | d :: ds => if 10 * n + d < 18446744073709551616 then absorb (10 * n + d) ds else (n, d :: ds)

/-- The float nearest to a power of ten. -/
def power (k : Nat) : BinaryFloat := .ofDecimal .double false ⟨1, k⟩

/-- Divides by `10 ^ k`, by no more than `10 ^ 308` at once. -/
def scaleDown (x : BinaryFloat) (k : Nat) : BinaryFloat :=
  if k ≤ 308 then x.div .double (power k)
  else if x.eqv .zero then x
  else scaleDown (x.div .double (power 308)) (k - 308)
termination_by k

/-- The float `n · 10 ^ k`; none if it is too large. -/
def scale? (n : Nat) (k : Int) : Option BinaryFloat :=
  let x := BinaryFloat.ofNat .double n
  if k < 0 then some (scaleDown x k.natAbs)
  else if k ≤ 308 then
    let y := x.mul .double (power k.toNat)
    if y.isFinite then some y else none
  else if n = 0 then some x
  else none

/-- The value that a literal writes; none if it is a float too large for its format. -/
def value? (l : Literal) : Option Value :=
  let (n, left) := absorb 0 l.whole
  let signed (x : BinaryFloat) : Value := .float (if l.negative then x.neg else x)
  if l.fraction = none ∧ l.exponent = none ∧ left = [] then
    if ¬l.negative then some (.int n)
    else if 0 < n ∧ n ≤ 9223372036854775808 then some (.int (-n))
    else some (signed (.ofNat .double n))
  else
    let fraction := l.fraction.getD []
    let (m, ignored) := absorb n fraction
    let shift : Int := match l.exponent with
      | none => 0
      | some (minus, ds) => if minus then -ofDigits 10 ds else ofDigits 10 ds
    (scale? m (left.length - (fraction.length - ignored.length : Nat) + shift)).map signed

end Literal

end Convergence
