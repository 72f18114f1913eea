import Convergence.Number.Binary

/-!
# `Convergence.Number.Shortest`: the fewest digits that read back

A positive number `m · 2 ^ e` of a binary format is the nearest one of its format to a whole
interval of reals.  `shortest` finds the coarsest decimal grid with a point in that interval and
takes the point nearest to the number.  All comparisons are made between whole numbers.
-/

set_option autoImplicit false

namespace Convergence

/-- A decimal number `digits · 10 ^ exponent`. -/
structure Decimal where
  digits : Nat
  exponent : Int
  deriving DecidableEq, Repr

/-- Where a number halfway between two candidates goes. -/
inductive Tie where
  | up
  | even
  deriving DecidableEq, Repr

namespace BinaryFloat

/-- The interval of reals that round to a number, in quarters of its last place: the number is
`value`, the ends are `low` and `high`, and they belong to the interval when `closed`. -/
structure Interval where
  low : Nat
  value : Nat
  high : Nat
  closed : Bool
  /-- The exponent of one quarter of the last place. -/
  exponent : Int

/-- The interval of `m · 2 ^ e`, for a positive number that the format holds.  Below a power of
two the neighbours are half as far apart. -/
def interval (f : FloatFormat) (m : Nat) (e : Int) : Interval :=
  let u := f.unit m e
  let q := m * Nat.pow 2 (e - u).toNat
  let narrower := q = Nat.pow 2 (f.precision - 1) ∧ f.least < u
  { low := if narrower then 4 * q - 1 else 4 * q - 2
    value := 4 * q
    high := 4 * q + 2
    closed := q % 2 = 0
    exponent := u - 2 }

namespace Interval

/-- `n · a` lies in the interval, whose unit is `b`. -/
def contains (i : Interval) (a b n : Nat) : Bool :=
  if i.closed then i.low * b ≤ n * a && n * a ≤ i.high * b
  else i.low * b < n * a && n * a < i.high * b

/-- Of the multiples of `10 ^ k`, the one in the interval that is nearest to its number. -/
def nearest? (i : Interval) (tie : Tie) (k : Int) : Option Nat :=
  let a := Nat.pow 10 k.toNat * Nat.pow 2 (-i.exponent).toNat
  let b := Nat.pow 2 i.exponent.toNat * Nat.pow 10 (-k).toNat
  let n := i.value * b / a
  let r := i.value * b % a
  let up : Bool := match tie with
    | .up => decide (a ≤ 2 * r)
    | .even => decide (a < 2 * r) || (a == 2 * r && n % 2 == 1)
  let (first, second) := if up then (n + 1, n) else (n, n + 1)
  if first ≠ 0 && i.contains a b first then some first
  else if second ≠ 0 && i.contains a b second then some second
  else none

/-- Tries the grids `10 ^ k`, `10 ^ (k - 1)`, …, at most `steps` of them. -/
def search (i : Interval) (tie : Tie) : (steps : Nat) → (k : Int) → Decimal
  | 0, k => ⟨0, k⟩
  | steps + 1, k =>
    match i.nearest? tie k with
    | some n => ⟨n, k⟩
    | none => i.search tie steps (k - 1)

end Interval

/-- The shortest decimal that rounds to the positive number `m · 2 ^ e` of the format.  The first
grid tried is coarser than the number, and seventeen digits always read back, so that twenty-four
grids are enough. -/
def shortest (f : FloatFormat) (tie : Tie) (m : Nat) (e : Int) : Decimal :=
  let k := (m.log2 + e) * 30103 / 100000 + 2
  (interval f m e).search tie 24 k

end BinaryFloat

end Convergence
