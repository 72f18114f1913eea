/-!
# `Convergence.Number.Binary`: binary floating-point numbers

A datum is NaN, an infinity, or a signed number `m · 2 ^ e`, kept exactly and in one form only
(`m` is odd, or both parts are zero).  A format says which of these numbers it holds; `round`
takes any exact number to the nearest one that it holds, a half going to the even neighbour.

Main statements: `round_fits` (rounding lands in the format) and `narrow_of_fits` (a number that
the format holds is left alone), so that widening and narrowing again changes nothing.
-/

set_option autoImplicit false

namespace Convergence

/-- A binary floating-point datum; `finite s m e` stands for `± m · 2 ^ e`. -/
inductive BinaryFloat where
  | nan
  | infinite (negative : Bool)
  | finite (negative : Bool) (mantissa : Nat) (exponent : Int)
  deriving DecidableEq, Repr, Inhabited

/-- A binary format: the bits of its mantissa, the exponent of its least positive number, and
the exponent of the first power of two that is too large for it. -/
structure FloatFormat where
  precision : Nat
  least : Int
  limit : Int
  deriving DecidableEq, Repr

namespace FloatFormat

/-- The 32-bit interchange format. -/
def single : FloatFormat := ⟨24, -149, 128⟩

/-- The 64-bit interchange format. -/
def double : FloatFormat := ⟨53, -1074, 1024⟩

/-- The exponent of the unit in the last place of `m · 2 ^ e`, for a positive `m`. -/
def unit (f : FloatFormat) (m : Nat) (e : Int) : Int :=
  max (m.log2 + e + 1 - f.precision) f.least

end FloatFormat

/-- The quotient, rounded to the nearest whole number; a half goes to the even neighbour. -/
def roundQuotient (n d : Nat) : Nat :=
  let q := n / d
  let r := n % d
  if 2 * r < d then q
  else if d < 2 * r then q + 1
  else if q % 2 = 0 then q else q + 1

namespace BinaryFloat

/-- Positive zero. -/
def zero : BinaryFloat := finite false 0 0

/-- Takes the factors of two out of the mantissa. -/
def reduce (negative : Bool) (m : Nat) (e : Int) : BinaryFloat :=
  if h : m = 0 then finite negative 0 0
  else if m % 2 = 0 then reduce negative (m / 2) (e + 1)
  else finite negative m e
termination_by m
decreasing_by omega

/-- The format holds the datum.  NaN and the infinities are in every format. -/
def Fits (f : FloatFormat) : BinaryFloat → Prop
  | nan => True
  | infinite _ => True
  | finite _ m e =>
      (m = 0 ∧ e = 0) ∨
        (m % 2 = 1 ∧ m < Nat.pow 2 f.precision ∧ f.least ≤ e ∧ m.log2 + e < f.limit)

instance (f : FloatFormat) (x : BinaryFloat) : Decidable (Fits f x) :=
  match x with
  | nan => .isTrue trivial
  | infinite _ => .isTrue trivial
  | finite _ m e =>
      inferInstanceAs (Decidable ((m = 0 ∧ e = 0) ∨
        (m % 2 = 1 ∧ m < Nat.pow 2 f.precision ∧ f.least ≤ e ∧ m.log2 + e < f.limit)))

/-- The datum of the format nearest to `± m · 2 ^ e`; a number beyond the format becomes an
infinity. -/
def round (f : FloatFormat) (negative : Bool) (m : Nat) (e : Int) : BinaryFloat :=
  if m = 0 then finite negative 0 0
  else
    let u := f.unit m e
    let (q, x) := if u ≤ e then (m, e) else (roundQuotient m (Nat.pow 2 (u - e).toNat), u)
    if q = 0 then finite negative 0 0
    else if f.limit ≤ q.log2 + x then infinite negative
    else reduce negative q x

/-- Rounds a datum of a wider format to a narrower one. -/
def narrow (f : FloatFormat) : BinaryFloat → BinaryFloat
  | nan => nan
  | infinite s => infinite s
  | finite s m e => round f s m e

/-- The datum nearest to a whole number. -/
def ofNat (f : FloatFormat) (n : Nat) : BinaryFloat := round f false n 0

/-- The datum nearest to a whole number. -/
def ofInt (f : FloatFormat) (n : Int) : BinaryFloat := round f (n < 0) n.natAbs 0

/-- The product, rounded once. -/
def mul (f : FloatFormat) : BinaryFloat → BinaryFloat → BinaryFloat
  | finite s m e, finite t n d => round f (s != t) (m * n) (e + d)
  | finite s m _, infinite t | infinite s, finite t m _ => if m = 0 then nan else infinite (s != t)
  | infinite s, infinite t => infinite (s != t)
  | _, _ => nan

/-- The quotient `± (m · 2 ^ e) / (n · 2 ^ d)` of exact numbers, rounded once.  Enough bits of
the quotient are kept for the format; one more bit says whether anything was cut off. -/
def roundRatio (f : FloatFormat) (negative : Bool) (m : Nat) (e : Int) (n : Nat) (d : Int) :
    BinaryFloat :=
  let shift := f.precision + 3 + n.log2 - m.log2
  let scaled := m * Nat.pow 2 shift
  let q := 2 * (scaled / n) + (if scaled % n = 0 then 0 else 1)
  round f negative q (e - d - shift - 1)

/-- The quotient, rounded once. -/
def div (f : FloatFormat) : BinaryFloat → BinaryFloat → BinaryFloat
  | finite s m e, finite t n d =>
      if n = 0 then (if m = 0 then nan else infinite (s != t)) else roundRatio f (s != t) m e n d
  | finite s _ _, infinite t => finite (s != t) 0 0
  | infinite s, finite t _ _ => infinite (s != t)
  | _, _ => nan

/-- The same datum with the other sign. -/
def neg : BinaryFloat → BinaryFloat
  | nan => nan
  | infinite s => infinite (!s)
  | finite s m e => finite (!s) m e

/-- Neither NaN nor an infinity. -/
def isFinite : BinaryFloat → Bool
  | finite _ _ _ => true
  | _ => false

/-- Equality of numbers: NaN equals nothing, and the two zeros are equal. -/
def eqv : BinaryFloat → BinaryFloat → Bool
  | finite s m e, finite t n d => (m == 0 && n == 0) || (s == t && m == n && e == d)
  | infinite s, infinite t => s == t
  | _, _ => false

/-! ### Rounding and the format -/

theorem log2_half {m : Nat} (h0 : m ≠ 0) (h : m % 2 = 0) : m.log2 = (m / 2).log2 + 1 := by
  have h2 : 2 ≤ m := by omega
  rw [Nat.log2_def m, if_pos h2]

/-- A reduced number lies in the format as soon as its factors say so. -/
theorem reduce_fits (f : FloatFormat) (negative : Bool) (m : Nat) (e : Int)
    (hm : m < Nat.pow 2 f.precision ∨ m = Nat.pow 2 f.precision) (hp : 0 < f.precision)
    (he : f.least ≤ e) (hl : m.log2 + e < f.limit) : (reduce negative m e).Fits f := by
  fun_induction reduce negative m e with
  | case1 e => exact .inl ⟨rfl, rfl⟩
  | case2 m e h0 h2 ih =>
    refine ih ?_ (by omega) ?_
    · left
      have : 0 < Nat.pow 2 f.precision := Nat.two_pow_pos _
      omega
    · rw [log2_half h0 h2] at hl
      omega
  | case3 m e h0 h1 =>
    refine .inr ⟨by omega, ?_, he, hl⟩
    rcases hm with hm | hm
    · exact hm
    · obtain ⟨k, hk⟩ : ∃ k, f.precision = k + 1 := ⟨f.precision - 1, by omega⟩
      rw [hk, show Nat.pow 2 (k + 1) = Nat.pow 2 k * 2 from rfl] at hm
      omega

theorem roundQuotient_le {n d b : Nat} (hd : 0 < d) (h : n < b * d) : roundQuotient n d ≤ b := by
  have hq : n / d < b := (Nat.div_lt_iff_lt_mul hd).2 h
  simp only [roundQuotient]
  repeat' split
  all_goals omega

/-- Rounding lands in the format. -/
theorem round_fits (f : FloatFormat) (hp : 0 < f.precision) (negative : Bool) (m : Nat) (e : Int) :
    (round f negative m e).Fits f := by
  unfold round
  split
  · exact .inl ⟨rfl, rfl⟩
  · rename_i h0
    have hu : f.unit m e = max (m.log2 + e + 1 - f.precision) f.least := rfl
    by_cases h : f.unit m e ≤ e
    · simp only [h, if_true, h0, if_false]
      split
      · trivial
      · refine reduce_fits f negative m e (.inl ?_) hp (by omega) (by omega)
        exact (Nat.log2_lt h0).1 (by omega)
    · simp only [h, if_false]
      split
      · exact .inl ⟨rfl, rfl⟩
      · split
        · trivial
        · refine reduce_fits f negative _ _ ?_ hp (by omega) (by omega)
          have hlt : m < Nat.pow 2 f.precision * Nat.pow 2 (f.unit m e - e).toNat := by
            show m < 2 ^ f.precision * 2 ^ (f.unit m e - e).toNat
            rw [← Nat.pow_add]
            exact (Nat.log2_lt h0).1 (by omega)
          have : 0 < Nat.pow 2 (f.unit m e - e).toNat := Nat.two_pow_pos _
          have := roundQuotient_le this hlt
          omega

theorem narrow_fits (f : FloatFormat) (hp : 0 < f.precision) (x : BinaryFloat) :
    (x.narrow f).Fits f := by
  cases x with
  | nan => trivial
  | infinite s => trivial
  | finite s m e => exact round_fits f hp s m e

/-- A number that the format holds is its own nearest one. -/
theorem narrow_of_fits (f : FloatFormat) {x : BinaryFloat} (h : x.Fits f) : x.narrow f = x := by
  cases x with
  | nan => rfl
  | infinite s => rfl
  | finite s m e =>
    rcases h with ⟨rfl, rfl⟩ | ⟨h1, h2, h3, h4⟩
    · rfl
    · have h0 : m ≠ 0 := by omega
      have hlog : m.log2 < f.precision := (Nat.log2_lt h0).2 h2
      have hu : f.unit m e ≤ e := by
        simp only [FloatFormat.unit]
        omega
      have hl : ¬ f.limit ≤ m.log2 + e := by omega
      simp only [narrow, round, h0, hu, hl, if_true, if_false]
      rw [reduce]
      simp [h0, h1]

end BinaryFloat

end Convergence
