import Convergence.Number.Decimal
import Mathlib.Data.Nat.Digits.Lemmas

/-!
# `Convergence.Proofs.Number.Digits`: digits read back

A number is written as its digits from the first one on (`toDigits_eq_map`), and the digits of a
number add up to it (`ofDigits_digitsOf`).  `Reads` says of a reader of single characters that it
takes the digits of a base for what they are; `digit?` does so up to base 10, and `hexDigit?` up to
base 16.
-/

set_option autoImplicit false

namespace Convergence

/-- Digits are read from the front as the number that they write. -/
theorem ofDigits_eq (base : Nat) (ds : List Nat) :
    ofDigits base ds = Nat.ofDigits base ds.reverse := by
  rw [Nat.ofDigits_eq_foldr, List.foldr_reverse, ofDigits]
  congr 1
  funext n d
  exact Nat.add_comm _ _

/-- The digits of a number, the first one first. -/
def digitsOf (base n : Nat) : List Nat := if n = 0 then [0] else (Nat.digits base n).reverse

variable {base n d : Nat}

theorem digitsOf_ne_nil (base n : Nat) : digitsOf base n ≠ [] := by
  unfold digitsOf
  split
  · exact List.cons_ne_nil 0 []
  · rename_i hn
    rwa [List.reverse_ne_nil_iff, Nat.digits_ne_nil_iff_ne_zero]

theorem ofDigits_digitsOf (base n : Nat) : ofDigits base (digitsOf base n) = n := by
  rw [ofDigits_eq, digitsOf]
  split
  · rename_i hn
    subst hn
    rfl
  · rw [List.reverse_reverse, Nat.ofDigits_digits]

theorem lt_of_mem_digitsOf (hbase : 1 < base) (h : d ∈ digitsOf base n) : d < base := by
  unfold digitsOf at h
  split at h
  · rw [List.mem_singleton] at h
    omega
  · exact Nat.digits_lt_base hbase (List.mem_reverse.mp h)

/-- A leading zero is the only digit. -/
theorem digitsOf_of_head?_eq_zero (h : (digitsOf base n).head? = some 0) :
    digitsOf base n = [0] := by
  unfold digitsOf at h ⊢
  split
  · rfl
  · -- The first digit of a number that is not zero is its highest one.
    rename_i hn
    rw [if_neg hn, List.head?_reverse] at h
    have hdigits := (Nat.digits_ne_nil_iff_ne_zero (b := base)).mpr hn
    rw [List.getLast?_eq_some_getLast hdigits, Option.some.injEq] at h
    exact absurd h (Nat.getLast_digit_ne_zero base hn)

/-- The text of a number holds its digits. -/
theorem toDigits_eq_map (hbase : 1 < base) (n : Nat) :
    Nat.toDigits base n = (digitsOf base n).map Nat.digitChar := by
  induction n using Nat.strongRecOn with
  | ind n ih =>
      rw [Nat.toDigits_eq_if hbase]
      split
      · rename_i hlt
        rcases Nat.eq_zero_or_pos n with rfl | hpos
        · rfl
        · rw [digitsOf, if_neg hpos.ne', Nat.digits_of_lt base n hpos.ne' hlt]
          rfl
      · -- The last digit is the remainder, and the quotient has the digits before it.
        have hpos : 0 < n / base := Nat.div_pos (by omega) (by omega)
        have hdigits : Nat.digits base n = n % base :: Nat.digits base (n / base) :=
          Nat.digits_def' hbase (by omega)
        rw [ih (n / base) (Nat.div_lt_self (by omega) hbase), digitsOf, digitsOf, if_neg hpos.ne',
          if_neg (by omega), hdigits, List.reverse_cons, List.map_append]
        rfl

/-- A number below a power of the base has at most that many digits. -/
theorem length_digitsOf_le {k : Nat} (hbase : 1 < base) (hk : 0 < k) (h : n < base ^ k) :
    (digitsOf base n).length ≤ k := by
  rw [← List.length_map Nat.digitChar, ← toDigits_eq_map hbase]
  exact (Nat.length_toDigits_le_iff hbase hk).mpr h

/-- The reader takes the digits of the base for what they are. -/
def ReadsDigits (value? : Char → Option Nat) (base : Nat) : Prop :=
  ∀ d < base, value? (Nat.digitChar d) = some d

theorem readsDigits_digit? : ReadsDigits digit? 10 := by
  unfold ReadsDigits
  decide

theorem readsDigits_hexDigit? : ReadsDigits hexDigit? 16 := by
  unfold ReadsDigits
  decide

end Convergence
