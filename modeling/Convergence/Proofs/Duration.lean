import Convergence.Duration
import Convergence.Proofs.Number.Digits
import Mathlib.Data.List.DropRight

/-!
# `Convergence.Proofs.Duration`: what the text of a length of time tells

A length is told in the largest unit that it holds at least once: how many of the unit it holds, the
digits of what is left over as a fraction of the unit, and the name of the unit (`IsToldBy`).  The
text of a length tells it (`isToldBy_text`).
-/

set_option autoImplicit false

namespace Convergence

/-- The units in which lengths of time are told. -/
inductive TimeUnit where
  | second
  | millisecond
  | microsecond
  | nanosecond

namespace TimeUnit

/-- How many nanoseconds the unit has. -/
def size : TimeUnit → Nat
  | second => 1000000000
  | millisecond => 1000000
  | microsecond => 1000
  | nanosecond => 1

/-- How the unit is written. -/
def symbol : TimeUnit → String
  | second => "s"
  | millisecond => "ms"
  | microsecond => "µs"
  | nanosecond => "ns"

/-- The unit is the largest that the length holds at least once.  Nothing is told in nanoseconds. -/
structure Suits (u : TimeUnit) (d : Duration) : Prop where
  holds : u.size ≤ d ∨ u = nanosecond
  largest : ∀ larger : TimeUnit, u.size < larger.size → d < larger.size

end TimeUnit

namespace Duration

/-- The text tells the length: how many of the unit there are, a point and the digits of a fraction
if something is left over, and the unit.  The fraction does not end with a zero. -/
def IsToldBy (d : Duration) (text : String) : Prop :=
  ∃ (u : TimeUnit) (whole : Nat) (fraction : List Nat), u.Suits d ∧
    text = toString whole ++
      (if fraction = [] then "" else "." ++ String.ofList (fraction.map Nat.digitChar)) ++
      u.symbol ∧
    (∀ x ∈ fraction, x < 10) ∧ fraction.getLast? ≠ some 0 ∧
    d * 10 ^ fraction.length =
      (whole * 10 ^ fraction.length + Nat.ofDigits 10 fraction.reverse) * u.size

/-! ### Zeros before the digits of a fraction, and behind them -/

/-- A number with zeros before it has the digits of the number. -/
theorem exists_paddedDigits {places n : Nat} (hplaces : 0 < places) (h : n < 10 ^ places) :
    ∃ ds : List Nat, paddedDigits 10 places n = ds.map Nat.digitChar ∧ ds.length = places ∧
      (∀ x ∈ ds, x < 10) ∧ Nat.ofDigits 10 ds.reverse = n := by
  have hlength := length_digitsOf_le (by decide) hplaces h
  refine ⟨List.replicate (places - (digitsOf 10 n).length) 0 ++ digitsOf 10 n, ?_, ?_, ?_, ?_⟩
  · rw [paddedDigits, toDigits_eq_map (by decide), List.map_append, List.map_replicate,
      List.length_map]
    rfl
  · -- A number below the bound has no more digits than there are places.
    rw [List.length_append, List.length_replicate]
    omega
  · intro x hx
    obtain hx | hx := List.mem_append.mp hx
    · rw [List.eq_of_mem_replicate hx]
      decide
    · exact lt_of_mem_digitsOf (by decide) hx
  · rw [List.reverse_append, Nat.ofDigits_append, ← ofDigits_eq, ofDigits_digitsOf,
      List.reverse_replicate, Nat.ofDigits_replicate_zero, Nat.mul_zero, Nat.add_zero]

/-- A list of digits is what is left of it without the zeros at its end, and zeros. -/
theorem exists_rdropWhile_append (ds : List Nat) :
    ∃ k, ds.rdropWhile (· = 0) ++ List.replicate k 0 = ds := by
  induction ds using List.reverseRecOn with
  | nil => exact ⟨0, rfl⟩
  | append_singleton ds x ih =>
      by_cases hx : x = 0
      · obtain ⟨k, hk⟩ := ih
        refine ⟨k + 1, ?_⟩
        rw [List.rdropWhile_concat, if_pos (by simpa using hx), List.replicate_succ',
          ← List.append_assoc, hk, hx]
      · refine ⟨0, ?_⟩
        rw [List.rdropWhile_concat, if_neg (by simpa using hx), List.replicate_zero,
          List.append_nil]

/-- The zeros can be left out before or after the digits are written. -/
theorem rdropWhile_map_digitChar {ds : List Nat} (h : ∀ x ∈ ds, x < 10) :
    (ds.map Nat.digitChar).rdropWhile (· = '0') = (ds.rdropWhile (· = 0)).map Nat.digitChar := by
  have hzero : ∀ x < 10, (Nat.digitChar x = '0' ↔ x = 0) := by decide
  induction ds using List.reverseRecOn with
  | nil => rfl
  | append_singleton ds x ih =>
      obtain ⟨hds, hx⟩ := List.forall_mem_append.mp h
      rw [List.map_append, List.map_singleton, List.rdropWhile_concat, List.rdropWhile_concat,
        ih hds]
      by_cases hlast : x = 0
      · rw [if_pos (by simpa using (hzero x (by simpa using hx)).mpr hlast),
          if_pos (by simpa using hlast)]
      · rw [if_neg (by simpa [hzero x (by simpa using hx)] using hlast),
          if_neg (by simpa using hlast), List.map_append, List.map_singleton]

/-- Zeros at the end of a fraction are left out, which does not change its value. -/
theorem exists_withFraction (whole : Nat) {places n : Nat} (hplaces : 0 < places)
    (h : n < 10 ^ places) :
    ∃ fraction : List Nat, withFraction whole places n = decimalDigits whole ++
        (if fraction = [] then [] else '.' :: fraction.map Nat.digitChar) ∧
      (∀ x ∈ fraction, x < 10) ∧ fraction.getLast? ≠ some 0 ∧
      n * 10 ^ fraction.length = Nat.ofDigits 10 fraction.reverse * 10 ^ places := by
  obtain ⟨ds, hpadded, rfl, hdigits, rfl⟩ := exists_paddedDigits hplaces h
  obtain ⟨k, hk⟩ := exists_rdropWhile_append ds
  generalize hfraction : ds.rdropWhile (· = 0) = fraction at hk
  refine ⟨fraction, ?_, ?_, ?_, ?_⟩
  · have htrimmed : ((ds.map Nat.digitChar).reverse.dropWhile (· = '0')).reverse =
        fraction.map Nat.digitChar := hfraction ▸ rdropWhile_map_digitChar hdigits
    rw [withFraction, hpadded, htrimmed]
    simp only [List.map_eq_nil_iff]
  · exact fun x hx => hdigits x (hk ▸ List.mem_append_left _ hx)
  · intro hlast
    have hne : fraction ≠ [] := by
      rintro rfl
      cases hlast
    subst hfraction
    refine List.rdropWhile_last_not _ _ hne (decide_eq_true ?_)
    rwa [List.getLast?_eq_some_getLast hne, Option.some.injEq] at hlast
  · -- Each zero that is left out stands for a power of ten.
    rw [← hk, List.reverse_append, Nat.ofDigits_append, List.reverse_replicate,
      Nat.ofDigits_replicate_zero, List.length_append, List.length_replicate, pow_add,
      Nat.zero_add, Nat.mul_comm (10 ^ k), Nat.mul_assoc, Nat.mul_comm (10 ^ k)]

/-! ### The text -/

/-- So many of a unit and the rest of them as a fraction tell a length. -/
theorem isToldBy_withFraction {d : Duration} {u : TimeUnit} (hu : u.Suits d) (places : Nat)
    (hplaces : 0 < places) (hsize : u.size = 10 ^ places) :
    d.IsToldBy (String.ofList (withFraction (d / u.size) places (d % u.size)) ++ u.symbol) := by
  have hlt : d % u.size < 10 ^ places := hsize ▸ Nat.mod_lt d (hsize ▸ Nat.pow_pos (by decide))
  obtain ⟨fraction, hchars, hdigits, hlast, hvalue⟩ := exists_withFraction (d / u.size) hplaces hlt
  refine ⟨u, d / u.size, fraction, hu, ?_, hdigits, hlast, ?_⟩
  · rw [hchars, String.ofList_append]
    split
    · rfl
    · rw [String.ofList_cons]
      rfl
  · calc d * 10 ^ fraction.length
      _ = (d / u.size * u.size + d % u.size) * 10 ^ fraction.length := by rw [Nat.div_add_mod']
      _ = d / u.size * u.size * 10 ^ fraction.length + d % u.size * 10 ^ fraction.length :=
          Nat.add_mul ..
      _ = d / u.size * 10 ^ fraction.length * u.size +
            Nat.ofDigits 10 fraction.reverse * u.size := by
          rw [hvalue, hsize, Nat.mul_right_comm]
      _ = _ := (Nat.add_mul ..).symm

/-- The text of a length tells it. -/
theorem isToldBy_text (d : Duration) : d.IsToldBy d.text := by
  unfold text
  -- The branches try the units from the largest one on, so a unit that was passed is too large.
  split_ifs with hs hms hus
  · have hsuits : TimeUnit.second.Suits d := by
      refine ⟨.inl hs, fun larger h => ?_⟩
      cases larger <;> simp [TimeUnit.size] at h
    rw [String.ofList_append]
    exact isToldBy_withFraction hsuits 9 (by decide) (by norm_num [TimeUnit.size])
  · have hsuits : TimeUnit.millisecond.Suits d := by
      refine ⟨.inl hms, fun larger h => ?_⟩
      cases larger with
      | second => exact Nat.lt_of_not_le hs
      | _ => simp [TimeUnit.size] at h
    rw [String.ofList_append]
    exact isToldBy_withFraction hsuits 6 (by decide) (by norm_num [TimeUnit.size])
  · have hsuits : TimeUnit.microsecond.Suits d := by
      refine ⟨.inl hus, fun larger h => ?_⟩
      cases larger with
      | second => exact Nat.lt_of_not_le hs
      | millisecond => exact Nat.lt_of_not_le hms
      | _ => simp [TimeUnit.size] at h
    rw [String.ofList_append]
    exact isToldBy_withFraction hsuits 3 (by decide) (by norm_num [TimeUnit.size])
  · have hsuits : TimeUnit.nanosecond.Suits d := by
      refine ⟨.inr rfl, fun larger h => ?_⟩
      cases larger with
      | second => exact Nat.lt_of_not_le hs
      | millisecond => exact Nat.lt_of_not_le hms
      | microsecond => exact Nat.lt_of_not_le hus
      | nanosecond => simp at h
    -- There is no smaller unit, so nothing is left over.
    refine ⟨.nanosecond, d, [], hsuits, ?_, nofun, nofun, ?_⟩
    · rw [if_pos rfl, String.append_empty]
      rfl
    · simp [TimeUnit.size]

end Duration

end Convergence
