import Convergence.Proofs.Number.Digits
import Convergence.Value.Parser

/-!
# `Convergence.Proofs.Number.Literal`: literals of whole numbers

The literal of a whole number of 64 bits is read as that number (`Value.ofWord_intText`), and no
literal of a whole number is read as another one (`Value.eq_of_ofWord_intText`): where the number is
too large for a document, the literal is one of a float, or of nothing at all.  Digits are gathered
while what they write is small enough (`Literal.absorb_eq`), and those that are left over make the
literal one of a float.  So does a fraction or an exponent, even if the literal writes a whole
number (`Value.exists_float_of_ofWord`).
-/

set_option autoImplicit false

namespace Convergence

namespace Literal

/-- The digits of a number are taken for what they are. -/
theorem takeDigits_map {ds : List Nat} (h : ∀ d ∈ ds, d < 10) :
    takeDigits (ds.map Nat.digitChar) = (ds, []) := by
  induction ds with
  | nil => rfl
  | cons d ds ih =>
      obtain ⟨hd, hds⟩ := List.forall_mem_cons.mp h
      rw [List.map_cons, takeDigits, readsDigits_digit? d hd, ih hds]

/-- More digits never make a number smaller. -/
theorem le_foldl (n : Nat) (ds : List Nat) : n ≤ ds.foldl (fun n d => 10 * n + d) n := by
  induction ds generalizing n with
  | nil => exact Nat.le_refl n
  | cons d ds ih => exact Nat.le_trans (by omega) (ih (10 * n + d))

/-- Digits that write a number of 64 bits are gathered, and if all are gathered, then they are
gathered into the number that they write. -/
theorem absorb_eq (n : Nat) (ds : List Nat) :
    (ds.foldl (fun n d => 10 * n + d) n < 18446744073709551616 → (absorb n ds).2 = []) ∧
      ((absorb n ds).2 = [] → (absorb n ds).1 = ds.foldl (fun n d => 10 * n + d) n) := by
  induction ds generalizing n with
  | nil => exact ⟨fun _ => rfl, fun _ => rfl⟩
  | cons d ds ih =>
      rw [absorb, List.foldl_cons]
      split
      · exact ih (10 * n + d)
      · rename_i hd
        have hle := le_foldl (10 * n + d) ds
        exact ⟨fun hsmall => absurd (Nat.lt_of_le_of_lt hle hsmall) hd,
          fun hnil => absurd hnil (List.cons_ne_nil d ds)⟩

/-- Digits alone are read as a whole number if they write one of 64 bits. -/
theorem value?_of_lt {ds : List Nat} (h : ofDigits 10 ds < 18446744073709551616) :
    (⟨false, ds, none, none⟩ : Literal).value? = some (.int (ofDigits 10 ds)) := by
  have hleft : (absorb 0 ds).2 = [] := (absorb_eq 0 ds).1 h
  have hvalue : (absorb 0 ds).1 = ofDigits 10 ds := (absorb_eq 0 ds).2 hleft
  simp [value?, hleft, hvalue]

/-- If they are read as a whole number, it is the one that they write. -/
theorem eq_of_value? {negative : Bool} {ds : List Nat} {m : Int}
    (h : (⟨negative, ds, none, none⟩ : Literal).value? = some (.int m)) :
    m = if negative then -(ofDigits 10 ds : Int) else ofDigits 10 ds := by
  simp only [value?, true_and] at h
  split at h
  · rename_i hleft
    have hvalue : (absorb 0 ds).1 = ofDigits 10 ds := (absorb_eq 0 ds).2 hleft
    rw [hvalue] at h
    cases negative with
    | false =>
        cases h
        rfl
    | true =>
        simp only [not_true_eq_false, if_false] at h
        -- Zero with a sign, and what lies below the smallest number, is a float.
        split at h
        · cases h
          rfl
        · cases h
  · obtain ⟨x, -, hx⟩ := Option.map_eq_some_iff.mp h
    cases hx

/-- A literal with a fraction or an exponent is read as a float, if at all. -/
theorem exists_float_of_value? {l : Literal} {v : Value}
    (h : l.fraction ≠ none ∨ l.exponent ≠ none) (hv : l.value? = some v) :
    ∃ x, v = .float x := by
  have hwhole : ¬(l.fraction = none ∧ l.exponent = none ∧ (absorb 0 l.whole).2 = []) := by
    rintro ⟨hfraction, hexponent, -⟩
    exact h.elim (· hfraction) (· hexponent)
  rw [value?] at hv
  simp only [if_neg hwhole] at hv
  obtain ⟨x, -, rfl⟩ := Option.map_eq_some_iff.mp hv
  exact ⟨_, rfl⟩

/-- The literal of a whole number has its digits, and nothing besides but a sign. -/
theorem ofChars?_decimalDigits (n : Nat) :
    ofChars? (decimalDigits n) = some ⟨false, digitsOf 10 n, none, none⟩ ∧
      ofChars? ('-' :: decimalDigits n) = some ⟨true, digitsOf 10 n, none, none⟩ := by
  have hdigits : takeDigits (decimalDigits n) = (digitsOf 10 n, []) := by
    rw [decimalDigits, toDigits_eq_map (by decide)]
    exact takeDigits_map fun d => lt_of_mem_digitsOf (by decide)
  have hwhole : digitsOf 10 n ≠ [] ∧ ((digitsOf 10 n).head? = some 0 → digitsOf 10 n = [0]) :=
    ⟨digitsOf_ne_nil 10 n, digitsOf_of_head?_eq_zero⟩
  have hguard : guard (¬digitsOf 10 n = [] ∧
      ((digitsOf 10 n).head? = some 0 → digitsOf 10 n = [0])) = some () := if_pos hwhole
  -- A sign would be no digit, and the text begins with one.
  have hsign : ∀ cs, decimalDigits n ≠ '-' :: cs := by
    intro cs hcs
    rw [hcs] at hdigits
    exact hwhole.1 (congrArg Prod.fst hdigits).symm
  constructor
  · cases hcs : decimalDigits n with
    | nil =>
        rw [hcs] at hdigits
        exact absurd (congrArg Prod.fst hdigits).symm hwhole.1
    | cons c cs =>
        have hc : c ≠ '-' := fun heq => hsign cs (heq ▸ hcs)
        rw [hcs] at hdigits
        simp [ofChars?, hc, hdigits, hguard]
  · simp [ofChars?, hdigits, hguard]

end Literal

namespace Value

/-- What is a literal is none of the names. -/
theorem ofWord_of_ofChars? {w : List Char} {l : Literal} (h : Literal.ofChars? w = some l) :
    ofWord w = l.value?.elim (.error .numberOutOfRange) .ok := by
  have hname : ∀ {name : List Char}, Literal.ofChars? name = none → w ≠ name := by
    rintro name hnone rfl
    rw [hnone] at h
    cases h
  rw [ofWord, if_neg (hname (by decide)), if_neg (hname (by decide)), if_neg (hname (by decide))]
  simp only [h]
  cases l.value? <;> rfl

/-- A literal is read as what it writes, if it writes anything. -/
theorem value?_of_ofWord {w : List Char} {l : Literal} {v : Value}
    (h : Literal.ofChars? w = some l) (hv : ofWord w = .ok v) : l.value? = some v := by
  rw [ofWord_of_ofChars? h] at hv
  cases hvalue : l.value? with
  | none =>
      rw [hvalue] at hv
      cases hv
  | some v' =>
      rw [hvalue] at hv
      cases hv
      rfl

/-- A literal with a fraction or an exponent is read as a float, if at all. -/
theorem exists_float_of_ofWord {w : List Char} {l : Literal} {v : Value}
    (h : Literal.ofChars? w = some l) (hl : l.fraction ≠ none ∨ l.exponent ≠ none)
    (hv : ofWord w = .ok v) : ∃ x, v = .float x :=
  Literal.exists_float_of_value? hl (value?_of_ofWord h hv)

/-- The literal of a number of 64 bits is read as that number. -/
theorem ofWord_intText {n : Nat} (h : n < 18446744073709551616) :
    ofWord (intText n).toList = .ok (.int n) := by
  show ofWord (String.ofList (decimalDigits n)).toList = _
  rw [String.toList_ofList, ofWord_of_ofChars? (Literal.ofChars?_decimalDigits n).1,
    Literal.value?_of_lt (by rwa [ofDigits_digitsOf]), ofDigits_digitsOf, Option.elim_some]

/-- If the literal of a whole number is read as a whole number, then as that number. -/
theorem eq_of_ofWord_intText {n m : Int} (h : ofWord (intText n).toList = .ok (.int m)) :
    m = n := by
  cases n with
  | ofNat n =>
      change ofWord (String.ofList (decimalDigits n)).toList = _ at h
      rw [String.toList_ofList] at h
      have hm := Literal.eq_of_value? (value?_of_ofWord (Literal.ofChars?_decimalDigits n).1 h)
      rwa [ofDigits_digitsOf] at hm
  | negSucc n =>
      change ofWord (String.ofList ('-' :: decimalDigits (n + 1))).toList = _ at h
      rw [String.toList_ofList] at h
      have hm :=
        Literal.eq_of_value? (value?_of_ofWord (Literal.ofChars?_decimalDigits (n + 1)).2 h)
      rwa [ofDigits_digitsOf] at hm

end Value

end Convergence
