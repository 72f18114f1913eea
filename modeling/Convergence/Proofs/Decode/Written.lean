import Convergence.Decode.Basic
import Convergence.Duration
import Convergence.Proofs.Except

/-!
# `Convergence.Proofs.Decode.Written`: what stands for a datum

Which values write a truth value, a text, a length of time or a choice, and that decoders read
nothing else as one.
-/

set_option autoImplicit false

namespace Convergence

namespace Value

/-- The value writes the truth value. -/
def WritesBool (w : Value) (b : Bool) : Prop := w = .bool b

/-- The value writes the text. -/
def WritesString (w : Value) (s : String) : Prop := w = .string s

/-- The value writes the length of time in milliseconds. -/
def WritesMillis (w : Value) (d : Duration) : Prop :=
  ∃ n : UInt64, w = .int n.toNat ∧ d = .ofMillis n.toNat

/-- The value writes the choice by its name, which may be the only key of a table. -/
def WritesChoice {α : Type} (name : α → String) (w : Value) (x : α) : Prop :=
  w = .string (name x) ∨ ∃ content, w = .object [(name x, content)]

end Value

namespace Decoder

variable {f : Dialect} {v : Value}

/-- A truth value is written as it is. -/
theorem writesBool_of_bool {b : Bool} (h : bool f v = .ok b) : v.WritesBool b := by
  cases v with
  | bool _ => cases h; rfl
  | _ => cases h

/-- A text is written as it is. -/
theorem writesString_of_string {s : String} (h : string f v = .ok s) : v.WritesString s := by
  cases v with
  | string _ => cases h; rfl
  | _ => cases h

/-- A whole number is written as it is, and lies between the bounds. -/
theorem eq_int_of_int {low high n : Int} {expected : String}
    (h : int low high expected f v = .ok n) : v = .int n ∧ low ≤ n ∧ n ≤ high := by
  cases v with
  | int m =>
      rw [int] at h
      split at h
      · rename_i hrange
        cases h
        exact ⟨rfl, hrange⟩
      · cases h
  | _ => cases h

/-- A number of milliseconds is written as a number of 64 bits. -/
theorem writesMillis_of_uint64 {n : UInt64} (h : uint64 f v = .ok n) :
    v.WritesMillis (.ofMillis n.toNat) := by
  obtain ⟨m, hm, rfl⟩ := map_eq_ok_iff.mp h
  obtain ⟨rfl, hlow, hhigh⟩ := eq_int_of_int hm
  refine ⟨_, congrArg Value.int ?_, rfl⟩
  rw [UInt64.toNat_ofNat_of_lt' (by rw [UInt64.size]; omega), Int.toNat_of_nonneg hlow]

/-- A choice is written by the name that the list of choices has for it. -/
theorem writesChoice_of_choice {α : Type} {choices : List (String × α)} {name : α → String}
    (hnames : ∀ e ∈ choices, name e.2 = e.1) {x : α} (h : choice choices f v = .ok x) :
    v.WritesChoice name x := by
  unfold choice at h
  extract_lets named at h
  -- However a choice is written, it is looked up by its name.
  have hnamed : ∀ {key y}, named key = .ok y → key = name y := by
    intro key y hkey
    simp only [named] at hkey
    split at hkey
    · rename_i hlookup
      cases hkey
      obtain ⟨before, after, rfl, -⟩ := List.lookup_eq_some_iff.mp hlookup
      exact (hnames (key, y) (by simp)).symm
    · cases hkey
  split at h
  · exact .inl (congrArg Value.string (hnamed h))
  · rename_i key content
    obtain ⟨y, hy, hunit⟩ := bind_eq_ok_iff.mp h
    split at hunit
    · cases hunit
      exact .inr ⟨content, by rw [hnamed hy]⟩
    · cases hunit
  · cases h
  · cases h

end Decoder

end Convergence
