import Convergence.Decode.Record

/-!
# `Convergence.Proofs.Decode.Record`: decoding records with one field

Some records have one field only, which may be left out, and take no notice of other members
(`Schema.HasOnly`).  Such a record is what its field makes of the member of that name, wherever it
stands among the members of an object (`decode_object`), or of the first element of an array
(`decode_array_cons`).
-/

set_option autoImplicit false

namespace Convergence

/-- The record type has one field, which may be left out, and takes no notice of other members. -/
structure Schema.HasOnly {ρ : Type} (s : Schema ρ) (x : Field ρ) : Prop where
  fields : s.fields = [x]
  lenient : s.strict = false
  optional : x.required = false

namespace Schema.HasOnly

variable {ρ : Type} {s : Schema ρ} {x : Field ρ} {f : Dialect} {k : String} {v : Value}
  {ms : List (String × Value)} {r : ρ}

theorem field?_eq (h : s.HasOnly x) (k : String) :
    s.field? k = if x.name == k then some x else none := by
  rw [field?, h.fields, List.find?_cons, List.find?_nil]
  cases x.name == k <;> rfl

/-- Nothing is missing, whatever is written. -/
theorem missing?_eq_none (h : s.HasOnly x) (ms : List (String × Value)) :
    s.missing? ms = none := by
  rw [missing?, h.fields, List.find?_cons, h.optional]
  rfl

theorem readMembers_cons_self (h : s.HasOnly x) :
    s.readMembers f ((x.name, v) :: ms) r = x.read f v r >>= s.readMembers f ms := by
  rw [readMembers, h.field?_eq, if_pos BEq.rfl]

theorem readMembers_cons_of_ne (h : s.HasOnly x) (hk : compare x.name k ≠ .eq) :
    s.readMembers f ((k, v) :: ms) r = s.readMembers f ms r := by
  have hne : ¬(x.name == k) = true := by
    intro heq
    rw [beq_iff_eq] at heq
    exact hk (heq ▸ Std.ReflCmp.compare_self)
  rw [readMembers, h.field?_eq, if_neg hne, h.lenient]
  rfl

/-- Without the field the record stays as it is. -/
theorem readMembers_of_find?_eq_none (h : s.HasOnly x) (hnone : Entries.find? x.name ms = none) :
    s.readMembers f ms r = .ok r := by
  induction ms with
  | nil => rfl
  | cons m ms ih =>
      obtain ⟨k, w⟩ := m
      rw [Entries.find?] at hnone
      split at hnone
      · cases hnone
      · rename_i hk
        rw [h.readMembers_cons_of_ne hk]
        exact ih hnone

/-- Otherwise it is what the field makes of it. -/
theorem readMembers_of_find?_eq_some (h : s.HasOnly x) (hms : Entries.Sorted ms)
    (hv : Entries.find? x.name ms = some v) : s.readMembers f ms r = x.read f v r := by
  induction ms with
  | nil => cases hv
  | cons m ms ih =>
      obtain ⟨k, w⟩ := m
      obtain ⟨hlater, hms⟩ := List.pairwise_cons.mp hms
      rw [Entries.find?] at hv
      split at hv
      · rename_i heq
        obtain rfl := Std.LawfulEqOrd.eq_of_compare heq
        obtain rfl := Option.some.inj hv
        -- Keys increase, so there is no second member of that name.
        have hnone : Entries.find? x.name ms = none := Entries.find?_eq_none_of_lt hlater
        rw [h.readMembers_cons_self]
        cases x.read f w r with
        | error e => rfl
        | ok r' => exact h.readMembers_of_find?_eq_none hnone
      · rename_i hk
        rw [h.readMembers_cons_of_ne hk]
        exact ih hms hv

/-- An object stands for what its member of that name says. -/
theorem decode_object (h : s.HasOnly x) (hms : Entries.Sorted ms)
    (hv : Entries.find? x.name ms = some v) :
    s.decode f (.object ms) = x.read f v s.initial := by
  rw [decode, ofMembers, h.readMembers_of_find?_eq_some hms hv, h.missing?_eq_none]
  exact bind_pure _

/-- An array stands for what its first element says, if no more elements follow than may. -/
theorem decode_array_cons (h : s.HasOnly x) (vs : List Value) :
    s.decode f (.array (v :: vs)) = x.read f v s.initial >>= s.readItems f 1 [] vs := by
  rw [decode, h.fields, readItems]

end Schema.HasOnly

end Convergence
