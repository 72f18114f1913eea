import Convergence.Proofs.Collections
import Convergence.Proofs.Decode.Settings

/-!
# `Convergence.Proofs.Decode.Members`: the members of an object, field by field

The members of an object are read in the order in which they stand, which is that of their keys.
Fields that put their values into different places can be read in any order (`Field.Commutes`), so
the record is the same that comes of taking the fields in the order of their declaration and looking
up a member for each (`Schema.readFields`).  That is `Schema.decode_object_eq_ok_iff`, for record
types whose fields are `Schema.Independent`.

For a record type that is given, `readFields_optional` and `readFields_mandatory` take the fields
off one after the other.
-/

set_option autoImplicit false

namespace Convergence

variable {ρ α β : Type}

/-! ### Fields that have a place each -/

namespace Field

/-- The order in which the two fields are read makes no difference. -/
def Commutes (x y : Field ρ) : Prop :=
  ∀ f v w r r', x.read f v r >>= y.read f w = .ok r' ↔ y.read f w r >>= x.read f v = .ok r'

/-- So it is if they put what they read into different places. -/
theorem commutes_of_put {x y : Field ρ} {d : Decoder α} {e : Decoder β} {put : α → ρ → ρ}
    {put' : β → ρ → ρ} (hx : ∀ f v r, x.read f v r = (d f v).map fun a => put a r)
    (hy : ∀ f v r, y.read f v r = (e f v).map fun b => put' b r)
    (h : ∀ a b r, put' b (put a r) = put a (put' b r)) : x.Commutes y := by
  intro f v w r r'
  simp only [bind_eq_ok_iff, hx, hy, map_eq_ok_iff]
  constructor
  · rintro ⟨_, ⟨a, ha, rfl⟩, b, hb, rfl⟩
    exact ⟨_, ⟨b, hb, rfl⟩, a, ha, (h a b r).symm⟩
  · rintro ⟨_, ⟨b, hb, rfl⟩, a, ha, rfl⟩
    exact ⟨_, ⟨a, ha, rfl⟩, b, hb, h a b r⟩

section
variable {n n' : String} {d : Decoder α} {e : Decoder β} {put : α → ρ → ρ} {put' : β → ρ → ρ}

@[simp]
theorem commutes_optional (h : ∀ a b r, put' b (put a r) = put a (put' b r)) :
    (optional n d put).Commutes (optional n' e put') :=
  commutes_of_put (fun _ _ _ => rfl) (fun _ _ _ => rfl) h

/-- That one of them must be written makes no difference. -/
@[simp]
theorem mandatory_commutes {y : Field ρ} :
    (mandatory n d put).Commutes y ↔ (optional n d put).Commutes y := Iff.rfl

@[simp]
theorem commutes_mandatory {x : Field ρ} :
    x.Commutes (mandatory n d put) ↔ x.Commutes (optional n d put) := Iff.rfl

end

/-- Reads the member that has the name of the field; without one the record stays as it is. -/
def readFrom (x : Field ρ) (f : Dialect) (ms : List (String × Value)) (r : ρ) :
    Except DecodeError ρ :=
  match Entries.find? x.name ms with
  | none => .ok r
  | some v => x.read f v r

/-- Members of other names make no difference. -/
theorem readFrom_cons_of_ne {x : Field ρ} {f : Dialect} {ms : List (String × Value)} {r : ρ}
    {m : String × Value} (h : x.name ≠ m.1) : x.readFrom f (m :: ms) r = x.readFrom f ms r := by
  have hne : compare x.name m.1 ≠ .eq := fun heq => h (Std.LawfulEqOrd.eq_of_compare heq)
  rw [readFrom, readFrom, Entries.find?, if_neg hne]

/-- The same of a field that is read if its member is there. -/
theorem Commutes.readFrom_bind {x y : Field ρ} (h : y.Commutes x) {f : Dialect}
    {ms : List (String × Value)} {v : Value} {r r' : ρ} :
    y.readFrom f ms r >>= x.read f v = .ok r' ↔ x.read f v r >>= y.readFrom f ms = .ok r' := by
  unfold readFrom
  cases Entries.find? y.name ms with
  | none =>
      show x.read f v r = .ok r' ↔ x.read f v r >>= pure = .ok r'
      rw [bind_pure]
  | some w => exact h f w v r r'

end Field

namespace Schema

variable {s : Schema ρ} {f : Dialect} {ms : List (String × Value)} {m : String × Value}
  {xs : List (Field ρ)} {x : Field ρ} {r r' : ρ}

/-- Takes the fields one after the other, each with the member that has its name. -/
def readFields (f : Dialect) (ms : List (String × Value)) :
    List (Field ρ) → ρ → Except DecodeError ρ
  | [], r => .ok r
  | x :: xs, r => x.readFrom f ms r >>= readFields f ms xs

/-- Without any members the record stays as it is. -/
theorem readFields_nil : readFields f [] xs r = .ok r := by
  induction xs with
  | nil => rfl
  | cons x xs ih => exact ih

/-- A member that is none of the fields makes no difference. -/
theorem readFields_cons_of_forall_ne (h : ∀ x ∈ xs, x.name ≠ m.1) :
    readFields f (m :: ms) xs r = readFields f ms xs r := by
  induction xs generalizing r with
  | nil => rfl
  | cons x xs ih =>
      obtain ⟨hx, hxs⟩ := List.forall_mem_cons.mp h
      rw [readFields, readFields, Field.readFrom_cons_of_ne hx]
      exact congrArg _ (funext fun _ => ih hxs)

/-- A member that is one of the fields may be read into the record before all others. -/
theorem readFields_cons_of_mem (hnames : (xs.map (·.name)).Nodup)
    (hxs : xs.Pairwise Field.Commutes) (hm : Entries.find? m.1 ms = none) (hx : x ∈ xs)
    (hname : x.name = m.1) :
    readFields f (m :: ms) xs r = .ok r' ↔
      x.read f m.2 r >>= readFields f ms xs = .ok r' := by
  induction xs generalizing r with
  | nil => cases hx
  | cons y ys ih =>
      obtain ⟨hy, hnames⟩ := List.nodup_cons.mp hnames
      obtain ⟨hcommutes, hys⟩ := List.pairwise_cons.mp hxs
      rcases List.mem_cons.mp hx with rfl | hx
      · -- No other field has the name, and no other member.
        have hothers : ∀ z ∈ ys, z.name ≠ m.1 := fun z hz heq =>
          hy (List.mem_map.mpr ⟨z, hz, heq.trans hname.symm⟩)
        have hread : x.readFrom f (m :: ms) r = x.read f m.2 r := by
          rw [Field.readFrom, Entries.find?, hname, if_pos Std.ReflCmp.compare_self]
        have hskip : ∀ r₁, readFields f ms (x :: ys) r₁ = readFields f (m :: ms) ys r₁ := by
          intro r₁
          rw [readFields, Field.readFrom, hname, hm, readFields_cons_of_forall_ne hothers]
          rfl
        rw [readFields, hread, funext hskip]
      · have hne : y.name ≠ m.1 := fun heq =>
          hy (List.mem_map.mpr ⟨x, hx, hname.trans heq.symm⟩)
        rw [readFields, Field.readFrom_cons_of_ne hne, bind_eq_ok_iff]
        calc
          (∃ r₁, y.readFrom f ms r = .ok r₁ ∧ readFields f (m :: ms) ys r₁ = .ok r')
            ↔ ∃ r₁, y.readFrom f ms r = .ok r₁ ∧
                x.read f m.2 r₁ >>= readFields f ms ys = .ok r' :=
              exists_congr fun r₁ => and_congr_right' (ih hnames hys hx)
          _ ↔ ∃ r₁, y.readFrom f ms r >>= x.read f m.2 = .ok r₁ ∧
                readFields f ms ys r₁ = .ok r' := by
              rw [← bind_eq_ok_iff, ← bind_assoc, bind_eq_ok_iff]
          _ ↔ ∃ r₁, x.read f m.2 r >>= y.readFrom f ms = .ok r₁ ∧
                readFields f ms ys r₁ = .ok r' :=
              exists_congr fun r₁ => and_congr_left' (hcommutes x hx).readFrom_bind
          _ ↔ x.read f m.2 r >>= readFields f ms (y :: ys) = .ok r' := by
              rw [← bind_eq_ok_iff, bind_assoc]
              rfl

/-- The fields have different names, and a place each. -/
structure Independent (s : Schema ρ) : Prop where
  nodup : s.names.Nodup
  commutes : s.fields.Pairwise Field.Commutes

/-- The members of an object are fields, unless the record type takes others, too, and the fields
that must be written are among them. -/
structure Admits (s : Schema ρ) (ms : List (String × Value)) : Prop where
  known : s.strict = true → ∀ m ∈ ms, m.1 ∈ s.names
  required : ∀ x ∈ s.fields, x.required = true → ∃ m ∈ ms, m.1 = x.name

/-- A name that no field has is no field's name. -/
theorem field?_eq_none_iff {name : String} : s.field? name = none ↔ name ∉ s.names := by
  rw [field?, List.find?_eq_none, names, List.mem_map]
  constructor
  · rintro h ⟨x, hx, hname⟩
    exact h x hx (beq_iff_eq.mpr hname)
  · intro h x hx heq
    exact h ⟨x, hx, beq_iff_eq.mp heq⟩

/-- No field is missing exactly if those that must be written are among the members. -/
theorem missing?_eq_none_iff :
    s.missing? ms = none ↔ ∀ x ∈ s.fields, x.required = true → ∃ m ∈ ms, m.1 = x.name := by
  rw [missing?, List.find?_eq_none]
  refine forall₂_congr fun x _ => ?_
  simp

/-- Reading the members in their order comes to the same as taking the fields in theirs. -/
theorem readMembers_eq_ok_iff (hs : s.Independent) (hms : Entries.Sorted ms) :
    s.readMembers f ms r = .ok r' ↔
      (s.strict = true → ∀ m ∈ ms, m.1 ∈ s.names) ∧ readFields f ms s.fields r = .ok r' := by
  induction ms generalizing r with
  | nil =>
      rw [readFields_nil]
      exact ⟨fun h => ⟨fun _ _ hm => absurd hm List.not_mem_nil, h⟩, And.right⟩
  | cons m ms ih =>
      obtain ⟨k, v⟩ := m
      -- No later member has this key, as the keys increase.
      obtain ⟨hlater, hms⟩ := List.pairwise_cons.mp hms
      rw [readMembers]
      split
      · rename_i x hx
        obtain ⟨hmem, hname⟩ := mem_of_field?_eq_some hx
        have hknown : k ∈ s.names := List.mem_map.mpr ⟨x, hmem, hname⟩
        rw [readFields_cons_of_mem hs.nodup hs.commutes (Entries.find?_eq_none_of_lt hlater) hmem
          hname, bind_eq_ok_iff, bind_eq_ok_iff]
        simp only [ih hms, List.forall_mem_cons, hknown, true_and]
        -- Whether the later members are fields does not depend on the record.
        constructor
        · intro h
          obtain ⟨r₁, hr₁, hks, h⟩ := h
          exact ⟨hks, r₁, hr₁, h⟩
        · intro h
          obtain ⟨hks, r₁, hr₁, h⟩ := h
          exact ⟨r₁, hr₁, hks, h⟩
      · rename_i hnone
        rw [field?_eq_none_iff] at hnone
        have hne : ∀ x ∈ s.fields, x.name ≠ k := fun x hx heq =>
          hnone (List.mem_map.mpr ⟨x, hx, heq⟩)
        rw [readFields_cons_of_forall_ne hne]
        cases hstrict : s.strict with
        | true =>
            constructor
            · intro h
              cases h
            · intro h
              exact absurd (h.1 rfl _ List.mem_cons_self) hnone
        | false =>
            show s.readMembers f ms r = .ok r' ↔ _
            rw [ih hms, hstrict]
            exact and_congr_left' ⟨fun _ h => Bool.noConfusion h, fun _ h => Bool.noConfusion h⟩

/-- **Reading an object.**  A record is read from an object exactly if the object has the members
that it must have and no others, and the record is what comes of the fields, each taken with the
member that has its name. -/
theorem decode_object_eq_ok_iff (hs : s.Independent) (hms : Entries.Sorted ms) :
    s.decode f (.object ms) = .ok r ↔
      s.Admits ms ∧ readFields f ms s.fields s.initial = .ok r := by
  show s.ofMembers f ms = .ok r ↔ _
  rw [ofMembers, bind_eq_ok_iff]
  simp only [readMembers_eq_ok_iff hs hms]
  constructor
  · rintro ⟨r₁, ⟨hknown, hread⟩, h⟩
    split at h
    · cases h
    · rename_i hmissing
      cases h
      exact ⟨⟨hknown, missing?_eq_none_iff.mp hmissing⟩, hread⟩
  · rintro ⟨⟨hknown, hrequired⟩, hread⟩
    refine ⟨r, ⟨hknown, hread⟩, ?_⟩
    rw [missing?_eq_none_iff.mpr hrequired]
    rfl

/-! ### Record types that are given -/

variable {name : String} {d : Decoder α} {put : α → ρ → ρ}

/-- A field that may be left out is what is written for it, or else as it is. -/
theorem readFields_optional (get : ρ → α) (hget : put (get r) r = r) :
    readFields f ms (.optional name d put :: xs) r = .ok r' ↔
      ∃ a, IsSet (fun v a => d f v = .ok a) (get r) a (Entries.find? name ms) ∧
        readFields f ms xs (put a r) = .ok r' := by
  rw [readFields, bind_eq_ok_iff, Field.readFrom]
  show (∃ r₁, (match Entries.find? name ms with
    | none => Except.ok r
    | some v => (d f v).map fun a => put a r) = .ok r₁ ∧ _) ↔ _
  cases Entries.find? name ms with
  | none =>
      constructor
      · rintro ⟨_, ⟨rfl⟩, h⟩
        exact ⟨get r, rfl, hget.symm ▸ h⟩
      · rintro ⟨_, rfl, h⟩
        exact ⟨r, rfl, hget ▸ h⟩
  | some v =>
      simp only [map_eq_ok_iff]
      constructor
      · rintro ⟨_, ⟨a, ha, rfl⟩, h⟩
        exact ⟨a, ha, h⟩
      · rintro ⟨a, ha, h⟩
        exact ⟨_, ⟨a, ha, rfl⟩, h⟩

/-- A field that must be written is what is written for it. -/
theorem readFields_mandatory (hpresent : ∃ m ∈ ms, m.1 = name) :
    readFields f ms (.mandatory name d put :: xs) r = .ok r' ↔
      ∃ v a, Entries.find? name ms = some v ∧ d f v = .ok a ∧
        readFields f ms xs (put a r) = .ok r' := by
  rw [readFields, bind_eq_ok_iff, Field.readFrom]
  show (∃ r₁, (match Entries.find? name ms with
    | none => Except.ok r
    | some v => (d f v).map fun a => put a r) = .ok r₁ ∧ _) ↔ _
  cases hv : Entries.find? name ms with
  | none =>
      obtain ⟨m, hm, hname⟩ := hpresent
      exact absurd hname (Entries.fst_ne_of_find?_eq_none hv m hm)
  | some v =>
      simp only [map_eq_ok_iff]
      constructor
      · rintro ⟨_, ⟨a, ha, rfl⟩, h⟩
        exact ⟨v, a, rfl, ha, h⟩
      · rintro ⟨_, a, ⟨⟩, ha, h⟩
        exact ⟨_, ⟨a, ha, rfl⟩, h⟩

end Schema

end Convergence
