import Convergence.Proofs.Collections
import Convergence.Proofs.Decode.Members
import Convergence.Proofs.Decode.Reads
import Convergence.Proofs.Decode.Rearrangement
import Convergence.Proofs.Document.Members
import Mathlib.Data.List.Nodup

/-!
# `Convergence.Proofs.Decode.Grammar`: which values decoders take, and what they make of them

Both are said without the decoder.  The values that are taken make up a form: `Value.IsNullOr`,
`Value.IsListOf`, `Value.IsMapOf` and `Value.IsRecord` build forms from others.  What a value stands
for is a relation between values and data: `Value.WritesOptional`, `Value.WritesList`,
`Value.WritesSet` and `Value.WritesMap` build such relations.  `Decoder.Follows` ties a decoder to
both, and there is one lemma for each way to build them.

A record may also be given as an array, with its fields in order.  The forms leave that out, so a
decoder follows its form on a domain, values without an array in the place of a record.
-/

set_option autoImplicit false

namespace Convergence

namespace Value

variable {α : Type}

/-! ### Forms -/

/-- The value writes something. -/
def Writable (writes : Value → α → Prop) (v : Value) : Prop := ∃ x, writes v x

/-- The value is null or of the form. -/
def IsNullOr (form : Value → Prop) (v : Value) : Prop := v = .null ∨ form v

/-- The value is an array of values of the form. -/
def IsListOf (form : Value → Prop) (v : Value) : Prop :=
  ∃ items, v = .array items ∧ ∀ item ∈ items, form item

/-- The value is an object, under any keys, of values of the form. -/
def IsMapOf (form : Value → Prop) (v : Value) : Prop :=
  ∃ ms, v = .object ms ∧ ∀ m ∈ ms, form m.2

/-- A field of a record, and the form of its value. -/
structure Slot where
  name : String
  required : Bool
  form : Value → Prop

/-- A field that may be left out. -/
def Slot.optional (name : String) (form : Value → Prop) : Slot := ⟨name, false, form⟩

/-- A field that must be written. -/
def Slot.mandatory (name : String) (form : Value → Prop) : Slot := ⟨name, true, form⟩

/-- The value is an object.  Each member is one of the fields and of its form, and the fields that
must be written are there. -/
def IsRecord (slots : List Slot) (v : Value) : Prop :=
  ∃ ms, v = .object ms ∧ (∀ m ∈ ms, ∃ slot ∈ slots, slot.name = m.1 ∧ slot.form m.2) ∧
    ∀ slot ∈ slots, slot.required = true → ∃ m ∈ ms, m.1 = slot.name

/-- The value is not an array. -/
def NoArray (v : Value) : Prop := ∀ items, v ≠ .array items

/-! ### What values stand for -/

/-- Null writes none. -/
def WritesOptional (writes : Value → α → Prop) (v : Value) : Option α → Prop
  | none => v = .null
  | some x => writes v x

/-- The value is an array that writes the data in order, repeated ones as often as they are. -/
def WritesList (writes : Value → α → Prop) (v : Value) (xs : List α) : Prop :=
  ∃ items, v = .array items ∧ List.Forall₂ writes items xs

/-- The value is an array, and the members of the set are what its elements write. -/
def WritesSet [Ord α] (writes : Value → α → Prop) (v : Value) (s : OrderedSet α) : Prop :=
  ∃ items, v = .array items ∧ ∀ x, x ∈ s ↔ ∃ item ∈ items, writes item x

/-- The value is an object with the keys of the map, and writes under each key what the map has
there. -/
def WritesMap (writes : Value → α → Prop) (v : Value) (m : OrderedMap String α) : Prop :=
  ∃ ms, v = .object ms ∧
    List.Forall₂ (fun member entry => member.1 = entry.1 ∧ writes member.2 entry.2) ms m.toList

end Value

variable {ρ α : Type} {f : Dialect} {d : Decoder α} {dom form : Value → Prop}
  {writes : Value → α → Prop}

namespace Decoder

/-! ### Decoders -/

/-- On the domain, the decoder takes exactly the values of the form, and reads from each what it
writes. -/
structure Follows (d : Decoder α) (f : Dialect) (dom form : Value → Prop)
    (writes : Value → α → Prop) : Prop where
  accepts {v : Value} (hv : dom v) : (∃ x, d f v = .ok x) ↔ form v
  sound {v : Value} {x : α} (hordered : v.Ordered) (hv : dom v) (h : d f v = .ok x) : writes v x

/-- Lists are read from arrays, element by element. -/
theorem list_ok_iff {v : Value} {xs : List α} :
    d.list f v = .ok xs ↔ ∃ items, v = .array items ∧ items.mapM (d f) = .ok xs := by
  cases v <;> simp [list]

/-- Maps are read from objects, member by member. -/
theorem map_ok_iff {v : Value} {m : OrderedMap String α} :
    d.map f v = .ok m ↔ ∃ ms es, v = .object ms ∧
      (ms.mapM fun member => (d f member.2).map fun x => (member.1, x)) = .ok es ∧
      OrderedMap.ofList es = m := by
  cases v <;> simp [map, map_eq_ok_iff]

/-- What is read from the values that write it. -/
theorem Reads.follows (h : d.Reads f writes) :
    d.Follows f (fun _ => True) (Value.Writable writes) writes where
  accepts {v} _ := exists_congr fun x => h v x
  sound {v x} _ _ hx := (h v x).mp hx

namespace Follows

/-- A datum, or null for none. -/
theorem optional (h : d.Follows f dom form writes) :
    d.optional.Follows f dom (Value.IsNullOr form) (Value.WritesOptional writes) where
  accepts {v} hv := by
    have hsome : (∃ x, (d f v).map some = .ok x) ↔ form v := by
      rw [← h.accepts hv]
      simp [map_eq_ok_iff]
    -- Only null is not handed on to the decoder of the datum.
    cases v with
    | null => exact ⟨fun _ => .inl rfl, fun _ => ⟨none, rfl⟩⟩
    | _ => exact hsome.trans (or_iff_right (by simp)).symm
  sound {v x} hordered hv hx := by
    have hsome : (d f v).map some = .ok x → Value.WritesOptional writes v x := by
      intro hx
      obtain ⟨y, hy, rfl⟩ := map_eq_ok_iff.mp hx
      exact h.sound hordered hv hy
    cases v with
    | null =>
        cases hx
        rfl
    | _ => exact hsome hx

/-- A list of data that are read from whatever writes them. -/
theorem list (h : d.Reads f writes) :
    d.list.Follows f (fun _ => True) (Value.IsListOf (Value.Writable writes))
      (Value.WritesList writes) where
  accepts {v} _ := by
    simp only [list_ok_iff, exists_and_left, exists_comm (α := List α), exists_mapM_eq_ok_iff,
      h _, Value.IsListOf, Value.Writable]
  sound {v xs} _ _ hxs := by
    obtain ⟨items, rfl, hitems⟩ := list_ok_iff.mp hxs
    exact ⟨items, rfl, (mapM_eq_ok_iff.mp hitems).imp fun item x => (h item x).mp⟩

/-- A set of such data. -/
theorem set [Ord α] [Std.TransOrd α] [Std.LawfulEqOrd α] (h : d.Reads f writes) :
    d.set.Follows f (fun _ => True) (Value.IsListOf (Value.Writable writes))
      (Value.WritesSet writes) where
  accepts {v} hv := by
    rw [← (list h).accepts hv]
    simp [Decoder.set, map_eq_ok_iff]
  sound {v s} _ _ hs := by
    obtain ⟨xs, hxs, rfl⟩ := map_eq_ok_iff.mp hs
    obtain ⟨items, rfl, hitems⟩ := list_ok_iff.mp hxs
    refine ⟨items, rfl, fun x => ?_⟩
    rw [OrderedSet.mem_ofList, mem_iff_of_mapM_eq_ok hitems]
    exact exists_congr fun item => and_congr_right' (h item x)

/-- A map from names. -/
theorem map (h : d.Follows f dom form writes) :
    d.map.Follows f (fun v => ∀ m ∈ v.members, dom m.2) (Value.IsMapOf form)
      (Value.WritesMap writes) where
  accepts {v} hv := by
    constructor
    · rintro ⟨m, hm⟩
      obtain ⟨ms, es, rfl, hes, -⟩ := map_ok_iff.mp hm
      refine ⟨ms, rfl, fun member hmember => ?_⟩
      obtain ⟨e, he⟩ := exists_mapM_eq_ok_iff.mp ⟨es, hes⟩ member hmember
      obtain ⟨x, hx, -⟩ := map_eq_ok_iff.mp he
      exact (h.accepts (hv member hmember)).mp ⟨x, hx⟩
    · rintro ⟨ms, rfl, hms⟩
      have hentries : ∀ member ∈ ms, ∃ e,
          ((d f member.2).map fun x => (member.1, x)) = .ok e := by
        intro member hmember
        obtain ⟨x, hx⟩ := (h.accepts (hv member hmember)).mpr (hms member hmember)
        exact ⟨_, map_eq_ok_iff.mpr ⟨x, hx, rfl⟩⟩
      obtain ⟨es, hes⟩ := exists_mapM_eq_ok_iff.mpr hentries
      exact ⟨_, map_ok_iff.mpr ⟨ms, es, rfl, hes, rfl⟩⟩
  sound {v m} hordered hv hm := by
    obtain ⟨ms, es, rfl, hes, rfl⟩ := map_ok_iff.mp hm
    have hmembers := Value.membersOrdered_iff.mp hordered.2
    have hentries : List.Forall₂
        (fun member entry => member.1 = entry.1 ∧ writes member.2 entry.2) ms es := by
      -- What a member writes is known for the members of this object only.
      have hread := (List.forall₂_and_left (p := (· ∈ ms)) ms es).mpr
        ⟨fun _ hmember => hmember, mapM_eq_ok_iff.mp hes⟩
      refine hread.imp fun member entry ⟨hmember, hentry⟩ => ?_
      obtain ⟨x, hx, rfl⟩ := map_eq_ok_iff.mp hentry
      exact ⟨rfl, h.sound (hmembers _ hmember) (hv _ hmember) hx⟩
    -- The entries have the keys of the members, and so stand in order already.
    have hkeys : ms.map Prod.fst = es.map Prod.fst := by
      rw [← List.forall₂_eq_eq_eq, List.forall₂_map_left_iff, List.forall₂_map_right_iff]
      exact hentries.imp fun _ _ => And.left
    have hsorted : Entries.Sorted es := .of_keys (hkeys ▸ List.pairwise_map.mpr hordered.1)
    refine ⟨ms, rfl, ?_⟩
    show List.Forall₂ _ ms (Entries.ofList es)
    rwa [Entries.ofList_of_sorted hsorted]

end Follows

end Decoder

/-! ### Records -/

section
variable {α β : Type} {related : α → β → Prop} {xs : List α} {ys : List β} {p : α → Prop}
  {q : β → Prop}

/-- Related lists have an element of a kind, one as the other, if related elements are of that
kind, one as the other. -/
theorem exists_mem_congr_of_forall₂ (h : List.Forall₂ related xs ys)
    (hpq : ∀ x y, related x y → (p x ↔ q y)) : (∃ x ∈ xs, p x) ↔ ∃ y ∈ ys, q y := by
  induction h with
  | nil => simp
  | cons hxy _ ih => rw [List.exists_mem_cons_iff, List.exists_mem_cons_iff, hpq _ _ hxy, ih]

/-- The same of all elements. -/
theorem forall_mem_congr_of_forall₂ (h : List.Forall₂ related xs ys)
    (hpq : ∀ x y, related x y → (p x ↔ q y)) : (∀ x ∈ xs, p x) ↔ ∀ y ∈ ys, q y := by
  induction h with
  | nil => simp
  | cons hxy _ ih => rw [List.forall_mem_cons, List.forall_mem_cons, hpq _ _ hxy, ih]

end

/-- The field has the name that the slot has, must be written if the slot must, and reads from a
member exactly the values of the form. -/
structure Field.Fits (x : Field ρ) (f : Dialect) (ms : List (String × Value))
    (slot : Value.Slot) : Prop where
  name : x.name = slot.name
  required : x.required = slot.required
  reads {v : Value} {r : ρ} (hv : (slot.name, v) ∈ ms) :
    (∃ r', x.read f v r = .ok r') ↔ slot.form v

namespace Decoder.Follows

variable {name : String} {put : α → ρ → ρ} {ms : List (String × Value)}

/-- A field reads what the decoder takes. -/
theorem fits_optional (h : d.Follows f dom form writes) (hdom : ∀ v, (name, v) ∈ ms → dom v) :
    (Field.optional name d put).Fits f ms (.optional name form) where
  name := rfl
  required := rfl
  reads {v r} hv := by
    show (∃ r', (d f v).map (fun x => put x r) = .ok r') ↔ form v
    rw [← h.accepts (hdom v hv)]
    simp [map_eq_ok_iff]

/-- So does a field that must be written. -/
theorem fits_mandatory (h : d.Follows f dom form writes) (hdom : ∀ v, (name, v) ∈ ms → dom v) :
    (Field.mandatory name d put).Fits f ms (.mandatory name form) :=
  ⟨rfl, rfl, (h.fits_optional hdom).reads⟩

/-- What is read from an optional member, and what is read after it. -/
theorem readFields_optional (h : d.Follows f dom form writes) (get : ρ → α)
    {xs : List (Field ρ)} {r r' : ρ} (hget : put (get r) r = r) (hms : Value.MembersOrdered ms)
    (hdom : ∀ v, (name, v) ∈ ms → dom v)
    (hread : Schema.readFields f ms (.optional name d put :: xs) r = .ok r') :
    ∃ a, IsSet writes (get r) a (Value.find? [name] (.object ms)) ∧
      Schema.readFields f ms xs (put a r) = .ok r' := by
  obtain ⟨a, ha, hrest⟩ := (Schema.readFields_optional get hget).mp hread
  refine ⟨a, ?_, hrest⟩
  rw [Value.find?_singleton]
  change IsSet writes (get r) a (Entries.find? name ms)
  cases hv : Entries.find? name ms with
  | none =>
      rw [hv] at ha
      exact ha
  | some v =>
      rw [hv] at ha
      exact h.sound (Value.Ordered.find? hms hv) (hdom v (Entries.mem_of_find?_eq_some hv)) ha

/-- What is read from a member that must be written, and what is read after it. -/
theorem readFields_mandatory (h : d.Follows f dom form writes) {xs : List (Field ρ)} {r r' : ρ}
    (hpresent : ∃ m ∈ ms, m.1 = name) (hms : Value.MembersOrdered ms)
    (hdom : ∀ v, (name, v) ∈ ms → dom v)
    (hread : Schema.readFields f ms (.mandatory name d put :: xs) r = .ok r') :
    ∃ a, (∃ v, Value.find? [name] (.object ms) = some v ∧ writes v a) ∧
      Schema.readFields f ms xs (put a r) = .ok r' := by
  obtain ⟨v, a, hv, ha, hrest⟩ := (Schema.readFields_mandatory hpresent).mp hread
  have hmem := Entries.mem_of_find?_eq_some hv
  rw [Value.find?_singleton]
  exact ⟨a, ⟨v, hv, h.sound (Value.Ordered.find? hms hv) (hdom v hmem) ha⟩, hrest⟩

end Decoder.Follows

namespace Schema

variable {s : Schema ρ} {slots : List Value.Slot} {ms : List (String × Value)} {r : ρ}

/-- A field is found by its name, as no other field has it. -/
theorem field?_eq_some_iff (hnames : s.names.Nodup) {name : String} {x : Field ρ} :
    s.field? name = some x ↔ x ∈ s.fields ∧ x.name = name := by
  refine ⟨mem_of_field?_eq_some, ?_⟩
  rintro ⟨hx, rfl⟩
  cases hy : s.field? x.name with
  | none => exact absurd (List.mem_map.mpr ⟨x, hx, rfl⟩) (field?_eq_none_iff.mp hy)
  | some y =>
      obtain ⟨hmem, hname⟩ := mem_of_field?_eq_some hy
      rw [List.inj_on_of_nodup_map hnames hmem hx hname]

/-- Members are read if there is a field for each that reads it, whatever has been read before. -/
theorem exists_readMembers_iff (hstrict : s.strict = true) {holds : String × Value → Prop}
    (h : ∀ m ∈ ms, ∀ r, (∃ x, s.field? m.1 = some x ∧ ∃ r', x.read f m.2 r = .ok r') ↔ holds m) :
    (∃ r', s.readMembers f ms r = .ok r') ↔ ∀ m ∈ ms, holds m := by
  induction ms generalizing r with
  | nil => exact ⟨fun _ _ hm => absurd hm List.not_mem_nil, fun _ => ⟨r, rfl⟩⟩
  | cons m ms ih =>
      obtain ⟨hm, hms⟩ := List.forall_mem_cons.mp h
      rw [List.forall_mem_cons, ← hm r]
      obtain ⟨k, v⟩ := m
      rw [readMembers]
      cases hx : s.field? k with
      | none => simp [hstrict]
      | some x =>
          -- The later members are read into another record, which makes no difference to them.
          simp only [bind_eq_ok_iff]
          constructor
          · rintro ⟨r', r₁, hr₁, hrest⟩
            exact ⟨⟨x, rfl, r₁, hr₁⟩, (ih hms).mp ⟨r', hrest⟩⟩
          · rintro ⟨⟨_, ⟨⟩, r₁, hr₁⟩, hrest⟩
            obtain ⟨r', hr'⟩ := (ih (r := r₁) hms).mpr hrest
            exact ⟨r', r₁, hr₁, hr'⟩

/-- A record is read from an object exactly if the object is of the form that the fields fit. -/
theorem exists_decode_object_iff (hs : s.Independent) (hstrict : s.strict = true)
    (h : List.Forall₂ (fun x slot => x.Fits f ms slot) s.fields slots) :
    (∃ r, s.decode f (.object ms) = .ok r) ↔ Value.IsRecord slots (.object ms) := by
  -- The field of a name stands where the slot of that name does, and reads what the slot takes.
  have hmember : ∀ m ∈ ms, ∀ r, (∃ x, s.field? m.1 = some x ∧ ∃ r', x.read f m.2 r = .ok r') ↔
      ∃ slot ∈ slots, slot.name = m.1 ∧ slot.form m.2 := by
    intro m hm r
    simp only [field?_eq_some_iff hs.nodup, and_assoc]
    refine exists_mem_congr_of_forall₂ h fun x slot hfits => ?_
    rw [hfits.name]
    refine and_congr_right fun hname => hfits.reads ?_
    rw [hname]
    exact hm
  have hrequired : s.missing? ms = none ↔
      ∀ slot ∈ slots, slot.required = true → ∃ m ∈ ms, m.1 = slot.name := by
    rw [missing?_eq_none_iff]
    refine forall_mem_congr_of_forall₂ h fun x slot hfits => ?_
    rw [hfits.name, hfits.required]
  calc
    (∃ r, s.decode f (.object ms) = .ok r)
      ↔ (∃ r, s.readMembers f ms s.initial = .ok r) ∧ s.missing? ms = none := by
        show (∃ r, s.ofMembers f ms = .ok r) ↔ _
        simp only [ofMembers, bind_eq_ok_iff]
        cases s.missing? ms with
        | none => simp [pure, Except.pure]
        | some x => simp [throw, throwThe, MonadExceptOf.throw]
    _ ↔ Value.IsRecord slots (.object ms) := by
        rw [exists_readMembers_iff hstrict hmember, hrequired]
        simp [Value.IsRecord]

/-- A strict record type takes the objects of the form that its fields fit, whatever they are, if
what it reads from them is what they write. -/
theorem follows (hs : s.Independent) (hstrict : s.strict = true)
    (hfits : ∀ ms, List.Forall₂ (fun x slot => x.Fits f ms slot) s.fields slots)
    {writes : Value → ρ → Prop}
    (hsound : ∀ ms r, Value.MembersOrdered ms → s.Admits ms →
      readFields f ms s.fields s.initial = .ok r → writes (.object ms) r) :
    s.decode.Follows f Value.NoArray (Value.IsRecord slots) writes where
  accepts {v} hv := by
    cases v with
    | object ms => exact exists_decode_object_iff hs hstrict (hfits ms)
    | array items => exact absurd rfl (hv items)
    | _ => simp [decode, Value.IsRecord]
  sound {v r} hordered hv h := by
    cases v with
    | object ms =>
        obtain ⟨hadmits, hread⟩ := (decode_object_eq_ok_iff hs hordered.1).mp h
        exact hsound ms r hordered.2 hadmits hread
    | array items => exact absurd rfl (hv items)
    | _ => cases h

end Schema

end Convergence
