import Convergence.Decode.Record
import Convergence.Proofs.Except

/-!
# `Convergence.Proofs.Decode.Settings`: records whose fields may be left out

A record is read from its initial value on, field by field.  A part of the record that one field
sets and the others keep (`Schema.Sets`) ends up with what is written for that field, and with its
initial value if nothing is written (`Sets.isSet_decode`).  What is written for a field is a member
of an object, or an element of an array, whose elements stand for the fields in order
(`Schema.written?`).

The step is one field (`Field.Serves.isSet_read`), and what the earlier fields have set is the
preset value of the later ones (`IsSet.trans`).
-/

set_option autoImplicit false

namespace Convergence

variable {ρ α : Type}

/-! ### Settings -/

/-- A setting is the one that is written, and the preset one if none is written. -/
def IsSet (writes : Value → α → Prop) (preset x : α) : Option Value → Prop
  | some w => writes w x
  | none => x = preset

/-- Of two writings the later one counts. -/
theorem IsSet.trans {writes : Value → α → Prop} {x y z : α} {first later : Option Value}
    (h : IsSet writes x y first) (h' : IsSet writes y z later) :
    IsSet writes x z (later.or first) := by
  cases later with
  | some w => exact h'
  | none =>
      obtain rfl : z = y := h'
      exact h

/-! ### Fields -/

namespace Field

/-- The field sets a part of the record to what is written for it. -/
def Sets (x : Field ρ) (f : Dialect) (writes : Value → α → Prop) (get : ρ → α) : Prop :=
  ∀ v r r', x.read f v r = .ok r' → writes v (get r')

/-- The field leaves a part of the record as it is. -/
def Keeps (x : Field ρ) (f : Dialect) (get : ρ → α) : Prop :=
  ∀ v r r', x.read f v r = .ok r' → get r' = get r

/-- A field that puts its value elsewhere keeps the part. -/
theorem keeps_optional {β : Type} {name : String} {d : Decoder β} {put : β → ρ → ρ} {f : Dialect}
    {get : ρ → α} (h : ∀ b r, get (put b r) = get r) : (optional name d put).Keeps f get := by
  intro v r r' hread
  obtain ⟨b, -, rfl⟩ := map_eq_ok_iff.mp hread
  exact h b r

/-- The field sets the part if it has the name, and keeps it otherwise. -/
def Serves (x : Field ρ) (name : String) (f : Dialect) (writes : Value → α → Prop)
    (get : ρ → α) : Prop :=
  x.name = name ∧ x.Sets f writes get ∨ x.name ≠ name ∧ x.Keeps f get

namespace Serves

variable {β : Type} {name n : String} {d : Decoder β} {put : β → ρ → ρ} {f : Dialect}
  {writes : Value → α → Prop} {get : ρ → α}

/-- A field sets the part that it puts its value into. -/
theorem own (h : ∀ v b r, d f v = .ok b → writes v (get (put b r))) :
    (optional name d put).Serves name f writes get := by
  refine .inl ⟨rfl, fun v r r' hread => ?_⟩
  obtain ⟨b, hb, rfl⟩ := map_eq_ok_iff.mp hread
  exact h v b r hb

/-- It keeps every part that it puts its value beside. -/
theorem other (hname : n ≠ name) (h : ∀ b r, get (put b r) = get r) :
    (optional n d put).Serves name f writes get :=
  .inr ⟨hname, keeps_optional h⟩

/-- A field of a record does the same where the record is itself a part of another one. -/
theorem inside {σ : Type} (h : (optional n d put).Serves name f writes get)
    {change : (ρ → ρ) → σ → σ} {part : σ → ρ} (hchange : ∀ g r, part (change g r) = g (part r)) :
    (optional n d fun b => change (put b)).Serves name f writes (get ∘ part) := by
  have hput : ∀ {v r r'}, (optional n d fun b => change (put b)).read f v r = .ok r' →
      (optional n d put).read f v (part r) = .ok (part r') := by
    intro v r r' hread
    obtain ⟨b, hb, rfl⟩ := map_eq_ok_iff.mp hread
    exact map_eq_ok_iff.mpr ⟨b, hb, (hchange _ _).symm⟩
  rcases h with ⟨hname, hsets⟩ | ⟨hname, hkeeps⟩
  · exact .inl ⟨hname, fun v r r' hread => hsets v _ _ (hput hread)⟩
  · exact .inr ⟨hname, fun v r r' hread => hkeeps v _ _ (hput hread)⟩

/-- What a field does to the part. -/
theorem isSet_read {x : Field ρ} (h : x.Serves name f writes get) {v : Value} {r r' : ρ}
    (hread : x.read f v r = .ok r') :
    IsSet writes (get r) (get r') ([(x.name, v)].lookup name) := by
  rw [List.lookup_cons]
  rcases h with ⟨hname, hsets⟩ | ⟨hname, hkeeps⟩
  · rw [hname, BEq.rfl]
    exact hsets v r r' hread
  · rw [beq_false_of_ne (Ne.symm hname)]
    exact hkeeps v r r' hread

end Serves

end Field

/-! ### Records -/

namespace Schema

variable {s : Schema ρ} {name : String} {f : Dialect} {writes : Value → α → Prop} {get : ρ → α}
  {x : Field ρ} {v : Value} {r r' : ρ}

/-- What a value writes for the fields, by their names: the elements of an array stand for the
fields in order. -/
def entries (s : Schema ρ) : Value → List (String × Value)
  | .object ms => ms
  | .array items => s.names.zip items
  | _ => []

/-- What is written for a field.  Of several members of one name, which a TOML table cannot have,
the last one counts. -/
def written? (s : Schema ρ) (name : String) (v : Value) : Option Value :=
  (s.entries v).reverse.lookup name

/-- The field of that name sets a part of the record, and the other fields keep it. -/
structure Sets (s : Schema ρ) (name : String) (f : Dialect) (writes : Value → α → Prop)
    (get : ρ → α) : Prop where
  mem : name ∈ s.names
  serves : ∀ x ∈ s.fields, x.Serves name f writes get

/-- The field that is found by a name is a field of that name. -/
theorem mem_of_field?_eq_some (h : s.field? name = some x) : x ∈ s.fields ∧ x.name = name :=
  ⟨List.mem_of_find?_eq_some h, by simpa using List.find?_some h⟩

namespace Sets

/-- Reading members sets the part to the last one of the name. -/
theorem isSet_readMembers (h : s.Sets name f writes get) {ms : List (String × Value)}
    (hread : s.readMembers f ms r = .ok r') :
    IsSet writes (get r) (get r') (ms.reverse.lookup name) := by
  induction ms generalizing r with
  | nil =>
      cases hread
      rfl
  | cons m ms ih =>
      obtain ⟨k, v⟩ := m
      rw [List.reverse_cons, List.lookup_append]
      rw [readMembers] at hread
      split at hread
      · rename_i x hx
        obtain ⟨r₁, hr₁, hread⟩ := bind_eq_ok_iff.mp hread
        obtain ⟨hmem, rfl⟩ := mem_of_field?_eq_some hx
        exact ((h.serves x hmem).isSet_read hr₁).trans (ih hread)
      · rename_i hnone
        -- A member without a field is refused or skipped; either way it has another name.
        have hk : name ≠ k := by
          rintro rfl
          obtain ⟨x, hx, hname⟩ := List.mem_map.mp h.mem
          exact List.find?_eq_none.mp hnone x hx (beq_iff_eq.mpr hname)
        have hskip : IsSet writes (get r) (get r) ([(k, v)].lookup name) := by
          rw [List.lookup_cons, beq_false_of_ne hk]
          rfl
        split at hread
        · cases hread
        · exact hskip.trans (ih hread)

/-- Reading elements sets the part to the one in the place of the name. -/
theorem isSet_readItems (h : s.Sets name f writes get) {i : Nat} {xs : List (Field ρ)}
    {items : List Value} (hxs : ∀ x ∈ xs, x ∈ s.fields)
    (hread : s.readItems f i xs items r = .ok r') :
    IsSet writes (get r) (get r') (((xs.map (·.name)).zip items).reverse.lookup name) := by
  induction xs generalizing i items r with
  | nil =>
      rw [readItems] at hread
      split at hread
      · cases hread
      · cases hread
        rfl
  | cons x xs ih =>
      obtain ⟨hx, hxs⟩ := List.forall_mem_cons.mp hxs
      cases items with
      | nil =>
          rw [readItems] at hread
          split at hread
          · cases hread
          · -- Fields without an element are passed over.
            have hrest := ih hxs hread
            rwa [List.zip_nil_right] at hrest ⊢
      | cons v vs =>
          obtain ⟨r₁, hr₁, hread⟩ := bind_eq_ok_iff.mp hread
          rw [List.map_cons, List.zip_cons_cons, List.reverse_cons, List.lookup_append]
          exact ((h.serves x hx).isSet_read hr₁).trans (ih hxs hread)

/-- In a record that is read, the part is what is written for its field, or else as it was at
first. -/
theorem isSet_decode (h : s.Sets name f writes get) (hread : s.decode f v = .ok r) :
    IsSet writes (get s.initial) (get r) (s.written? name v) := by
  cases v with
  | object ms =>
      obtain ⟨r₁, hr₁, hmissing⟩ := bind_eq_ok_iff.mp hread
      split at hmissing
      · cases hmissing
      · cases hmissing
        exact h.isSet_readMembers hr₁
  | array items => exact h.isSet_readItems (fun x hx => hx) hread
  | _ => cases hread

/-- The same where the record itself is a setting, and is preset to another value than it has when
it is read. -/
theorem isSet_nested (h : s.Sets name f writes get) {table : Option Value} {preset : ρ}
    (htable : IsSet (fun v r => s.decode f v = .ok r) preset r table) :
    IsSet writes (get (if table.isSome then s.initial else preset)) (get r)
      (table.bind (s.written? name)) := by
  cases table with
  | some v => exact h.isSet_decode htable
  | none => exact congrArg get htable

/-- The same where the record is preset to what it is when it is read. -/
theorem isSet_table (h : s.Sets name f writes get) {table : Option Value}
    (htable : IsSet (fun v r => s.decode f v = .ok r) s.initial r table) :
    IsSet writes (get s.initial) (get r) (table.bind (s.written? name)) := by
  have hnested := h.isSet_nested htable
  rwa [ite_self] at hnested

end Sets

end Schema

end Convergence
