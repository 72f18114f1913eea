import Convergence.Document

/-!
# `Convergence.Proofs.Document.Members`: documents seen from outside

A document is known by whether it is an object and by its members: two objects with the same
members are the same document (`ext_member?`).  This module says what reading, writing and removing
do to the members, one key at a time, and how a longer path is one key and then the rest
(`get?_cons`, `set_cons`, `remove_cons`).  Everything later is proved from these laws, and looks
neither at lists of members nor at their order.
-/

set_option autoImplicit false

namespace Convergence

namespace Value

/-- A longer path is one key and then the rest. -/
theorem find?_cons (k : String) (ks : List String) (v : Value) :
    find? (k :: ks) v = (find? [k] v).bind (find? ks) := by
  simp only [find?]
  cases Entries.find? k v.members <;> rfl

/-- The value under a single key is a member. -/
theorem find?_singleton (k : String) (v : Value) : find? [k] v = Entries.find? k v.members := by
  simp only [find?]
  cases Entries.find? k v.members <;> rfl

end Value

namespace Document

/-- The document is an object. -/
def IsObject (d : Document) : Prop := ∃ ms, d.value = .object ms

/-- The value under a key.  Only objects have any. -/
def member? (d : Document) (k : String) : Option Document := d.get? ⟨[k]⟩

/-- The document without the value under a key. -/
def without (d : Document) (k : String) : Document := (d.remove ⟨[k]⟩).2

variable {d e : Document} {k : String}

theorem value_injective : Function.Injective value := by
  rintro ⟨v, hv⟩ ⟨w, hw⟩ h
  cases h
  rfl

/-- What stands at two places is the same if the trees are. -/
theorem eq_of_map_value {x y : Option Document} (h : x.map value = y.map value) : x = y :=
  Option.map_injective value_injective h

theorem map_value_get? (d : Document) (p : Path) :
    (d.get? p).map value = d.value.find? p.keys := by
  unfold get?
  split
  · rename_i h
    exact h.symm
  · rename_i v h
    exact h.symm

theorem map_value_member? (d : Document) (k : String) :
    (d.member? k).map value = Entries.find? k d.value.members := by
  rw [member?, map_value_get?, Value.find?_singleton]

theorem map_value_fst_remove (d : Document) (p : Path) :
    (d.remove p).1.map value = (Value.take p.keys d.value).1 := by
  simp only [remove]
  split
  · rename_i h
    exact h.symm
  · rename_i old h
    exact h.symm

/-! ### Objects and their members -/

/-- What has a member is an object. -/
theorem isObject_of_member? {c : Document} (h : d.member? k = some c) : d.IsObject := by
  have hk := map_value_member? d k
  rw [h] at hk
  cases hd : d.value with
  | object ms => exact ⟨ms, hd⟩
  | _ => rw [hd] at hk; cases hk

/-- What is no object has no members. -/
theorem member?_eq_none_of_not_isObject (h : ¬d.IsObject) (k : String) : d.member? k = none := by
  cases hm : d.member? k with
  | none => rfl
  | some c => exact absurd (isObject_of_member? hm) h

/-- Two objects with the same members are the same. -/
theorem ext_member? (hd : d.IsObject) (he : e.IsObject) (h : ∀ k, d.member? k = e.member? k) :
    d = e := by
  obtain ⟨ms, hms⟩ := hd
  obtain ⟨ns, hns⟩ := he
  -- The members of a document stand in order, so the lists are fixed by what they answer.
  have hsorted : ∀ {c : Document} {cs}, c.value = .object cs → Entries.Sorted cs := by
    intro c cs hc
    have hordered := c.ordered
    rw [hc] at hordered
    exact hordered.1
  have hmembers : ms = ns := by
    refine (hsorted hms).ext (hsorted hns) fun k => ?_
    have hk := congrArg (Option.map value) (h k)
    rwa [map_value_member?, map_value_member?, hms, hns] at hk
  refine value_injective ?_
  rw [hms, hns, hmembers]

/-- The empty document has no members. -/
@[simp]
theorem member?_null (k : String) : null.member? k = none := rfl

/-! ### Reading -/

@[simp]
theorem get?_nil (d : Document) : d.get? ⟨[]⟩ = some d := rfl

/-- A longer path is one key and then the rest. -/
theorem get?_cons (d : Document) (k : String) (ks : List String) :
    d.get? ⟨k :: ks⟩ = (d.member? k).bind (·.get? ⟨ks⟩) := by
  refine eq_of_map_value ?_
  rw [map_value_get?, Value.find?_cons]
  have hk := map_value_get? d ⟨[k]⟩
  cases hm : d.member? k with
  | none =>
      rw [show d.get? ⟨[k]⟩ = none from hm] at hk
      rw [← hk]
      rfl
  | some c =>
      rw [show d.get? ⟨[k]⟩ = some c from hm] at hk
      rw [← hk]
      exact (map_value_get? c ⟨ks⟩).symm

/-- Below a member stands what stands there in it. -/
theorem get?_cons_of_member? {c : Document} (h : d.member? k = some c) (ks : List String) :
    d.get? ⟨k :: ks⟩ = c.get? ⟨ks⟩ := by
  rw [get?_cons, h, Option.bind_some]

/-! ### Writing -/

@[simp]
theorem set_nil (d new : Document) : d.set ⟨[]⟩ new = new := rfl

/-- What has been written to is an object. -/
theorem isObject_set_singleton (d : Document) (k : String) (new : Document) :
    (d.set ⟨[k]⟩ new).IsObject := ⟨_, rfl⟩

/-- Writing under a key changes the member with that key and no other. -/
theorem member?_set_singleton (d : Document) (k : String) (new : Document) (j : String) :
    (d.set ⟨[k]⟩ new).member? j = if j = k then some new else d.member? j := by
  refine eq_of_map_value ?_
  rw [map_value_member?]
  show Entries.find? j (Entries.insert k new.value d.value.members) = _
  rw [Entries.find?_insert]
  by_cases hj : j = k
  · rw [if_pos hj, if_pos (Std.LawfulEqOrd.compare_eq_iff_eq.mpr hj)]
    rfl
  · rw [if_neg hj, if_neg fun h => hj (Std.LawfulEqOrd.eq_of_compare h), map_value_member?]

/-- To write the member that is there changes nothing. -/
theorem set_singleton_of_member? {c : Document} (h : d.member? k = some c) :
    d.set ⟨[k]⟩ c = d := by
  refine ext_member? (isObject_set_singleton d k c) (isObject_of_member? h) fun j => ?_
  rw [member?_set_singleton]
  split
  · rename_i hj
    rw [hj, h]
  · rfl

/-- To write along a path is to write the rest of the way into the member under the first key. -/
theorem set_cons (d : Document) (k : String) (ks : List String) (new : Document) :
    d.set ⟨k :: ks⟩ new = d.set ⟨[k]⟩ (((d.member? k).getD null).set ⟨ks⟩ new) := by
  have hmember : ((d.member? k).getD null).value
      = (Entries.find? k d.value.members).getD .null := by
    rw [← map_value_member?]
    cases d.member? k <;> rfl
  refine value_injective ?_
  show Value.object (Entries.insert k (Value.put new.value ks _) d.value.members)
    = Value.object (Entries.insert k (Value.put new.value ks _) d.value.members)
  rw [hmember]

/-! ### Removing -/

@[simp]
theorem remove_nil (d : Document) : d.remove ⟨[]⟩ = (none, d) := rfl

/-- Removing the value under a key answers it. -/
theorem fst_remove_singleton (d : Document) (k : String) :
    (d.remove ⟨[k]⟩).1 = d.member? k := by
  refine eq_of_map_value ?_
  rw [map_value_fst_remove, map_value_member?]
  simp only [Value.take]
  cases Entries.find? k d.value.members <;> rfl

/-- The tree without the value under a key. -/
theorem value_without (d : Document) (k : String) :
    (d.without k).value
      = if d.member? k = none then d.value else .object (Entries.erase k d.value.members) := by
  have hk := map_value_member? d k
  show (Value.take [k] d.value).2 = _
  simp only [Value.take]
  cases hm : d.member? k with
  | none =>
      rw [hm] at hk
      rw [← hk, if_pos rfl]
      rfl
  | some c =>
      rw [hm] at hk
      rw [← hk, if_neg nofun]
      rfl

/-- There is nothing to take out under a key without a value. -/
theorem without_of_member?_eq_none (h : d.member? k = none) : d.without k = d := by
  refine value_injective ?_
  rw [value_without, if_pos h]

/-- An object stays one. -/
theorem IsObject.without (h : d.IsObject) (k : String) : (d.without k).IsObject := by
  cases hm : d.member? k with
  | none => rwa [without_of_member?_eq_none hm]
  | some c => exact ⟨_, by rw [value_without, if_neg (by rw [hm]; nofun)]⟩

/-- What is no object stays as it is. -/
theorem without_of_not_isObject (h : ¬d.IsObject) (k : String) : d.without k = d :=
  without_of_member?_eq_none (member?_eq_none_of_not_isObject h k)

/-- Removing under a key takes out the member with that key and no other. -/
theorem member?_without (d : Document) (k j : String) :
    (d.without k).member? j = if j = k then none else d.member? j := by
  cases hm : d.member? k with
  | none =>
      rw [without_of_member?_eq_none hm]
      split
      · rename_i hj
        rw [hj, hm]
      · rfl
  | some c =>
      refine eq_of_map_value ?_
      rw [map_value_member?, value_without, if_neg (by rw [hm]; nofun)]
      show Entries.find? j (Entries.erase k d.value.members) = _
      rw [Entries.find?_erase d.ordered.members.1]
      by_cases hj : j = k
      · rw [if_pos hj, if_pos (Std.LawfulEqOrd.compare_eq_iff_eq.mpr hj)]
        rfl
      · rw [if_neg hj, if_neg fun h => hj (Std.LawfulEqOrd.eq_of_compare h), map_value_member?]

/-- Along a longer path there is nothing to remove without a member under the first key. -/
theorem remove_cons_cons_of_none (h : d.member? k = none) (j : String) (ks : List String) :
    d.remove ⟨k :: j :: ks⟩ = (none, d) := by
  have hk := map_value_member? d k
  rw [h] at hk
  have htake : Value.take (k :: j :: ks) d.value = (none, d.value) := by
    simp only [Value.take]
    rw [← hk]
    rfl
  refine Prod.ext (eq_of_map_value ?_) (value_injective ?_)
  · rw [map_value_fst_remove, htake]
    rfl
  · show (Value.take (k :: j :: ks) d.value).2 = _
    rw [htake]

/-- To remove along a longer path is to remove the rest of the way in the member under the first
key. -/
theorem remove_cons_cons_of_some {c : Document} (h : d.member? k = some c) (j : String)
    (ks : List String) :
    d.remove ⟨k :: j :: ks⟩
      = ((c.remove ⟨j :: ks⟩).1, d.set ⟨[k]⟩ (c.remove ⟨j :: ks⟩).2) := by
  have hk := map_value_member? d k
  rw [h] at hk
  have htake : Value.take (k :: j :: ks) d.value
      = ((Value.take (j :: ks) c.value).1,
          .object (Entries.insert k (Value.take (j :: ks) c.value).2 d.value.members)) := by
    simp only [Value.take]
    rw [← hk]
    rfl
  refine Prod.ext (eq_of_map_value ?_) (value_injective ?_)
  · rw [map_value_fst_remove, map_value_fst_remove, htake]
  · show (Value.take (k :: j :: ks) d.value).2 = _
    rw [htake]
    rfl

end Document

end Convergence
