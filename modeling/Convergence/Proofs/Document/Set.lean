import Convergence.Proofs.Document.Edit

/-!
# `Convergence.Proofs.Document.Set`: how a document reads after a write

`Written before p new after` says how `after` reads at every path if it is `before` with `new`
stored at `p`.  A path leads on from `p`, or up towards the top from it, or parts from it, and there
is a clause for each.  On the way to `p` stand objects, old ones with their other members or new
ones without any, whatever stood there before; off the way nothing changes, not even where a value
on the way has been replaced.

`eq_set_iff_written`: these clauses hold of the document after the write and of no other.
-/

set_option autoImplicit false

namespace Convergence.Document

/-- How a document reads after a new value has been stored at a path. -/
structure Written (before : Document) (p : Path) (new after : Document) : Prop where
  /-- At the path and below it stands what stands in the new value. -/
  below : ∀ r : List String, after.get? ⟨p.keys ++ r⟩ = new.get? ⟨r⟩
  /-- Above the path, where the way goes on under the key `k`, stands an object.  Its other members
  are those of the object that stood there; it has none if no object did. -/
  above : ∀ q k r, p.keys = q ++ k :: r →
    ∃ w, after.get? ⟨q⟩ = some w ∧ w.IsObject ∧
      (∀ u, before.get? ⟨q⟩ = some u → u.IsObject → ∀ j, j ≠ k → w.member? j = u.member? j) ∧
      ((∀ u, before.get? ⟨q⟩ = some u → ¬u.IsObject) → ∀ j, j ≠ k → w.member? j = none)
  /-- On a path that parts from this one nothing changes. -/
  beside : ∀ q : Path, p.Apart q → after.get? q = before.get? q

/-- At a path that has been written to, and below it, stands what stands in the new value. -/
theorem get?_set_append (d new : Document) (p r : List String) :
    (d.set ⟨p⟩ new).get? ⟨p ++ r⟩ = new.get? ⟨r⟩ := by
  rw [get?_eq_look, some_set, look_append, look_edit]
  rfl

/-- At the path itself stands the new value. -/
theorem get?_set_self (d new : Document) (p : Path) : (d.set p new).get? p = some new := by
  rw [get?_eq_look, some_set, look_edit]

/-- Above it stands what stood there, or an empty document, written to along the rest of the
way. -/
theorem get?_set_append_self (d new : Document) (q r : List String) :
    (d.set ⟨q ++ r⟩ new).get? ⟨q⟩ = some (((d.get? ⟨q⟩).getD null).set ⟨r⟩ new) := by
  rw [get?_eq_look, some_set, look_edit_append, edit_const_some]
  rfl

/-- On a path that parts from it nothing changes. -/
theorem get?_set_of_apart {p q : Path} (h : p.Apart q) (d new : Document) :
    (d.set p new).get? q = d.get? q := by
  rw [get?_eq_look, some_set]
  exact look_edit_of_apart _ _ h

/-- What has been written to along a path with at least one key is an object. -/
theorem isObject_set_cons (d new : Document) (k : String) (r : List String) :
    (d.set ⟨k :: r⟩ new).IsObject := by
  rw [set_cons]
  exact isObject_set_singleton d k _

/-- Writing along a path keeps the members under other keys than the first. -/
theorem member?_set_cons_of_ne (d new : Document) {j k : String} (hne : j ≠ k)
    (r : List String) : (d.set ⟨k :: r⟩ new).member? j = d.member? j := by
  rw [set_cons, member?_set_singleton, if_neg hne]

/-- A document reads after a write as it should. -/
theorem written_set (d : Document) (p : Path) (new : Document) :
    Written d p new (d.set p new) where
  below := get?_set_append d new p.keys
  above := by
    intro q k r hp
    obtain ⟨ps⟩ := p
    obtain rfl : ps = q ++ k :: r := hp
    -- What stood there, or an empty document, has been written to along the rest of the way.
    refine ⟨_, get?_set_append_self d new q (k :: r), isObject_set_cons _ new k r, ?_, ?_⟩
    · intro u hu _ j hne
      rw [hu, Option.getD_some, member?_set_cons_of_ne u new hne]
    · intro hno j hne
      rw [member?_set_cons_of_ne _ new hne]
      cases hq : d.get? ⟨q⟩ with
      | none => exact member?_null j
      | some u => exact member?_eq_none_of_not_isObject (hno u hq) j
  beside := fun _ hq => get?_set_of_apart hq d new

/-- **Reading after a write.**  A document is the one after a write exactly if it reads like it:
the new value at the path and below, objects with their other members kept on the way there, and
everything else as before. -/
theorem eq_set_iff_written (d : Document) (p : Path) (new e : Document) :
    e = d.set p new ↔ Written d p new e := by
  constructor
  · rintro rfl
    exact written_set d p new
  · intro h
    have hset := written_set d p new
    refine eq_of_get?_eq (p := p.keys) ?_ (fun q k r hp => ?_) fun q hq => ?_
    · have hleft := h.below []
      have hright := hset.below []
      rw [List.append_nil] at hleft hright
      rw [hleft, hright]
    · obtain ⟨u, hu, huobject, -⟩ := h.above q k r hp
      obtain ⟨w, hw, hwobject, -⟩ := hset.above q k r hp
      exact ⟨u, w, hu, hw, huobject, hwobject⟩
    · rw [h.beside ⟨q⟩ hq, hset.beside ⟨q⟩ hq]

/-- A number on the way gives place to an object, and the name beside it stays. -/
example :
    let d := ofValue (.object [("dut", .int 5), ("name", .string "r1")])
    let e := d.set ⟨["dut", "lacp", "agg1"]⟩ null
    e.get? ⟨["dut", "lacp"]⟩ = some (null.set ⟨["agg1"]⟩ null) ∧
      e.get? ⟨["name"]⟩ = some ⟨.string "r1", trivial⟩ := ⟨rfl, rfl⟩

end Convergence.Document
