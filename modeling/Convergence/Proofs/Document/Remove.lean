import Convergence.Proofs.Document.Set

/-!
# `Convergence.Proofs.Document.Remove`: how a document reads after a removal

Removing walks the document by other means than reading, and changes it on the way back, but finds
the same: it answers what stands at the path (`fst_remove`), and without anything there it leaves
the document alone (`snd_remove_of_none`).  `Removed before p after` says how `after` reads at
every path if it is `before` without what stands at `p`.  Nothing is left at the path and below, but
the objects on the way to it stay, also an object that has lost its last member.

`remove_effect` puts this together, with what becomes of a value that is stored and then removed.
-/

set_option autoImplicit false

namespace Convergence.Document

/-- How a document reads after what stands at a path has been taken out. -/
structure Removed (before : Document) (p : Path) (after : Document) : Prop where
  /-- At the path and below it stands nothing. -/
  below : ∀ r : List String, after.get? ⟨p.keys ++ r⟩ = none
  /-- Above the path, where the way goes on under the key `k`, the object that stood there still
  stands, with the same members under other keys.  Under `k` it has none any more if the way ends
  there. -/
  above : ∀ q k r, p.keys = q ++ k :: r →
    ∃ u w, before.get? ⟨q⟩ = some u ∧ after.get? ⟨q⟩ = some w ∧ u.IsObject ∧ w.IsObject ∧
      (∀ j, j ≠ k → w.member? j = u.member? j) ∧ (w.member? k = none ↔ r = [])
  /-- On a path that parts from this one nothing changes. -/
  beside : ∀ q : Path, p.Apart q → after.get? q = before.get? q

/-! ### One removal -/

/-- What is removed is what stood there. -/
theorem fst_remove (d : Document) {p : Path} (hp : p.keys ≠ []) : (d.remove p).1 = d.get? p := by
  obtain ⟨ps⟩ := p
  obtain ⟨k, ks, rfl⟩ := List.exists_cons_of_ne_nil hp
  exact fst_remove_cons d k ks

/-- Where nothing stands there is nothing to remove. -/
theorem snd_remove_of_none {d : Document} {p : Path} (h : d.get? p = none) :
    (d.remove p).2 = d := by
  have hp : p.keys ≠ [] := by
    obtain ⟨ps⟩ := p
    rintro rfl
    cases h
  refine Option.some.inj ?_
  rw [some_snd_remove d hp]
  exact edit_eq_self h.symm

/-- Nothing stands where something has been removed. -/
theorem get?_snd_remove (d : Document) {p : Path} (hp : p.keys ≠ []) :
    (d.remove p).2.get? p = none := by
  rw [get?_eq_look, some_snd_remove d hp, look_edit]

/-- Above it stands what stood there, with the rest of the way removed. -/
theorem get?_snd_remove_append (d : Document) (q : List String) (k : String) (r : List String) :
    (d.remove ⟨q ++ k :: r⟩).2.get? ⟨q⟩
      = (d.get? ⟨q⟩).map fun u => (u.remove ⟨k :: r⟩).2 := by
  rw [get?_eq_look, some_snd_remove d (by simp), look_edit_append, edit_const_none]
  rfl

/-- On a path that parts from it nothing changes. -/
theorem get?_snd_remove_of_apart {p q : Path} (h : p.Apart q) (d : Document) :
    (d.remove p).2.get? q = d.get? q := by
  rw [get?_eq_look, some_snd_remove d h.keys_ne_nil]
  exact look_edit_of_apart _ _ h

/-- Removing along a path from an object with a member under the first key leaves an object, with
the same members under other keys.  The member under the first key is lost if there is no other
key. -/
theorem remove_cons_of_member? {u c : Document} {k : String} (hc : u.member? k = some c)
    (r : List String) :
    (u.remove ⟨k :: r⟩).2.IsObject ∧
      (∀ j, j ≠ k → (u.remove ⟨k :: r⟩).2.member? j = u.member? j) ∧
      ((u.remove ⟨k :: r⟩).2.member? k = none ↔ r = []) := by
  cases r with
  | nil =>
      refine ⟨(isObject_of_member? hc).without k, fun j hne => ?_, ?_⟩
      · show (u.without k).member? j = u.member? j
        rw [member?_without, if_neg hne]
      · show (u.without k).member? k = none ↔ _
        rw [member?_without, if_pos rfl]
        exact iff_of_true rfl rfl
  | cons i is =>
      rw [remove_cons_cons_of_some hc]
      refine ⟨isObject_set_singleton u k _, fun j hne => ?_, ?_⟩
      · rw [member?_set_singleton, if_neg hne]
      · rw [member?_set_singleton, if_pos rfl]
        exact iff_of_false nofun nofun

/-- A document reads after a removal as it should. -/
theorem removed_remove {d old : Document} {p : Path} (hp : p.keys ≠ [])
    (hold : d.get? p = some old) : Removed d p (d.remove p).2 where
  below := by
    intro r
    rw [get?_eq_look, look_append, ← get?_eq_look, get?_snd_remove d hp, look_none]
  above := by
    intro q k r hkeys
    obtain ⟨ps⟩ := p
    obtain rfl : ps = q ++ k :: r := hkeys
    -- Something stands at the path, so something stands on the way to it, and leads on.
    rw [get?_eq_look, look_append] at hold
    cases hu : d.get? ⟨q⟩ with
    | none =>
        rw [show look q (some d) = none from hu] at hold
        cases hold
    | some u =>
        rw [show look q (some d) = some u from hu, look_cons, look_singleton_some] at hold
        cases hc : u.member? k with
        | none =>
            rw [hc] at hold
            cases hold
        | some c =>
            obtain ⟨hobject, hothers, hkey⟩ := remove_cons_of_member? hc r
            refine ⟨u, (u.remove ⟨k :: r⟩).2, rfl, ?_, isObject_of_member? hc, hobject, hothers,
              hkey⟩
            rw [get?_snd_remove_append, hu]
            rfl
  beside := fun _ hq => get?_snd_remove_of_apart hq d

/-- Only one document reads like that. -/
theorem Removed.unique {d e e' : Document} {p : Path} (h : Removed d p e)
    (h' : Removed d p e') : e = e' := by
  refine eq_of_get?_eq (p := p.keys) ?_ (fun q k r hp => ?_) fun q hq => ?_
  · have hleft := h.below []
    have hright := h'.below []
    rw [List.append_nil] at hleft hright
    rw [hleft, hright]
  · obtain ⟨-, u, -, hu, -, huobject, -⟩ := h.above q k r hp
    obtain ⟨-, w, -, hw, -, hwobject, -⟩ := h'.above q k r hp
    exact ⟨u, w, hu, hw, huobject, hwobject⟩
  · rw [h.beside ⟨q⟩ hq, h'.beside ⟨q⟩ hq]

/-! ### Storing and removing again -/

/-- A member that is added to an object and taken out again leaves the object as it was. -/
theorem without_set_singleton {d : Document} {k : String} (hd : d.IsObject)
    (hk : d.member? k = none) (new : Document) : (d.set ⟨[k]⟩ new).without k = d := by
  refine ext_member? ((isObject_set_singleton d k new).without k) hd fun j => ?_
  rw [member?_without, member?_set_singleton]
  split
  · rename_i hj
    rw [hj, hk]
  · rfl

/-- A value that is stored as a new member of an object is answered when it is removed, and the
document is as it was before. -/
theorem remove_set {d parent : Document} {q : Path} {k : String} (hq : d.get? q = some parent)
    (hparent : parent.IsObject) (hk : parent.member? k = none) (new : Document) :
    (d.set (q.push k) new).remove (q.push k) = (some new, d) := by
  have hp : (q.push k).keys ≠ [] := by simp [Path.push]
  refine Prod.ext ?_ (Option.some.inj ?_)
  · have hnew := get?_set_append d new (q.push k).keys []
    rw [List.append_nil] at hnew
    rw [fst_remove _ hp]
    exact hnew
  · -- Both updates are edits of the parent, and undo one another there.
    have hundo : enter k none (enter k (some new) (some parent)) = some parent :=
      congrArg some (without_set_singleton hparent hk new)
    rw [some_snd_remove _ hp, some_set, Path.push, edit_append, edit_append,
      edit_edit (eq_none_of_edit_cons_eq_none k [])]
    refine edit_eq_self ?_
    rw [show look q.keys (some d) = some parent from hq]
    exact hundo

/-- **Removing.**  Without a key, nothing is removed.  With one, a removal answers what stands at
the path.  If nothing does, the document stays as it is; otherwise it becomes the one that reads
like it with that taken out, all objects on the way being kept.  To remove again answers nothing.
And a value that has been stored as a new member of an object is answered by a removal, which
leaves the document as it was. -/
theorem remove_effect (d : Document) :
    d.remove ⟨[]⟩ = (none, d) ∧
    ∀ p : Path, p.keys ≠ [] →
      (d.remove p).1 = d.get? p ∧
      (d.get? p = none → (d.remove p).2 = d) ∧
      (∀ old, d.get? p = some old → ∀ e, e = (d.remove p).2 ↔ Removed d p e) ∧
      ((d.remove p).2.remove p).1 = none ∧
      (∀ q k parent new, p = q.push k → d.get? q = some parent → parent.IsObject →
        parent.member? k = none → (d.set p new).remove p = (some new, d)) := by
  refine ⟨remove_nil d, fun p hp => ⟨fst_remove d hp, snd_remove_of_none, ?_, ?_, ?_⟩⟩
  · intro old hold e
    have hremoved := removed_remove hp hold
    constructor
    · rintro rfl
      exact hremoved
    · intro he
      exact he.unique hremoved
  · rw [fst_remove _ hp, get?_snd_remove d hp]
  · rintro q k parent new rfl hq hparent hk
    exact remove_set hq hparent hk new

/-- The only link of a device is removed: the object that held it stays and is empty.  A link that
is added beside it and removed again leaves no trace. -/
theorem remove_effect_link :
    let d := ofValue (.object [("otg", .object [("lag", .object [("lag1", .bool true)])])])
    let p : Path := ⟨["otg", "lag", "lag1"]⟩
    let link : Document := ⟨.bool true, trivial⟩
    p.keys ≠ [] ∧ d.get? p = some link ∧ (d.remove p).1 = some link ∧
      (∃ links, (d.remove p).2.get? ⟨["otg", "lag"]⟩ = some links ∧ links.IsObject ∧
        links.member? "lag1" = none) ∧
      (d.set ⟨["otg", "lag", "lag2"]⟩ link).remove ⟨["otg", "lag", "lag2"]⟩ = (some link, d) := by
  intro d p link
  have hold : d.get? p = some link := rfl
  have hp : p.keys ≠ [] := nofun
  obtain ⟨hanswer, -, hreads, -, -⟩ := (remove_effect d).2 p hp
  obtain ⟨-, links, -, hlinks, -, hobject, -, hgone⟩ :=
    ((hreads link hold _).mp rfl).above ["otg", "lag"] "lag1" [] rfl
  refine ⟨hp, hold, hanswer.trans hold, ⟨links, hlinks, hobject, hgone.mpr rfl⟩, ?_⟩
  have hq : d.get? ⟨["otg", "lag"]⟩
      = some ⟨.object [("lag1", .bool true)], by decide, trivial, trivial⟩ := rfl
  exact ((remove_effect d).2 ⟨["otg", "lag", "lag2"]⟩ nofun).2.2.2.2 ⟨["otg", "lag"]⟩ "lag2" _ link
    rfl hq ⟨_, rfl⟩ rfl

end Convergence.Document
