import Convergence.Expectation

/-!
# `Convergence.Proofs.Expectation.MemberRemoval`: taking members out of an expected bundle

A step of a scenario brings members of a bundle down and expects the bundle without them.  Each
removal changes the list under the name of the bundle, if there is one, and nothing else
(`get?_bundles_withoutBundleMember`, `withoutBundleMember_bundles`).  Removals one after the other
leave out all their members at once (`foldl_withoutBundleMember`), so neither their order matters
nor how often a member is removed (`foldl_withoutBundleMember_congr`).
-/

set_option autoImplicit false

namespace Convergence

/-! ### Changing the value under a key -/

namespace OrderedMap

variable {κ α : Type} [Ord κ] [Std.TransOrd κ] [Std.LawfulEqOrd κ]

/-- A map without the key stays as it is. -/
theorem modify_of_get?_eq_none {m : OrderedMap κ α} {k : κ} (h : m.get? k = none) (f : α → α) :
    m.modify k f = m := by
  rw [modify, h]

/-- Only the value under the key is changed, if there is one. -/
theorem get?_modify (m : OrderedMap κ α) (k j : κ) (f : α → α) :
    (m.modify k f).get? j = if compare j k = .eq then (m.get? k).map f else m.get? j := by
  cases hk : m.get? k with
  | some v =>
      rw [modify, hk]
      exact get?_insert m k j (f v)
  | none =>
      rw [modify_of_get?_eq_none hk]
      split
      · rename_i hj
        rw [Std.LawfulEqOrd.eq_of_compare hj]
        exact hk
      · rfl

/-- To change nothing about the value is to change nothing. -/
theorem modify_eq_self {m : OrderedMap κ α} {k : κ} {f : α → α} (h : ∀ v, f v = v) :
    m.modify k f = m := by
  refine ext_get? fun j => ?_
  rw [get?_modify]
  split
  · rename_i hj
    obtain rfl := Std.LawfulEqOrd.eq_of_compare hj
    rw [show f = id from funext h, Option.map_id, id]
  · rfl

/-- Two changes under one key are one. -/
theorem modify_modify (m : OrderedMap κ α) (k : κ) (f g : α → α) :
    (m.modify k f).modify k g = m.modify k fun v => g (f v) := by
  refine ext_get? fun j => ?_
  simp only [get?_modify, Std.ReflCmp.compare_self, if_true, Option.map_map]
  split <;> rfl

end OrderedMap

/-! ### Bundles -/

namespace Expectation

variable (e : Expectation) (bundle : String)

/-- The bundle stays, with its other members; it stays even if it has none.  Other bundles stay as
they are. -/
theorem get?_bundles_withoutBundleMember (member name : String) :
    (e.withoutBundleMember bundle member).bundles.get? name =
      if name = bundle then (e.bundles.get? bundle).map (Lists.without · member)
      else e.bundles.get? name := by
  rw [withoutBundleMember, OrderedMap.get?_modify]
  simp only [Std.LawfulEqOrd.compare_eq_iff_eq]

/-- Every section but that of the bundles stays as it is. -/
theorem withoutBundleMember_bundles (member : String) :
    { e.withoutBundleMember bundle member with bundles := e.bundles } = e := rfl

/-- There is nothing to take out of a bundle that is not expected. -/
theorem withoutBundleMember_of_get?_eq_none {e : Expectation} {bundle : String}
    (h : e.bundles.get? bundle = none) (member : String) :
    e.withoutBundleMember bundle member = e := by
  rw [withoutBundleMember, OrderedMap.modify_of_get?_eq_none h]

/-- Members that are taken out one after the other are left out all at once. -/
theorem foldl_withoutBundleMember (members : List String) :
    members.foldl (fun e m => e.withoutBundleMember bundle m) e =
      { e with bundles := e.bundles.modify bundle fun xs => xs.filter (· ∉ members) } := by
  induction members generalizing e with
  | nil =>
      rw [OrderedMap.modify_eq_self fun xs => List.filter_eq_self.mpr fun x _ => by simp]
      rfl
  | cons m members ih =>
      rw [List.foldl_cons, ih]
      -- What the first removal leaves is filtered once more for the others.
      have hfilter : ∀ xs : List String,
          (Lists.without xs m).filter (· ∉ members) = xs.filter (· ∉ m :: members) := by
        intro xs
        rw [Lists.without, List.filter_filter]
        refine List.filter_congr fun x _ => ?_
        simp [Bool.and_comm]
      simp only [withoutBundleMember, OrderedMap.modify_modify, hfilter]

/-- So it does not matter in which order, nor how often. -/
theorem foldl_withoutBundleMember_congr {members members' : List String}
    (h : ∀ m, m ∈ members ↔ m ∈ members') :
    members.foldl (fun e m => e.withoutBundleMember bundle m) e =
      members'.foldl (fun e m => e.withoutBundleMember bundle m) e := by
  simp only [foldl_withoutBundleMember, h]

end Expectation

end Convergence
