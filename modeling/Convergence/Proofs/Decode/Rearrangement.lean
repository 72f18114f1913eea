import Convergence.Proofs.Except
import Convergence.Proofs.Inspection.Alike
import Mathlib.Data.List.Forall2
import Mathlib.Data.List.Perm.Basic

/-!
# `Convergence.Proofs.Decode.Rearrangement`: rearranged lists decode to rearranged lists

A list decodes if each of its elements does, and what it decodes to has an element for each of them
(`mapM_eq_ok_iff`).  So a list whose elements have been rearranged decodes to a rearranged list, or
neither decodes.  How the elements are rearranged is a `Rearrangement`, a relation of lists that
decoding keeps in this sense.  There are three:

* `Rearrangement.permuted`: the same elements, each as often as before, in another order.
* `Rearrangement.sameElements`: the same elements, each as often as may be.
* `Rearrangement.echoed`: the same list, or with a copy of one element behind it.  The first element
  that does not decode is then the same, so the error is, too.
-/

set_option autoImplicit false

namespace Convergence

/-! ### Decoding element by element -/

section
variable {ε α β : Type} {f : α → Except ε β} {xs ys : List α} {bs : List β}

/-- The elements are decoded one by one. -/
theorem mapM_eq_ok_iff : xs.mapM f = .ok bs ↔ List.Forall₂ (fun x b => f x = .ok b) xs bs := by
  induction xs generalizing bs with
  | nil =>
      rw [List.mapM_nil, List.forall₂_nil_left_iff]
      show Except.ok [] = .ok bs ↔ bs = []
      rw [Except.ok.injEq, eq_comm]
  | cons x xs ih =>
      rw [List.mapM_cons, bind_eq_ok_iff, List.forall₂_cons_left_iff]
      constructor
      · rintro ⟨b, hx, h⟩
        obtain ⟨cs, hxs, heq⟩ := bind_eq_ok_iff.mp h
        cases heq
        exact ⟨b, cs, hx, ih.mp hxs, rfl⟩
      · rintro ⟨b, cs, hx, hxs, rfl⟩
        exact ⟨b, hx, bind_eq_ok_iff.mpr ⟨cs, ih.mpr hxs, rfl⟩⟩

/-- A list decodes exactly if each of its elements does. -/
theorem exists_mapM_eq_ok_iff : (∃ bs, xs.mapM f = .ok bs) ↔ ∀ x ∈ xs, ∃ b, f x = .ok b := by
  simp only [mapM_eq_ok_iff]
  induction xs with
  | nil => exact ⟨fun _ => nofun, fun _ => ⟨[], .nil⟩⟩
  | cons x xs ih =>
      rw [List.forall_mem_cons, ← ih]
      constructor
      · rintro ⟨bs, h⟩
        cases h with
        | cons hx hxs => exact ⟨⟨_, hx⟩, _, hxs⟩
      · rintro ⟨⟨b, hx⟩, bs, hxs⟩
        exact ⟨b :: bs, .cons hx hxs⟩

/-- What a list decodes to are what its elements decode to. -/
theorem mem_iff_of_mapM_eq_ok (h : xs.mapM f = .ok bs) {b : β} :
    b ∈ bs ↔ ∃ x ∈ xs, f x = .ok b := by
  rw [mapM_eq_ok_iff] at h
  induction h with
  | nil => simp
  | @cons x c xs bs hx _ ih =>
      rw [List.mem_cons, ih, List.exists_mem_cons_iff, hx, Except.ok.injEq, eq_comm]

end

/-! ### Rearrangements -/

/-- A relation between lists and their rearranged forms, which keeps their elements and is kept when
the elements are decoded. -/
structure Rearrangement where
  /-- An error in decoding stays the same, too. -/
  strict : Prop
  Rel {α : Type} : List α → List α → Prop
  refl {α : Type} (xs : List α) : Rel xs xs
  mem_iff {α : Type} {xs ys : List α} (h : Rel xs ys) (x : α) : x ∈ xs ↔ x ∈ ys
  mapM {ε α β : Type} {xs ys : List α} (h : Rel xs ys) (f : α → Except ε β) :
    Alike strict Rel (xs.mapM f) (ys.mapM f)

/-- The list with a copy of one of its elements put in somewhere. -/
def Repeats {α : Type} (xs ys : List α) : Prop :=
  ∃ before x after, x ∈ xs ∧ xs = before ++ after ∧ ys = before ++ x :: after

/-- The list with a copy of one of its elements put in somewhere behind it. -/
def Echoes {α : Type} (xs ys : List α) : Prop :=
  ∃ before x after, x ∈ before ∧ xs = before ++ after ∧ ys = before ++ x :: after

namespace Rearrangement

variable {ε α β : Type} {f : α → Except ε β} {xs ys : List α}

theorem alike_mapM_of_perm (h : xs.Perm ys) :
    Alike False List.Perm (xs.mapM f) (ys.mapM f) := by
  -- A permutation can be read backwards, so what holds of any two lists serves for both directions.
  have hperm : ∀ {us vs : List α}, us.Perm vs → ∀ bs, us.mapM f = .ok bs →
      ∃ cs, vs.mapM f = .ok cs ∧ bs.Perm cs := by
    intro us vs huv bs hbs
    obtain ⟨cs, hcs, hperm⟩ := List.perm_comp_forall₂ huv.symm (mapM_eq_ok_iff.mp hbs)
    exact ⟨cs, mapM_eq_ok_iff.mpr hcs, hperm.symm⟩
  refine .of_forall_ok (hperm h) fun bs hbs => ?_
  obtain ⟨cs, hcs, -⟩ := hperm h.symm bs hbs
  exact ⟨cs, hcs⟩

theorem alike_mapM_of_mem_iff (h : ∀ x, x ∈ xs ↔ x ∈ ys) :
    Alike False (fun bs cs => ∀ b, b ∈ bs ↔ b ∈ cs) (xs.mapM f) (ys.mapM f) := by
  have hdecodes : (∃ bs, xs.mapM f = .ok bs) ↔ ∃ cs, ys.mapM f = .ok cs := by
    rw [exists_mapM_eq_ok_iff, exists_mapM_eq_ok_iff]
    exact forall_congr' fun x => imp_congr_left (h x)
  refine .of_forall_ok (fun bs hbs => ?_) fun cs hcs => hdecodes.mpr ⟨cs, hcs⟩
  obtain ⟨cs, hcs⟩ := hdecodes.mp ⟨bs, hbs⟩
  refine ⟨cs, hcs, fun b => ?_⟩
  rw [mem_iff_of_mapM_eq_ok hbs, mem_iff_of_mapM_eq_ok hcs]
  exact exists_congr fun x => and_congr_left' (h x)

/-- The copy decodes like the element in front of it, which has been decoded before. -/
theorem alike_mapM_of_echoes (h : Echoes xs ys) :
    Alike True (fun bs cs => bs = cs ∨ Echoes bs cs) (xs.mapM f) (ys.mapM f) := by
  obtain ⟨before, x, after, hx, rfl, rfl⟩ := h
  rw [List.mapM_append, List.mapM_append, List.mapM_cons]
  cases hbefore : before.mapM f with
  | error e => exact .error fun _ => rfl
  | ok bs =>
      -- So if an element does not decode, it stands behind the copy, in both lists alike.
      obtain ⟨b, hb⟩ := exists_mapM_eq_ok_iff.mp ⟨bs, hbefore⟩ x hx
      rw [hb]
      cases after.mapM f with
      | error e => exact .error fun _ => rfl
      | ok cs => exact .ok (.inr ⟨bs, b, cs, (mem_iff_of_mapM_eq_ok hbefore).mpr ⟨x, hx, hb⟩,
          rfl, rfl⟩)

/-- The elements in another order. -/
def permuted : Rearrangement where
  strict := False
  Rel := List.Perm
  refl := List.Perm.refl
  mem_iff h _ := h.mem_iff
  mapM h _ := alike_mapM_of_perm h

/-- The same elements, each as often as may be. -/
def sameElements : Rearrangement where
  strict := False
  Rel xs ys := ∀ x, x ∈ xs ↔ x ∈ ys
  refl _ _ := Iff.rfl
  mem_iff h := h
  mapM h _ := alike_mapM_of_mem_iff h

end Rearrangement

/-- A copy adds no new element. -/
theorem Repeats.mem_iff {α : Type} {xs ys : List α} (h : Repeats xs ys) (y : α) :
    y ∈ xs ↔ y ∈ ys := by
  obtain ⟨before, x, after, hx, rfl, rfl⟩ := h
  simp only [List.mem_append, List.mem_cons] at hx ⊢
  constructor
  · rintro (h | h)
    · exact .inl h
    · exact .inr (.inr h)
  · rintro (h | rfl | h)
    · exact .inl h
    · exact hx
    · exact .inr h

theorem Echoes.repeats {α : Type} {xs ys : List α} (h : Echoes xs ys) : Repeats xs ys := by
  obtain ⟨before, x, after, hx, rfl, rfl⟩ := h
  exact ⟨before, x, after, List.mem_append_left after hx, rfl, rfl⟩

/-- The same list, or with a copy of one element behind it. -/
def Rearrangement.echoed : Rearrangement where
  strict := True
  Rel xs ys := xs = ys ∨ Echoes xs ys
  refl _ := .inl rfl
  mem_iff := by
    rintro α xs ys (rfl | h) x
    · exact Iff.rfl
    · exact h.repeats.mem_iff x
  mapM := by
    rintro ε α β xs ys (rfl | h) f
    · exact .refl (fun _ => .inl rfl) _
    · exact alike_mapM_of_echoes h

end Convergence
