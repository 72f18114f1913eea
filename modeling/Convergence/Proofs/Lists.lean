import Convergence.Proofs.Collections
import Mathlib.Data.List.Basic

/-!
# `Convergence.Proofs.Lists`: what the comparisons of lists say, and how they go together

Each comparison computes the relation that it is named for: `Lists.unorderedEq_iff_count` counts
every element, `Lists.sameMembers_iff` and `Lists.containsAll_iff` only ask whether it is there.
All that relates one comparison to another, and to taking an element out (`Lists.without`), follows
from these relations, and nothing later looks at sorted lists.  `Lists.comparisons` has it all in
one place.
-/

set_option autoImplicit false

namespace Convergence.Lists

variable {α : Type} {a b c : List α} {x y : α}

section
variable [Ord α] [Std.TransOrd α] [Std.LawfulEqOrd α]

theorem containsAll_refl (a : List α) : containsAll a a = true :=
  containsAll_iff.mpr fun _ h => h

theorem containsAll_trans (h : containsAll a b = true) (h' : containsAll b c = true) :
    containsAll a c = true :=
  containsAll_iff.mpr fun y hy => containsAll_iff.mp h' y (containsAll_iff.mp h y hy)

end

variable [DecidableEq α]

/-! ### Taking an element out -/

/-- All other elements stay. -/
theorem mem_without : y ∈ without a x ↔ y ∈ a ∧ y ≠ x := by
  rw [without, List.mem_filter, decide_eq_true_eq]

/-- They stay as often as they were there. -/
theorem count_without (h : y ≠ x) : (without a x).count y = a.count y :=
  List.count_filter (decide_eq_true h)

/-- They stay in their order. -/
theorem without_sublist : (without a x).Sublist a := List.filter_sublist

theorem not_mem_without : x ∉ without a x := fun h => (mem_without.mp h).2 rfl

/-! ### The comparisons as relations -/

variable [Ord α] [Std.TransOrd α] [Std.LawfulEqOrd α]

/-- No element occurs more often in one of the lists than in the other. -/
theorem unorderedEq_iff_count : unorderedEq a b = true ↔ ∀ y, a.count y = b.count y := by
  rw [unorderedEq_iff, List.perm_iff_count]

/-- The lists have the same elements, however often each of them occurs. -/
theorem sameMembers_iff : sameMembers a b = true ↔ ∀ y, y ∈ a ↔ y ∈ b := by
  rw [sameMembers, decide_eq_true_iff]
  constructor
  · intro h y
    rw [← OrderedSet.mem_ofList, h, OrderedSet.mem_ofList]
  · intro h
    refine OrderedSet.ext_mem fun y => ?_
    rw [OrderedSet.mem_ofList, OrderedSet.mem_ofList]
    exact h y

theorem unorderedEq_equivalence : Equivalence fun a b : List α => unorderedEq a b = true where
  refl a := unorderedEq_iff.mpr (.refl a)
  symm h := unorderedEq_iff.mpr (unorderedEq_iff.mp h).symm
  trans h h' := unorderedEq_iff.mpr ((unorderedEq_iff.mp h).trans (unorderedEq_iff.mp h'))

theorem sameMembers_equivalence : Equivalence fun a b : List α => sameMembers a b = true where
  refl _ := sameMembers_iff.mpr fun _ => Iff.rfl
  symm h := sameMembers_iff.mpr fun y => (sameMembers_iff.mp h y).symm
  trans h h' :=
    sameMembers_iff.mpr fun y => (sameMembers_iff.mp h y).trans (sameMembers_iff.mp h' y)

/-- To have the same elements is to contain each other. -/
theorem sameMembers_eq (a b : List α) :
    sameMembers a b = (containsAll a b && containsAll b a) := by
  rw [Bool.eq_iff_iff, Bool.and_eq_true, sameMembers_iff, containsAll_iff, containsAll_iff]
  exact ⟨fun h => ⟨fun y => (h y).mp, fun y => (h y).mpr⟩, fun h y => ⟨h.1 y, h.2 y⟩⟩

/-- Lists that are equal but for their order have the same elements. -/
theorem sameMembers_of_unorderedEq (h : unorderedEq a b = true) : sameMembers a b = true :=
  sameMembers_iff.mpr fun _ => (unorderedEq_iff.mp h).mem_iff

/-- Where no element is repeated, there is nothing more to compare. -/
theorem unorderedEq_of_sameMembers (ha : a.Nodup) (hb : b.Nodup) (h : sameMembers a b = true) :
    unorderedEq a b = true :=
  unorderedEq_iff.mpr ((List.perm_ext_iff_of_nodup ha hb).mpr (sameMembers_iff.mp h))

/-! ### Comparing lists without an element -/

theorem unorderedEq_without (h : unorderedEq a b = true) (x : α) :
    unorderedEq (without a x) (without b x) = true :=
  unorderedEq_iff.mpr ((unorderedEq_iff.mp h).filter _)

theorem sameMembers_without (h : sameMembers a b = true) (x : α) :
    sameMembers (without a x) (without b x) = true := by
  rw [sameMembers_iff] at h ⊢
  intro y
  rw [mem_without, mem_without, h y]

theorem containsAll_without (h : containsAll a b = true) (x : α) :
    containsAll (without a x) (without b x) = true := by
  rw [containsAll_iff] at h ⊢
  intro y hy
  obtain ⟨hmem, hne⟩ := mem_without.mp hy
  exact mem_without.mpr ⟨h y hmem, hne⟩

/-! ### All together -/

/-- **Comparing lists.**  Each comparison says what it is named for, whatever the order of the type
and however often elements are repeated.  The two that are symmetric are equivalence relations, and
the third one is a preorder; two lists have the same elements if each contains the other, and are
equal but for their order only if they have the same elements, which is enough where none is
repeated.  A list without an element has all others as they were, and leaving out the same element
on both sides keeps each of the comparisons. -/
theorem comparisons (α : Type) [DecidableEq α] [Ord α] [Std.TransOrd α] [Std.LawfulEqOrd α] :
    (∀ a b : List α, (unorderedEq a b = true ↔ ∀ y, a.count y = b.count y) ∧
      (unorderedEq a b = true ↔ a.Perm b) ∧
      (sameMembers a b = true ↔ ∀ y, y ∈ a ↔ y ∈ b) ∧
      (containsAll a b = true ↔ ∀ y ∈ a, y ∈ b)) ∧
    (Equivalence fun a b : List α => unorderedEq a b = true) ∧
    (Equivalence fun a b : List α => sameMembers a b = true) ∧
    (∀ a : List α, containsAll a a = true) ∧
    (∀ a b c : List α, containsAll a b = true → containsAll b c = true → containsAll a c = true) ∧
    (∀ a b : List α, sameMembers a b = (containsAll a b && containsAll b a) ∧
      (unorderedEq a b = true → sameMembers a b = true) ∧
      (a.Nodup → b.Nodup → sameMembers a b = true → unorderedEq a b = true)) ∧
    (∀ (a : List α) (x : α), x ∉ without a x ∧ (without a x).Sublist a ∧
      ∀ y, y ≠ x → (without a x).count y = a.count y) ∧
    ∀ (a b : List α) (x : α),
      (unorderedEq a b = true → unorderedEq (without a x) (without b x) = true) ∧
      (sameMembers a b = true → sameMembers (without a x) (without b x) = true) ∧
      (containsAll a b = true → containsAll (without a x) (without b x) = true) := by
  refine ⟨fun a b => ?_, unorderedEq_equivalence, sameMembers_equivalence, containsAll_refl,
    fun a b c => containsAll_trans, fun a b => ?_, fun a x => ?_, fun a b x => ?_⟩
  · exact ⟨unorderedEq_iff_count, unorderedEq_iff, sameMembers_iff, containsAll_iff⟩
  · exact ⟨sameMembers_eq a b, sameMembers_of_unorderedEq, unorderedEq_of_sameMembers⟩
  · exact ⟨not_mem_without, without_sublist, fun y => count_without⟩
  · exact ⟨fun h => unorderedEq_without h x, fun h => sameMembers_without h x,
      fun h => containsAll_without h x⟩

/-- Interfaces of which one is listed twice: the same elements, but not equally often, until the
repeated one is taken out. -/
theorem comparisons_repeated :
    let a := ["eth1", "eth1", "eth2"]
    let b := ["eth2", "eth1"]
    sameMembers a b = true ∧ ¬unorderedEq a b = true ∧
      unorderedEq (without a "eth1") (without b "eth1") = true := by
  intro a b
  obtain ⟨hrelations, -, -, -, -, hrelated, -, hwithout⟩ := comparisons String
  have hsame : sameMembers a b = true := by
    rw [(hrelations a b).2.2.1]
    intro y
    simp [a, b, or_comm]
  refine ⟨hsame, fun hequal => ?_, ?_⟩
  · have hcount := (hrelations a b).1.mp hequal "eth1"
    exact absurd hcount (by decide)
  · -- Without the repeated name, having the same elements is enough.
    exact (hrelated _ _).2.2 (by decide) (by decide) ((hwithout a b "eth1").2.1 hsame)

end Convergence.Lists
