import Convergence.Ordered.Entries

/-!
# `Convergence.Ordered.Map`: maps and sets listed in the order of their keys

An `OrderedMap` has one list of entries for each content, so that equality of maps is equality
of contents (`OrderedMap.ext_get?`); an `OrderedSet` is the same for bare keys.
-/

set_option autoImplicit false

namespace Convergence

/-- Values under keys, listed in increasing key order. -/
structure OrderedMap (κ α : Type) [Ord κ] where
  toList : List (κ × α)
  sorted : Entries.Sorted toList

namespace OrderedMap

variable {κ α : Type} [Ord κ]

/-- The map with no entries. -/
def empty : OrderedMap κ α := ⟨[], Entries.sorted_nil⟩

instance : EmptyCollection (OrderedMap κ α) := ⟨empty⟩
instance : Inhabited (OrderedMap κ α) := ⟨empty⟩

instance [DecidableEq κ] [DecidableEq α] : DecidableEq (OrderedMap κ α) := fun a b =>
  decidable_of_iff (a.toList = b.toList) (by cases a; cases b; simp)

/-- No key has a value. -/
def isEmpty (m : OrderedMap κ α) : Bool := m.toList.isEmpty

/-- The value under the key. -/
def get? (m : OrderedMap κ α) (k : κ) : Option α := Entries.find? k m.toList

variable [Std.TransOrd κ] [Std.LawfulEqOrd κ]

/-- Puts the value under the key, in place of one that is there. -/
def insert (m : OrderedMap κ α) (k : κ) (v : α) : OrderedMap κ α :=
  ⟨Entries.insert k v m.toList, m.sorted.insert k v⟩

/-- Changes the value under the key, if there is one. -/
def modify (m : OrderedMap κ α) (k : κ) (f : α → α) : OrderedMap κ α :=
  match m.get? k with
  | none => m
  | some v => m.insert k (f v)

/-- Enters the pairs one after the other. -/
def ofList (es : List (κ × α)) : OrderedMap κ α := ⟨Entries.ofList es, Entries.sorted_ofList es⟩

theorem get?_insert (m : OrderedMap κ α) (k j : κ) (v : α) :
    (m.insert k v).get? j = if compare j k = .eq then some v else m.get? j :=
  Entries.find?_insert k j v m.toList

/-- Two maps with the same values under all keys are equal. -/
theorem ext_get? {m n : OrderedMap κ α} (h : ∀ k, m.get? k = n.get? k) : m = n := by
  cases m
  cases n
  congr 1
  exact Entries.Sorted.ext (by assumption) (by assumption) h

end OrderedMap

/-- Keys listed in increasing order, none twice. -/
structure OrderedSet (κ : Type) [Ord κ] where
  toList : List κ
  sorted : toList.Pairwise fun a b => compare a b = .lt

namespace OrderedSet

variable {κ : Type} [Ord κ]

/-- The set with no members. -/
def empty : OrderedSet κ := ⟨[], .nil⟩

instance : EmptyCollection (OrderedSet κ) := ⟨empty⟩
instance : Inhabited (OrderedSet κ) := ⟨empty⟩

instance [DecidableEq κ] : DecidableEq (OrderedSet κ) := fun a b =>
  decidable_of_iff (a.toList = b.toList) (by cases a; cases b; simp)

instance : Membership κ (OrderedSet κ) := ⟨fun s k => k ∈ s.toList⟩

/-- There are no members. -/
def isEmpty (s : OrderedSet κ) : Bool := s.toList.isEmpty

/-- The key is a member. -/
def contains (s : OrderedSet κ) (k : κ) : Bool := s.toList.any fun j => compare k j == .eq

/-- The list with the key at its place. -/
def insertKey (k : κ) : List κ → List κ
  | [] => [k]
  | j :: js =>
    match compare k j with
    | .lt => k :: j :: js
    | .eq => j :: js
    | .gt => j :: insertKey k js

theorem mem_insertKey [Std.LawfulEqOrd κ] {k j : κ} {js : List κ} :
    j ∈ insertKey k js ↔ j = k ∨ j ∈ js := by
  induction js with
  | nil => simp [insertKey]
  | cons i js ih =>
    simp only [insertKey]
    split
    · simp
    · rename_i hk
      obtain rfl := Std.LawfulEqOrd.eq_of_compare hk
      simp
    · simp only [List.mem_cons, ih]
      constructor
      · rintro (h | h | h) <;> simp [h]
      · rintro (h | h | h) <;> simp [h]

theorem sorted_insertKey [Std.TransOrd κ] [Std.LawfulEqOrd κ] (k : κ) {js : List κ}
    (h : js.Pairwise fun a b => compare a b = .lt) :
    (insertKey k js).Pairwise fun a b => compare a b = .lt := by
  induction js with
  | nil => exact List.pairwise_singleton _ _
  | cons j js ih =>
    obtain ⟨hj, ht⟩ := List.pairwise_cons.1 h
    simp only [insertKey]
    split
    · rename_i hk
      refine List.pairwise_cons.2 ⟨fun i hi => ?_, h⟩
      rcases List.mem_cons.1 hi with rfl | hi
      · exact hk
      · exact Std.TransCmp.lt_trans hk (hj i hi)
    · exact h
    · rename_i hk
      refine List.pairwise_cons.2 ⟨fun i hi => ?_, ih ht⟩
      rcases mem_insertKey.1 hi with rfl | hi
      · exact Std.OrientedCmp.lt_of_gt hk
      · exact hj i hi

variable [Std.TransOrd κ] [Std.LawfulEqOrd κ]

/-- Adds a member. -/
def insert (s : OrderedSet κ) (k : κ) : OrderedSet κ :=
  ⟨insertKey k s.toList, sorted_insertKey k s.sorted⟩

/-- The members of a list. -/
def ofList (ks : List κ) : OrderedSet κ := ks.foldl insert empty

theorem mem_insert {s : OrderedSet κ} {k j : κ} : j ∈ s.insert k ↔ j = k ∨ j ∈ s :=
  mem_insertKey

theorem mem_ofList {ks : List κ} {k : κ} : k ∈ ofList ks ↔ k ∈ ks := by
  suffices h : ∀ s : OrderedSet κ, k ∈ ks.foldl insert s ↔ k ∈ s ∨ k ∈ ks from
    (h empty).trans ⟨fun h => h.resolve_left (nomatch ·), .inr⟩
  induction ks with
  | nil => simp
  | cons j js ih =>
    intro s
    simp only [List.foldl_cons, ih, mem_insert, List.mem_cons]
    constructor
    · rintro ((h | h) | h) <;> simp [h]
    · rintro (h | h | h) <;> simp [h]

end OrderedSet

end Convergence
