import Convergence.Lists

/-!
# `Convergence.Proofs.Collections`: what maps, sets and list comparisons hold

The collections of an expectation are lists kept in key order.  The theorems here say what they
are seen from outside, so that later modules need not look at the order:

* `OrderedMap.get?_eq_some_iff`: a look-up answers exactly the entries of the map, which is what
  lets a statement about every name be proved along the list.
* `OrderedSet.contains_iff`: the test for a member is membership.
* `Lists.unorderedEq_iff`: two lists compare equal without order exactly if one is a permutation
  of the other, so that repeated elements count.
* `Lists.containsAll_iff`: the other comparison asks each element of the first list to be in the
  second.
* `Lists.unorderedEq_congr` and `Lists.containsAll_congr`: the first one does not see a permutation,
  the second one does not even see how often an element is listed.
-/

set_option autoImplicit false

namespace Convergence

/-! ### Entries and maps -/

/-- Whether a list is sorted is seen from its keys. -/
theorem Entries.Sorted.of_keys {κ α : Type} [Ord κ] {es : List (κ × α)}
    (h : (es.map Prod.fst).Pairwise fun a b => compare a b = .lt) : Sorted es :=
  List.pairwise_map.mp h

/-- In a sorted list the first entry with a key is the only one, so a look-up answers it exactly
if it is there. -/
theorem Entries.Sorted.find?_eq_some_iff {κ α : Type} [Ord κ] [Std.TransOrd κ]
    [Std.LawfulEqOrd κ] {es : List (κ × α)} (h : Sorted es) {k : κ} {v : α} :
    find? k es = some v ↔ (k, v) ∈ es := by
  induction es with
  | nil => simp [find?]
  | cons hd tl ih =>
      obtain ⟨j, w⟩ := hd
      obtain ⟨hj, ht⟩ := List.pairwise_cons.mp h
      rw [find?, List.mem_cons]
      split
      · rename_i hk
        obtain rfl := Std.LawfulEqOrd.eq_of_compare hk
        -- The key of the head occurs in no later entry.
        have hrest : (k, v) ∉ tl := fun hv => by
          have hlt : compare k k = .lt := hj (k, v) hv
          simp at hlt
        simp [hrest, eq_comm]
      · rename_i hk
        have hne : (k, v) ≠ (j, w) := by
          rintro heq
          cases heq
          exact hk Std.ReflCmp.compare_self
        simp [hne, ih ht]

/-- An answer is an entry. -/
theorem Entries.mem_of_find?_eq_some {κ α : Type} [Ord κ] [Std.LawfulEqOrd κ]
    {es : List (κ × α)} {k : κ} {v : α} (h : find? k es = some v) : (k, v) ∈ es := by
  induction es with
  | nil => cases h
  | cons e es ih =>
      rw [find?] at h
      split at h
      · rename_i heq
        cases h
        rw [Std.LawfulEqOrd.eq_of_compare heq]
        exact List.mem_cons_self
      · exact List.mem_cons_of_mem _ (ih h)

/-- Without an answer, no entry has the key. -/
theorem Entries.fst_ne_of_find?_eq_none {κ α : Type} [Ord κ] [Std.ReflOrd κ]
    {es : List (κ × α)} {k : κ} (h : find? k es = none) : ∀ e ∈ es, e.1 ≠ k := by
  induction es with
  | nil => exact fun _ he => nomatch he
  | cons e es ih =>
      rw [find?] at h
      split at h
      · cases h
      · rename_i hne
        refine List.forall_mem_cons.mpr ⟨?_, ih h⟩
        rintro rfl
        exact hne Std.ReflCmp.compare_self

/-- Entries that stand in order are entered as they stand. -/
theorem Entries.ofList_of_sorted {κ α : Type} [Ord κ] [Std.TransOrd κ] {es : List (κ × α)}
    (h : Sorted es) : ofList es = es := by
  -- A key that is greater than all before it is entered behind them.
  have hinsert : ∀ (k : κ) (v : α) (acc : List (κ × α)), (∀ e ∈ acc, compare e.1 k = .lt) →
      insert k v acc = acc ++ [(k, v)] := by
    intro k v acc hacc
    induction acc with
    | nil => rfl
    | cons e acc ih =>
        obtain ⟨hlt, hacc⟩ := List.forall_mem_cons.mp hacc
        rw [insert, Std.OrientedCmp.gt_of_lt hlt, ih hacc]
        rfl
  suffices hfold : ∀ acc, Sorted (acc ++ es) →
      es.foldl (fun acc e => insert e.1 e.2 acc) acc = acc ++ es from hfold [] h
  clear h
  induction es with
  | nil => exact fun acc _ => (List.append_nil acc).symm
  | cons e es ih =>
      intro acc hacc
      have hlt : ∀ e' ∈ acc, compare e'.1 e.1 = .lt := fun e' he' =>
        (List.pairwise_append.mp hacc).2.2 e' he' e List.mem_cons_self
      rw [List.foldl_cons, hinsert e.1 e.2 acc hlt, ih _ (by simpa using hacc), List.append_assoc]
      rfl

/-- Two names of one map are different. -/
theorem OrderedMap.nodup_names {χ : Type} (m : OrderedMap String χ) :
    (m.toList.map Prod.fst).Nodup := by
  refine List.pairwise_map.mpr (m.sorted.imp fun {x y} hlt heq => ?_)
  rw [heq] at hlt
  cases hlt.symm.trans Std.ReflCmp.compare_self

namespace OrderedMap

variable {κ α : Type} [Ord κ] [Std.TransOrd κ] [Std.LawfulEqOrd κ]

/-- A look-up answers exactly the entries of the map. -/
theorem get?_eq_some_iff {m : OrderedMap κ α} {k : κ} {v : α} :
    m.get? k = some v ↔ (k, v) ∈ m.toList :=
  m.sorted.find?_eq_some_iff

/-- What is put under a key is found under it. -/
theorem get?_insert_self {m : OrderedMap κ α} {k : κ} {v : α} :
    (m.insert k v).get? k = some v := by
  rw [get?_insert, if_pos Std.ReflCmp.compare_self]

/-- Under another key there is what there was. -/
theorem get?_insert_of_ne {m : OrderedMap κ α} {k j : κ} {v : α} (h : j ≠ k) :
    (m.insert k v).get? j = m.get? j := by
  rw [get?_insert, if_neg fun heq => h (Std.LawfulEqOrd.eq_of_compare heq)]

/-- What holds of every entry along the list holds of every answer to a look-up. -/
theorem forall_mem_iff {m : OrderedMap κ α} {motive : κ → α → Prop} :
    (∀ e ∈ m.toList, motive e.1 e.2) ↔ ∀ k v, m.get? k = some v → motive k v := by
  constructor
  · intro h k v hv
    exact h (k, v) (get?_eq_some_iff.mp hv)
  · rintro h ⟨k, v⟩ hv
    exact h k v (get?_eq_some_iff.mpr hv)

/-- Only the empty map has no entries. -/
theorem isEmpty_iff {κ α : Type} [Ord κ] {m : OrderedMap κ α} : m.isEmpty = true ↔ m = ∅ := by
  obtain ⟨entries, hsorted⟩ := m
  constructor
  · intro h
    obtain rfl : entries = [] := List.isEmpty_iff.mp h
    rfl
  · intro h
    rw [h]
    rfl

/-- A map is what comes of entering its entries. -/
theorem ofList_toList (m : OrderedMap κ α) : ofList m.toList = m := by
  obtain ⟨es, hes⟩ := m
  simp only [ofList, Entries.ofList_of_sorted hes]

/-- Whatever is asked of the entries of a map without any holds. -/
theorem forall_get?_of_isEmpty {m : OrderedMap κ α} {motive : κ → α → Prop}
    (h : m.isEmpty = true) : ∀ k v, m.get? k = some v → motive k v := by
  rw [← forall_mem_iff, List.isEmpty_iff.mp h]
  nofun

end OrderedMap

namespace OrderedSet

variable {κ : Type} [Ord κ]

/-- Only the empty set has no members. -/
theorem isEmpty_iff {s : OrderedSet κ} : s.isEmpty = true ↔ s = ∅ := by
  obtain ⟨keys, hsorted⟩ := s
  constructor
  · intro h
    obtain rfl : keys = [] := List.isEmpty_iff.mp h
    rfl
  · intro h
    rw [h]
    rfl

/-- Two members of one set are different. -/
theorem nodup_toList [Std.ReflCmp (α := κ) compare] (s : OrderedSet κ) : s.toList.Nodup := by
  refine s.sorted.imp fun {x y} hlt heq => ?_
  rw [heq] at hlt
  cases hlt.symm.trans Std.ReflCmp.compare_self

/-- Two sets with the same members are equal. -/
theorem ext_mem [Std.TransOrd κ] {s t : OrderedSet κ} (h : ∀ k, k ∈ s ↔ k ∈ t) : s = t := by
  have hperm : s.toList.Perm t.toList :=
    (List.perm_ext_iff_of_nodup s.nodup_toList t.nodup_toList).mpr h
  have hlists : s.toList = t.toList := by
    refine hperm.eq_of_pairwise (fun x y _ _ hxy hyx => ?_) s.sorted t.sorted
    cases (Std.OrientedCmp.gt_of_lt hxy).symm.trans hyx
  obtain ⟨ks, hks⟩ := s
  obtain ⟨js, hjs⟩ := t
  cases hlists
  rfl

variable [Std.LawfulEqOrd κ]

/-- The test for a member is membership. -/
theorem contains_iff {s : OrderedSet κ} {k : κ} : s.contains k = true ↔ k ∈ s := by
  unfold contains
  rw [List.any_eq_true]
  constructor
  · rintro ⟨j, hj, hk⟩
    obtain rfl := Std.LawfulEqOrd.eq_of_compare (beq_iff_eq.mp hk)
    exact hj
  · intro hk
    exact ⟨k, hk, beq_iff_eq.mpr Std.ReflCmp.compare_self⟩

/-- What is added is there. -/
theorem contains_insert_self [Std.TransOrd κ] {s : OrderedSet κ} {k : κ} :
    (s.insert k).contains k = true :=
  contains_iff.mpr (mem_insert.mpr (.inl rfl))

/-- Of others, those are there that were. -/
theorem contains_insert_of_ne [Std.TransOrd κ] {s : OrderedSet κ} {k j : κ} (h : j ≠ k) :
    (s.insert k).contains j = s.contains j := by
  rw [Bool.eq_iff_iff, contains_iff, contains_iff, mem_insert, or_iff_right h]

/-- A set is what comes of adding its members. -/
theorem ofList_toList [Std.TransOrd κ] (s : OrderedSet κ) : ofList s.toList = s :=
  ext_mem fun _ => mem_ofList

/-- What keeps the order may be applied before the members are put in order, or after. -/
theorem toList_ofList_map [Std.TransOrd κ] {ι : Type} [Ord ι] [Std.TransOrd ι]
    [Std.LawfulEqOrd ι] {g : κ → ι} (hg : ∀ a b, compare (g a) (g b) = compare a b)
    (ks : List κ) : (ofList (ks.map g)).toList = (ofList ks).toList.map g := by
  have hsorted : ((ofList ks).toList.map g).Pairwise fun a b => compare a b = .lt :=
    List.pairwise_map.mpr ((ofList ks).sorted.imp fun h => (hg _ _).trans h)
  have heq : ofList (ks.map g) = ⟨_, hsorted⟩ := by
    refine ext_mem fun k => ?_
    rw [mem_ofList, List.mem_map]
    show _ ↔ k ∈ (ofList ks).toList.map g
    rw [List.mem_map]
    exact exists_congr fun _ => and_congr_left' mem_ofList.symm
  rw [heq]

end OrderedSet

/-! ### Comparing lists without order -/

namespace Lists

variable {α : Type} [Ord α] [Std.TransOrd α]

/-- Sorting puts the elements in increasing order. -/
theorem pairwise_sort (a : List α) : (sort a).Pairwise fun x y => (compare x y).isLE := by
  refine List.pairwise_mergeSort (fun x y z hxy hyz => ?_) (fun x y => ?_) a
  · exact Std.TransCmp.isLE_trans hxy hyz
  · show (compare x y).isLE || (compare y x).isLE
    rw [Std.OrientedOrd.eq_swap (a := y) (b := x)]
    cases compare x y <;> rfl

variable [Std.LawfulEqOrd α]

/-- Two lists are equal but for their order exactly if they have the same elements, each as often
in one as in the other. -/
theorem unorderedEq_iff [DecidableEq α] {a b : List α} : unorderedEq a b = true ↔ a.Perm b := by
  rw [unorderedEq, decide_eq_true_iff]
  have hsort : ∀ c : List α, (sort c).Perm c := fun c => List.mergeSort_perm c _
  constructor
  · intro h
    exact (hsort a).symm.trans (h ▸ hsort b)
  · intro h
    -- Both sides are sorted permutations of one another, and the order is antisymmetric.
    refine List.Perm.eq_of_pairwise (fun x y _ _ hxy hyx => ?_) (pairwise_sort a)
      (pairwise_sort b) ((hsort a).trans (h.trans (hsort b).symm))
    exact Std.LawfulEqOrd.eq_of_compare (Std.OrientedCmp.isLE_antisymm hxy hyx)

/-- So the comparison does not see a permutation of either. -/
theorem unorderedEq_congr [DecidableEq α] {as bs xs ys : List α} (h : as.Perm bs)
    (h' : xs.Perm ys) : unorderedEq as xs = unorderedEq bs ys := by
  rw [Bool.eq_iff_iff, unorderedEq_iff, unorderedEq_iff]
  constructor
  · intro hperm
    exact h.symm.trans (hperm.trans h')
  · intro hperm
    exact h.trans (hperm.trans h'.symm)

/-- Every expected element occurs among the actual ones. -/
theorem containsAll_iff {expected actual : List α} :
    containsAll expected actual = true ↔ ∀ x ∈ expected, x ∈ actual := by
  rw [containsAll, List.all_eq_true]
  refine forall₂_congr fun x _ => ?_
  rw [OrderedSet.contains_iff, OrderedSet.mem_ofList]

/-- Nor does it matter where among the actual ones they are, and how often. -/
theorem containsAll_congr {xs ys : List α} (h : ∀ x, x ∈ xs ↔ x ∈ ys) (expected : List α) :
    containsAll expected xs = containsAll expected ys := by
  rw [Bool.eq_iff_iff, containsAll_iff, containsAll_iff]
  exact forall₂_congr fun x _ => h x

/-- Whether there is an element of some kind depends on the elements only. -/
theorem any_congr {β : Type} {xs ys : List β} (h : ∀ x, x ∈ xs ↔ x ∈ ys) (p : β → Bool) :
    xs.any p = ys.any p := by
  rw [Bool.eq_iff_iff, List.any_eq_true, List.any_eq_true]
  exact exists_congr fun x => and_congr_left' (h x)

end Lists

end Convergence
