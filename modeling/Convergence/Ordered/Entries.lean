/-!
# `Convergence.Ordered.Entries`: entries in the order of their keys

Lists of key and value pairs in strictly increasing key order, the members of an object and the
content of an ordered map.  `insert` and `erase` keep the order (`Sorted.insert`,
`Sorted.erase`), `find?` sees each of them (`find?_insert`, `find?_erase`), and a sorted list is
fixed by what `find?` answers (`Sorted.ext`).
-/

set_option autoImplicit false

namespace Convergence.Entries

variable {κ α β : Type} [Ord κ]

/-- Keys increase strictly along the list. -/
def Sorted (es : List (κ × α)) : Prop :=
  es.Pairwise fun a b => compare a.1 b.1 = .lt

instance (es : List (κ × α)) : Decidable (Sorted es) :=
  inferInstanceAs (Decidable (es.Pairwise _))

/-- The value of the first entry with the key. -/
def find? (k : κ) : List (κ × α) → Option α
  | [] => none
  | (j, w) :: es => if compare k j = .eq then some w else find? k es

/-- Puts an entry at its place, over an entry with the same key. -/
def insert (k : κ) (v : α) : List (κ × α) → List (κ × α)
  | [] => [(k, v)]
  | (j, w) :: es =>
    match compare k j with
    | .lt => (k, v) :: (j, w) :: es
    | .eq => (k, v) :: es
    | .gt => (j, w) :: insert k v es

/-- Takes out the first entry with the key. -/
def erase (k : κ) : List (κ × α) → List (κ × α)
  | [] => []
  | (j, w) :: es => if compare k j = .eq then es else (j, w) :: erase k es

/-- Enters a list of pairs one after the other; of two with the same key the later one stays. -/
def ofList (es : List (κ × α)) : List (κ × α) :=
  es.foldl (fun acc e => insert e.1 e.2 acc) []

/-! ### Order -/

theorem sorted_nil : Sorted ([] : List (κ × α)) := .nil

theorem mem_insert {k : κ} {v : α} {es : List (κ × α)} {e : κ × α} (h : e ∈ insert k v es) :
    e = (k, v) ∨ e ∈ es := by
  induction es with
  | nil => simpa [insert] using h
  | cons hd tl ih =>
    obtain ⟨j, w⟩ := hd
    simp only [insert] at h
    split at h
    · simpa using h
    · rcases List.mem_cons.1 h with h | h
      · exact .inl h
      · exact .inr (List.mem_cons_of_mem _ h)
    · rcases List.mem_cons.1 h with h | h
      · exact .inr (h ▸ List.mem_cons_self)
      · exact (ih h).imp_right (List.mem_cons_of_mem _)

theorem Sorted.insert [Std.TransOrd κ] [Std.LawfulEqOrd κ] {es : List (κ × α)} (h : Sorted es)
    (k : κ) (v : α) : Sorted (Entries.insert k v es) := by
  induction es with
  | nil => exact List.pairwise_singleton _ _
  | cons hd tl ih =>
    obtain ⟨j, w⟩ := hd
    obtain ⟨hj, ht⟩ := List.pairwise_cons.1 h
    simp only [Entries.insert]
    split
    · rename_i hk
      refine List.pairwise_cons.2 ⟨fun e he => ?_, h⟩
      rcases List.mem_cons.1 he with rfl | he
      · exact hk
      · exact Std.TransCmp.lt_trans hk (hj e he)
    · rename_i hk
      obtain rfl := Std.LawfulEqOrd.eq_of_compare hk
      exact List.pairwise_cons.2 ⟨hj, ht⟩
    · rename_i hk
      refine List.pairwise_cons.2 ⟨fun e he => ?_, ih ht⟩
      rcases mem_insert he with rfl | he
      · exact Std.OrientedCmp.lt_of_gt hk
      · exact hj e he

theorem erase_sublist (k : κ) (es : List (κ × α)) : (erase k es).Sublist es := by
  induction es with
  | nil => exact .slnil
  | cons hd tl ih =>
    obtain ⟨j, w⟩ := hd
    simp only [erase]
    split
    · exact List.sublist_cons_self _ _
    · exact ih.cons_cons _

theorem Sorted.erase {es : List (κ × α)} (h : Sorted es) (k : κ) : Sorted (Entries.erase k es) :=
  List.Pairwise.sublist (erase_sublist k es) h

theorem sorted_ofList [Std.TransOrd κ] [Std.LawfulEqOrd κ] (es : List (κ × α)) :
    Sorted (ofList es) := by
  suffices h : ∀ acc : List (κ × α), Sorted acc →
      Sorted (es.foldl (fun acc e => Entries.insert e.1 e.2 acc) acc) from h [] sorted_nil
  induction es with
  | nil => exact fun acc h => h
  | cons e es ih => exact fun acc h => ih _ (h.insert e.1 e.2)

/-! ### What a look-up sees -/

theorem find?_insert [Std.TransOrd κ] [Std.LawfulEqOrd κ] (k j : κ) (v : α) (es : List (κ × α)) :
    find? j (insert k v es) = if compare j k = .eq then some v else find? j es := by
  induction es with
  | nil => simp [insert, find?]
  | cons hd tl ih =>
    obtain ⟨i, w⟩ := hd
    simp only [insert]
    split
    · simp [find?]
    · rename_i hk
      obtain rfl := Std.LawfulEqOrd.eq_of_compare hk
      by_cases hj : compare j k = .eq <;> simp [find?, hj]
    · rename_i hk
      simp only [find?, ih]
      by_cases hj : compare j i = .eq
      · obtain rfl := Std.LawfulEqOrd.eq_of_compare hj
        have : compare j k ≠ .eq := by
          intro h
          obtain rfl := Std.LawfulEqOrd.eq_of_compare h
          simp at hk
        simp [this]
      · simp [hj]

theorem find?_eq_none_of_lt [Std.TransOrd κ] [Std.LawfulEqOrd κ] {k : κ} {es : List (κ × α)}
    (h : ∀ e ∈ es, compare k e.1 = .lt) : find? k es = none := by
  induction es with
  | nil => rfl
  | cons hd tl ih =>
    have h1 := h hd List.mem_cons_self
    have h2 := ih fun e he => h e (List.mem_cons_of_mem _ he)
    simp [find?, h1, h2]

theorem find?_erase [Std.TransOrd κ] [Std.LawfulEqOrd κ] {es : List (κ × α)} (h : Sorted es)
    (k j : κ) : find? j (erase k es) = if compare j k = .eq then none else find? j es := by
  induction es with
  | nil => simp [erase, find?]
  | cons hd tl ih =>
    obtain ⟨i, w⟩ := hd
    obtain ⟨hi, ht⟩ := List.pairwise_cons.1 h
    simp only [erase]
    split
    · rename_i hk
      obtain rfl := Std.LawfulEqOrd.eq_of_compare hk
      by_cases hj : compare j k = .eq
      · obtain rfl := Std.LawfulEqOrd.eq_of_compare hj
        simp [find?_eq_none_of_lt hi]
      · simp [find?, hj]
    · rename_i hk
      simp only [find?, ih ht]
      by_cases hj : compare j i = .eq
      · obtain rfl := Std.LawfulEqOrd.eq_of_compare hj
        have : compare j k ≠ .eq := fun h => hk (by
          obtain rfl := Std.LawfulEqOrd.eq_of_compare h
          exact hj)
        simp [this]
      · simp [hj]

/-- Two sorted lists with the same look-ups are the same list. -/
theorem Sorted.ext [Std.TransOrd κ] [Std.LawfulEqOrd κ] {es fs : List (κ × α)} (he : Sorted es)
    (hf : Sorted fs) (h : ∀ k, find? k es = find? k fs) : es = fs := by
  induction es generalizing fs with
  | nil =>
    cases fs with
    | nil => rfl
    | cons f fs => simpa [find?] using h f.1
  | cons e es ih =>
    cases fs with
    | nil => simpa [find?] using h e.1
    | cons f fs =>
      obtain ⟨he1, he2⟩ := List.pairwise_cons.1 he
      obtain ⟨hf1, hf2⟩ := List.pairwise_cons.1 hf
      have key : compare e.1 f.1 = .eq := by
        cases hc : compare e.1 f.1 with
        | eq => rfl
        | lt =>
          have hn : find? e.1 (f :: fs) = none := find?_eq_none_of_lt fun g hg => by
            rcases List.mem_cons.1 hg with rfl | hg
            · exact hc
            · exact Std.TransCmp.lt_trans hc (hf1 g hg)
          have := h e.1
          rw [hn] at this
          simp [find?] at this
        | gt =>
          have hc := Std.OrientedCmp.lt_of_gt hc
          have hn : find? f.1 (e :: es) = none := find?_eq_none_of_lt fun g hg => by
            rcases List.mem_cons.1 hg with rfl | hg
            · exact hc
            · exact Std.TransCmp.lt_trans hc (he1 g hg)
          have := h f.1
          rw [hn] at this
          simp [find?] at this
      obtain ⟨k, v⟩ := e
      obtain ⟨j, w⟩ := f
      obtain rfl : k = j := Std.LawfulEqOrd.eq_of_compare key
      have hv : v = w := by simpa [find?] using h k
      subst hv
      congr 1
      refine ih he2 hf2 fun i => ?_
      by_cases hi : compare i k = .eq
      · obtain rfl := Std.LawfulEqOrd.eq_of_compare hi
        rw [find?_eq_none_of_lt he1, find?_eq_none_of_lt hf1]
      · simpa [find?, hi] using h i

end Convergence.Entries
