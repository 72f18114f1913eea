import Convergence.Proofs.Check.Weakening

/-!
# `Convergence.Proofs.Check.Paths`: the paths that an expectation reads

`Check.paths` lists the paths of the reads of a check, and `Expectation.paths` those of all checks
in the order in which they are run.  A check asks for no path twice (`Check.nodup_paths`), but two
checks may ask for the same one: the members of a bundle and the state of its members are one
record.  A weaker expectation asks for no path that the stronger one does not ask for
(`Check.paths_subset`), and a check without paths has the same outcome on every source.
-/

set_option autoImplicit false

namespace Convergence

namespace Check

variable {e e' : Expectation}

/-- The paths that a check asks for as long as no read fails, in order. -/
def paths (e : Expectation) (c : Check) : List Path := (c.readings e).map (·.path)

/-- The names of a section lead to different paths. -/
theorem nodup_map_names {χ : Type} (m : OrderedMap String χ) {path : String → Path}
    (hpath : Function.Injective path) : (m.toList.map fun x => path x.1).Nodup := by
  have hnames := m.nodup_names.map hpath
  rwa [List.map_map] at hnames

theorem generator_injective (kind : String) : Function.Injective (Path.generator kind) := by
  intro name name' h
  simpa [Path.generator] using h

theorem device_injective (kind : String) : Function.Injective (Path.device kind) := by
  intro name name' h
  simpa [Path.device] using h

/-- No check asks for a path twice. -/
theorem nodup_paths (e : Expectation) (c : Check) : (c.paths e).Nodup := by
  rw [paths]
  cases c with
  | ports | flows | bgp4 | bgp6 | bgpPrefixes | isis | lags | lacp =>
      rw [readings, List.map_map]
      exact nodup_map_names _ (generator_injective _)
  | interfaces | bundles | bundleMembers =>
      rw [readings, List.map_map]
      exact nodup_map_names _ (device_injective _)
  | traffic =>
      rw [readings]
      cases e.traffic with
      | none => exact .nil
      | some x =>
          rw [List.map_map]
          exact x.flows.nodup_toList.map (generator_injective "flow")
  | neighbors =>
      rw [readings]
      cases e.ipv4Neighbors.isEmpty <;> cases e.ipv6Neighbors.isEmpty <;> decide

/-- A weaker section has no other names, so it has no other reads. -/
theorem section_subset {χ : Type} {weaker : χ → χ → Prop} {m n : OrderedMap String χ}
    (h : m.WeakerBy weaker n) {reading : String × χ → Reading}
    (hname : ∀ name x y, reading (name, x) = reading (name, y)) :
    m.toList.map reading ⊆ n.toList.map reading := by
  intro r hr
  obtain ⟨⟨name, x⟩, hx, rfl⟩ := List.mem_map.mp hr
  obtain ⟨y, hy, -⟩ := h name x (OrderedMap.get?_eq_some_iff.mpr hx)
  rw [hname name x y]
  exact List.mem_map_of_mem (OrderedMap.get?_eq_some_iff.mp hy)

/-- Nor has a neighbor cache to be looked at for fewer addresses if not for more. -/
theorem ite_neighbors_subset {as bs : OrderedSet Mac} (h : ∀ a ∈ as, a ∈ bs) (cache : String) :
    (if as.isEmpty then [] else [neighborsReading cache]) ⊆
      if bs.isEmpty then [] else [neighborsReading cache] := by
  cases hbs : bs.isEmpty with
  | false =>
      cases as.isEmpty
      · exact List.Subset.refl _
      · exact List.nil_subset _
  | true =>
      have has : as.isEmpty = true := by
        refine List.isEmpty_iff.mpr (List.eq_nil_iff_forall_not_mem.mpr fun a ha => ?_)
        have hmem : a ∈ bs.toList := h a ha
        rw [List.isEmpty_iff.mp hbs] at hmem
        cases hmem
      rw [has]
      exact List.Subset.refl _

/-- A weaker expectation asks for no other paths. -/
theorem paths_subset (h : e.Weaker e') (c : Check) : c.paths e ⊆ c.paths e' := by
  refine List.map_subset _ ?_
  cases c with
  | ports => exact section_subset h.ports fun _ _ _ => rfl
  | flows => exact section_subset h.flows fun _ _ _ => rfl
  | traffic =>
      rcases h.traffic with hnone | hsame
      · simp [readings, hnone]
      · rw [readings, readings, hsame]
        exact List.Subset.refl _
  | bgp4 => exact section_subset h.bgp4 fun _ _ _ => rfl
  | bgp6 => exact section_subset h.bgp6 fun _ _ _ => rfl
  | bgpPrefixes => exact section_subset h.bgpPrefixes fun _ _ _ => rfl
  | isis => exact section_subset h.isis fun _ _ _ => rfl
  | lags => exact section_subset h.lags fun _ _ _ => rfl
  | lacp => exact section_subset h.lacp fun _ _ _ => rfl
  | interfaces => exact section_subset h.interfaces fun _ _ _ => rfl
  | bundles => exact section_subset h.bundles fun _ _ _ => rfl
  | bundleMembers => exact section_subset h.bundleMembers fun _ _ _ => rfl
  | neighbors =>
      have hipv4 := ite_neighbors_subset h.ipv4Neighbors "ipv4"
      have hipv6 := ite_neighbors_subset h.ipv6Neighbors "ipv6"
      exact List.append_subset.mpr ⟨List.subset_append_of_subset_left _ hipv4,
        List.subset_append_of_subset_right _ hipv6⟩

/-- A check asks for its paths only. -/
theorem asksWithin_paths (e : Expectation) (c : Check) :
    (c.inspect e).AsksWithin (· ∈ c.paths e) :=
  (reads_inspect e c).asksWithin fun _ hr => List.mem_map_of_mem hr

/-- How many reads the checks of a list make before it is the turn of `c`. -/
def readsBefore (e : Expectation) (c : Check) : List Check → Nat
  | [] => 0
  | d :: ds => if d = c then 0 else (d.paths e).length + readsBefore e c ds

/-- The reads of a check are among those of all checks of the list. -/
theorem readsBefore_add_length_le {cs : List Check} {c : Check} (hc : c ∈ cs) :
    readsBefore e c cs + (c.paths e).length ≤ (cs.flatMap (paths e)).length := by
  induction cs with
  | nil => cases hc
  | cons d ds ih =>
      rw [readsBefore, List.flatMap_cons, List.length_append]
      split
      · rename_i heq
        rw [heq]
        omega
      · rename_i hne
        have hle := ih ((List.mem_cons.mp hc).resolve_left fun heq => hne heq.symm)
        omega

/-- One path that several checks ask for together is the path of one of them. -/
theorem exists_paths_eq_singleton {cs : List Check}
    (h : (cs.flatMap (paths e)).length = 1) :
    ∃ c ∈ cs, ∃ p, c.paths e = [p] ∧ ∀ d ∈ cs, d ≠ c → d.paths e = [] := by
  induction cs with
  | nil => cases h
  | cons c cs ih =>
      rw [List.flatMap_cons, List.length_append] at h
      cases hpaths : c.paths e with
      | nil =>
          rw [hpaths, List.length_nil, Nat.zero_add] at h
          obtain ⟨c', hc', p, hp, hothers⟩ := ih h
          refine ⟨c', List.mem_cons_of_mem _ hc', p, hp, fun d hd hne => ?_⟩
          rcases List.mem_cons.mp hd with rfl | hd
          · exact hpaths
          · exact hothers d hd hne
      | cons p ps =>
          rw [hpaths, List.length_cons] at h
          have hps : ps = [] := List.length_eq_zero_iff.mp (by omega)
          have hcs : cs.flatMap (paths e) = [] := List.length_eq_zero_iff.mp (by omega)
          refine ⟨c, List.mem_cons_self, p, by rw [hpaths, hps], fun d hd hne => ?_⟩
          exact List.flatMap_eq_nil_iff.mp hcs d ((List.mem_cons.mp hd).resolve_left hne)

end Check

namespace Expectation

/-- The paths that all checks ask for one after the other, as long as each of them holds. -/
def paths (e : Expectation) : List Path := Check.all.flatMap (Check.paths e)

end Expectation

end Convergence
