import Convergence.Proofs.Inspection.Result

/-!
# `Convergence.Proofs.Inspection.Alike`: two runs that come to the same, or nearly

One inspection asked of two sources, or two inspections, have results that can be compared step by
step.  `Alike strict R r s` says that `r` and `s` are both answers, and these are related by `R`, or
both failures, and these are the same if `strict` is true.  So one relation serves for what may
change the wording of an error and for what may not.

`Inspection.alike_bind` carries the relation from the parts of an inspection to the whole.
`SameAnswer` spells out what it means of two results where only the answer counts.
-/

set_option autoImplicit false

namespace Convergence

variable {ε α β γ : Type} {strict : Prop}

/-- Both have an answer, and the answers are related; or both have failed, in the same way if that
is asked for. -/
inductive Alike (strict : Prop) (R : α → β → Prop) : Except ε α → Except ε β → Prop
  | ok {a : α} {b : β} (h : R a b) : Alike strict R (.ok a) (.ok b)
  | error {e f : ε} (h : strict → e = f) : Alike strict R (.error e) (.error f)

/-- Both have the same answer, or both have failed, for whatever reasons. -/
structure SameAnswer (r s : Except ε α) : Prop where
  answer : ∀ a, r = .ok a ↔ s = .ok a
  failure : (∃ e, r = .error e) ↔ ∃ f, s = .error f

namespace SameAnswer

variable {r s t : Except ε α}

theorem refl (r : Except ε α) : SameAnswer r r := ⟨fun _ => Iff.rfl, Iff.rfl⟩

theorem trans (h : SameAnswer r s) (h' : SameAnswer s t) : SameAnswer r t :=
  ⟨fun a => (h.answer a).trans (h'.answer a), h.failure.trans h'.failure⟩

end SameAnswer

namespace Alike

variable {R S : α → α → Prop} {r s : Except ε α}

/-- A result is like itself. -/
theorem refl (hrefl : ∀ a, R a a) (r : Except ε α) : Alike strict R r r := by
  cases r with
  | ok a => exact .ok (hrefl a)
  | error e => exact .error fun _ => rfl

/-- Results that have answers for each other's answers are alike but for the errors. -/
theorem of_forall_ok (h : ∀ a, r = .ok a → ∃ b, s = .ok b ∧ R a b)
    (h' : ∀ b, s = .ok b → ∃ a, r = .ok a) : Alike False R r s := by
  cases r with
  | ok a =>
      obtain ⟨b, rfl, hab⟩ := h a rfl
      exact .ok hab
  | error e =>
      cases s with
      | error f => exact .error False.elim
      | ok b =>
          obtain ⟨a, ha⟩ := h' b rfl
          cases ha

/-- What goes on alike from related answers comes to alike results. -/
theorem bind {T : β → γ → Prop} {k : α → Except ε β} {l : α → Except ε γ} (h : Alike strict R r s)
    (hkl : ∀ a b, R a b → Alike strict T (k a) (l b)) : Alike strict T (r >>= k) (s >>= l) := by
  cases h with
  | ok hab => exact hkl _ _ hab
  | error hef => exact .error hef

/-- What is made of related answers is related. -/
theorem map {T : β → γ → Prop} {k : α → β} {l : α → γ} (h : Alike strict R r s)
    (hkl : ∀ a b, R a b → T (k a) (l b)) : Alike strict T (r.map k) (s.map l) := by
  cases h with
  | ok hab => exact .ok (hkl _ _ hab)
  | error hef => exact .error hef

/-- Where equal answers are asked for, the answers are the same. -/
theorem sameAnswer (h : Alike strict (· = ·) r s) : SameAnswer r s := by
  cases h with
  | ok hab =>
      subst hab
      exact .refl _
  | error _ => exact ⟨fun _ => ⟨nofun, nofun⟩, ⟨fun _ => ⟨_, rfl⟩, fun _ => ⟨_, rfl⟩⟩⟩

/-- Where equal errors are asked for, too, the results are equal. -/
theorem eq (h : Alike True (· = ·) r s) : r = s := by
  cases h with
  | ok hab => rw [hab]
  | error hef => rw [hef trivial]

end Alike

namespace Inspection

variable {s t : Source} {R : α → α → Prop}

/-- The result of one inspection after another. -/
theorem result_bind (source : Source) (x : Inspection α) (k : α → Inspection β) :
    ((x >>= k).run source).result =
      (x.run source).result >>= fun a => ((k a).run source).result := by
  rw [run_bind]
  cases (x.run source).result <;> rfl

/-- Inspections that start alike and go on alike come to alike results. -/
theorem alike_bind {T : β → γ → Prop} {x y : Inspection α} {k : α → Inspection β}
    {l : α → Inspection γ} (h : Alike strict R (x.run s).result (y.run t).result)
    (hkl : ∀ a b, R a b → Alike strict T ((k a).run s).result ((l b).run t).result) :
    Alike strict T ((x >>= k).run s).result ((y >>= l).run t).result := by
  rw [result_bind, result_bind]
  exact h.bind hkl

/-- A record that decodes alike from both sources gives alike answers, whatever is made of it. -/
theorem alike_record_getD {T : β → β → Prop} {p : Path} {d : Decoder α} {default : α} {f : α → β}
    {v w : Value} (hs : s p = .ok (some v)) (ht : t p = .ok (some w))
    (h : Alike strict R (d .json v) (d .json w)) (hf : ∀ a b, R a b → T (f a) (f b)) :
    Alike strict T ((record p d >>= fun found => pure (f (found.getD default))).run s).result
      ((record p d >>= fun found => pure (f (found.getD default))).run t).result := by
  have hrecord : Alike strict (fun a b => T (f (a.getD default)) (f (b.getD default)))
      ((record p d).run s).result ((record p d).run t).result := by
    rw [record, run, run, hs, ht]
    simp only
    generalize d .json v = r at h ⊢
    generalize d .json w = r' at h ⊢
    cases h with
    | ok hab => exact .ok (hf _ _ hab)
    | error hef => exact .error fun hstrict => congrArg (ReadError.undecodable p) (hef hstrict)
  exact alike_bind hrecord fun _ _ hab => .ok hab

end Inspection

end Convergence
