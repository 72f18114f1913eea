/-!
# `Convergence.Proofs.Except`: results one after the other

When a computation with several parts has a result, and when it fails: each part must have a result
for the whole to have one, and the first part that fails is the one whose error is reported.
-/

set_option autoImplicit false

namespace Convergence

variable {ε ε' α β : Type} {r : Except ε α}

/-- What is made of a result has an answer exactly if there is one to make it of. -/
theorem bind_eq_ok_iff {k : α → Except ε β} {b : β} :
    r >>= k = .ok b ↔ ∃ a, r = .ok a ∧ k a = .ok b := by
  cases r with
  | ok a => exact ⟨fun h => ⟨a, rfl, h⟩, fun ⟨_, ha, h⟩ => Except.ok.inj ha ▸ h⟩
  | error e => exact ⟨nofun, fun ⟨_, ha, _⟩ => nomatch ha⟩

/-- It fails if there is none, or in what is made of it. -/
theorem bind_eq_error_iff {k : α → Except ε β} {e : ε} :
    r >>= k = .error e ↔ r = .error e ∨ ∃ a, r = .ok a ∧ k a = .error e := by
  cases r with
  | ok a =>
      show k a = .error e ↔ _
      simp
  | error e' =>
      show Except.error e' = .error e ↔ _
      simp

/-- What does not fail has a result. -/
theorem exists_eq_ok_iff : (∃ a, r = .ok a) ↔ ¬∃ e, r = .error e := by
  cases r <;> simp

/-- What is made of every result is made of one. -/
theorem map_eq_ok_iff {g : α → β} {b : β} : r.map g = .ok b ↔ ∃ a, r = .ok a ∧ g a = b := by
  cases r <;> simp [Except.map]

/-- What is said of a failure does not touch a result. -/
theorem mapError_eq_ok_iff {f : ε → ε'} {a : α} : r.mapError f = .ok a ↔ r = .ok a := by
  cases r with
  | ok a' =>
      show Except.ok a' = .ok a ↔ _
      simp
  | error e =>
      show Except.error (f e) = .ok a ↔ _
      simp

/-- A failure is reported as what is said of it. -/
theorem mapError_eq_error_iff {f : ε → ε'} {e' : ε'} :
    r.mapError f = .error e' ↔ ∃ e, r = .error e ∧ f e = e' := by
  cases r with
  | ok a =>
      show Except.ok a = .error e' ↔ _
      simp
  | error e =>
      show Except.error (f e) = .error e' ↔ _
      simp

end Convergence
