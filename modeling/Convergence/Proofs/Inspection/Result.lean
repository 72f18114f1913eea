import Convergence.Inspection

/-!
# `Convergence.Proofs.Inspection.Result`: what an inspection comes to

An inspection of one source has an answer or fails.  The rules here take the result of an
inspection apart along its steps: one inspection after another has an answer exactly if both have
one (`result_bind_eq_ok_iff`), reports change no result, and a record is answered as the source
holds it (`result_record_eq_some_iff`, `result_record_eq_none_iff`).

`Source.record?` and `Source.Reports` say what a source holds without reference to an inspection.
-/

set_option autoImplicit false

namespace Convergence

namespace Source

variable {α : Type}

/-- The record at a path, if there is a value that decodes. -/
def record? (source : Source) (p : Path) (d : Decoder α) : Option α :=
  match source p with
  | .ok (some v) => (d .json v).toOption
  | _ => none

/-- The source reports this record at the path; where nothing stands at the path, that is the
record `default`. -/
def Reports (source : Source) (p : Path) (d : Decoder α) (default x : α) : Prop :=
  source p = .ok none ∧ x = default ∨ source.record? p d = some x

end Source

namespace Inspection

variable {α β : Type} {source : Source}

/-- An answer is its own result. -/
theorem result_pure_eq_ok_iff {a b : α} :
    ((pure a : Inspection α).run source).result = .ok b ↔ a = b := by
  show Except.ok a = .ok b ↔ a = b
  rw [Except.ok.injEq]

/-- One inspection after another has an answer exactly if the first one does and the second one
does on it. -/
theorem result_bind_eq_ok_iff {x : Inspection α} {k : α → Inspection β} {b : β} :
    ((x >>= k).run source).result = .ok b ↔
      ∃ a, (x.run source).result = .ok a ∧ ((k a).run source).result = .ok b := by
  rw [run_bind]
  cases hx : (x.run source).result with
  | ok a =>
      constructor
      · intro h
        exact ⟨a, rfl, h⟩
      · rintro ⟨a', ha, h⟩
        cases ha
        exact h
  | error err =>
      constructor
      · intro h
        cases h
      · rintro ⟨a, ha, -⟩
        cases ha

/-- Behind an inspection that has an answer, the result is that of what follows. -/
theorem result_bind_of_eq_ok {x : Inspection α} {k : α → Inspection β} {a : α}
    (h : (x.run source).result = .ok a) :
    ((x >>= k).run source).result = ((k a).run source).result := by
  rw [run_bind, h]

/-- An answer that is only made over changes the result, and reports nothing more. -/
theorem run_bind_pure {x : Inspection α} {f : α → β} :
    (x >>= fun a => pure (f a)).run source =
      ⟨(x.run source).result.map f, (x.run source).events⟩ := by
  rw [run_bind]
  cases (x.run source).result with
  | ok a => exact congrArg (Report.mk _) (List.append_nil _)
  | error err => rfl

/-- A report changes no result. -/
theorem result_report_bind {e : Event} {k : Unit → Inspection β} :
    ((report e >>= k).run source).result = ((k ()).run source).result :=
  result_bind_of_eq_ok rfl

/-- A record is answered if the source holds it. -/
theorem result_record_eq_some_iff {p : Path} {d : Decoder α} {x : α} :
    ((record p d).run source).result = .ok (some x) ↔ source.record? p d = some x := by
  rw [record, run, Source.record?]
  cases hsource : source p with
  | error err => simp
  | ok found =>
      cases found with
      | none => simp [run]
      | some v => cases hv : d .json v <;> simp [hv, run, Except.toOption]

/-- No record is answered if the source holds nothing at the path. -/
theorem result_record_eq_none_iff {p : Path} {d : Decoder α} :
    ((record p d).run source).result = .ok none ↔ source p = .ok none := by
  rw [record, run]
  cases hsource : source p with
  | error err => simp
  | ok found =>
      cases found with
      | none => simp [run]
      | some v => cases hv : d .json v <;> simp [hv, run]

/-- A record that is there is answered without a report. -/
theorem run_record_of_some {p : Path} {d : Decoder α} {x : α} (h : source.record? p d = some x) :
    (record p d).run source = ⟨.ok (some x), []⟩ := by
  rw [Source.record?] at h
  rw [record, run]
  cases hsource : source p with
  | error err => simp [hsource] at h
  | ok found =>
      cases found with
      | none => simp [hsource] at h
      | some v => cases hv : d .json v <;> simp_all [run, Except.toOption]

/-- So is that there is none. -/
theorem run_record_of_none {p : Path} {d : Decoder α} (h : source p = .ok none) :
    (record p d).run source = ⟨.ok none, []⟩ := by
  rw [record, run, h]
  rfl

/-- With a record to fall back on, what is answered is made of the record that the source
reports. -/
theorem result_record_getD_eq_ok_iff {p : Path} {d : Decoder α} {default : α} {f : α → β}
    {y : β} :
    ((record p d >>= fun found => pure (f (found.getD default))).run source).result = .ok y ↔
      ∃ x, source.Reports p d default x ∧ f x = y := by
  rw [result_bind_eq_ok_iff]
  constructor
  · rintro ⟨found, hfound, hy⟩
    rw [result_pure_eq_ok_iff] at hy
    cases found with
    | none => exact ⟨default, .inl ⟨result_record_eq_none_iff.mp hfound, rfl⟩, hy⟩
    | some x => exact ⟨x, .inr (result_record_eq_some_iff.mp hfound), hy⟩
  · rintro ⟨x, ⟨hnone, rfl⟩ | hsome, hy⟩
    · exact ⟨none, result_record_eq_none_iff.mpr hnone, result_pure_eq_ok_iff.mpr hy⟩
    · exact ⟨some x, result_record_eq_some_iff.mpr hsome, result_pure_eq_ok_iff.mpr hy⟩

end Inspection

end Convergence
