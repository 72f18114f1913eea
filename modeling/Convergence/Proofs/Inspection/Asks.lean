import Convergence.Proofs.Inspection.Reads

/-!
# `Convergence.Proofs.Inspection.Asks`: which paths an inspection asks for

An inspection learns about telemetry only by asking for paths.  `AsksWithin P x` says that `x` can
ask for no path outside `P`, whatever it is answered on the way; `asked source x` lists the paths
that it does ask for when one source answers, the last one included if that cannot be answered.

Main statements:

* `AsksWithin.run_eq`: two sources that give the same answers within `P` lead to the same report,
  result and events.
* `AsksWithin.runM_eq`: so do two monads, whose answers may change from one question to the next.
* `Reads.asksWithin`: an inspection with a fixed list of reads asks for their paths only.
* `asked_bind`: what one inspection after another asks for.
-/

set_option autoImplicit false

namespace Convergence.Inspection

variable {α β : Type} {P : Path → Prop}

/-- The inspection asks for no path outside `P`, whatever it is answered. -/
def AsksWithin (P : Path → Prop) : Inspection α → Prop
  | answer _ => True
  | abort _ => True
  | note _ rest => rest.AsksWithin P
  | look p rest => P p ∧ ∀ found, (rest found).AsksWithin P

/-- The paths that the inspection asks one source for, in order. -/
def asked (source : Source) : Inspection α → List Path
  | answer _ => []
  | abort _ => []
  | note _ rest => rest.asked source
  | look p rest =>
    p :: match source p with
      | .ok found => (rest found).asked source
      | .error _ => []

/-- The second inspection asks for its paths if the first one has an answer. -/
theorem asked_bind (source : Source) (x : Inspection α) (k : α → Inspection β) :
    (x >>= k).asked source = x.asked source ++
      match (x.run source).result with
      | .ok a => (k a).asked source
      | .error _ => [] := by
  rw [bind_eq]
  induction x with
  | answer a => rfl
  | abort e => rfl
  | note e rest ih => exact ih
  | look p rest ih =>
      simp only [Inspection.bind, asked, run]
      cases source p with
      | ok found =>
          simp only [ih found]
          rfl
      | error e => rfl

/-- An answer asks for nothing. -/
theorem asksWithin_pure (a : α) : (pure a : Inspection α).AsksWithin P := trivial

/-- One inspection after another asks for what either of them asks for. -/
theorem AsksWithin.bind {x : Inspection α} {k : α → Inspection β} (hx : x.AsksWithin P)
    (hk : ∀ a, (k a).AsksWithin P) : (x >>= k).AsksWithin P := by
  rw [bind_eq]
  induction x with
  | answer a => exact hk a
  | abort e => trivial
  | note e rest ih => exact ih hx
  | look p rest ih =>
      obtain ⟨hp, hrest⟩ := hx
      exact ⟨hp, fun found => ih found (hrest found)⟩

/-- An inspection with a fixed list of reads asks for the paths of these reads. -/
theorem Reads.asksWithin {x : Inspection α} {rs : List Reading} (h : x.Reads rs)
    (hrs : ∀ r ∈ rs, P r.path) : x.AsksWithin P := by
  induction h with
  | answer a => trivial
  | note e _ ih => exact ih hrs
  | @look r rest rs refused _ _ ihaccepted ihabsent =>
      have hr : P r.path := hrs r (by simp)
      have hothers : ∀ s ∈ rs, P s.path := fun s hs => hrs s (by simp [hs])
      refine ⟨hr, fun found => ?_⟩
      cases found with
      | none => exact ihabsent hothers
      | some v =>
          cases hv : r.refusal v with
          | none => exact ihaccepted v hv hothers
          | some e =>
              -- A value that is refused ends the inspection, so nothing more is asked for.
              rw [refused v e hv]
              trivial

/-- Two sources that give the same answers within `P` lead to the same report. -/
theorem AsksWithin.run_eq {x : Inspection α} (hx : x.AsksWithin P) {s t : Source}
    (h : ∀ p, P p → s p = t p) : x.run s = x.run t := by
  induction x with
  | answer a => rfl
  | abort e => rfl
  | note e rest ih => rw [run, run, ih hx]
  | look p rest ih =>
      obtain ⟨hp, hrest⟩ := hx
      rw [run, run, h p hp]
      cases t p with
      | ok found => exact ih found (hrest found)
      | error e => rfl

/-- So do two monads that answer alike within `P`, however their answers change on the way. -/
theorem AsksWithin.runM_eq {m : Type → Type} [Monad m] {x : Inspection α} (hx : x.AsksWithin P)
    {get get' : Path → m (Except ReadError (Option Value))} (h : ∀ p, P p → get p = get' p) :
    x.runM get = x.runM get' := by
  induction x with
  | answer a => rfl
  | abort e => rfl
  | note e rest ih => rw [runM, runM, ih hx]
  | look p rest ih =>
      obtain ⟨hp, hrest⟩ := hx
      rw [runM, runM, h p hp]
      refine congrArg (get' p >>= ·) (funext fun answered => ?_)
      cases answered with
      | ok found => exact ih found (hrest found)
      | error e => rfl

end Convergence.Inspection
