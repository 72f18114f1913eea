import Convergence.Inspection

/-!
# `Convergence.Proofs.Inspection.Reads`: inspections that read a fixed list of records

Most inspections know in advance what they will read: whatever a record says, the next one is read
all the same, and only a failed read ends the inspection early.  `Inspection.Reads x rs` says that
`x` is one of these and that `rs` is what it reads, in order.  It speaks of the inspection alone,
so what follows holds for every source.

Main statements:

* `Reads.bind`: what one inspection after another reads.
* `Reads.result_eq_error_iff`: the inspection fails exactly if one of its reads does, with the
  error of the first of them.
* `Reads.exists_result_eq_ok`: and it has an answer exactly if none does.
-/

set_option autoImplicit false

namespace Convergence

/-- A read of a record: its path, and what is wrong with a value that stands there, if anything. -/
structure Reading where
  path : Path
  refusal : Value → Option DecodeError

namespace Reading

variable {α : Type}

/-- The read of a record at a path. -/
def record (p : Path) (d : Decoder α) : Reading where
  path := p
  refusal v :=
    match d .json v with
    | .ok _ => none
    | .error e => some e

/-- Why a read of the source fails, if it does: the path cannot be answered, or the value there
does not decode.  To find nothing is no failure. -/
def failure (source : Source) (r : Reading) : Option ReadError :=
  match source r.path with
  | .error e => some e
  | .ok none => none
  | .ok (some v) => (r.refusal v).map (.undecodable r.path)

/-- A read fails if its path cannot be answered. -/
theorem failure_of_error {source : Source} {r : Reading} {err : ReadError}
    (h : source r.path = .error err) : r.failure source = some err := by
  rw [failure, h]

/-- A read that finds nothing does not fail. -/
theorem failure_of_none {source : Source} {r : Reading} (h : source r.path = .ok none) :
    r.failure source = none := by
  rw [failure, h]

/-- A read that finds a value fails if the value is refused. -/
theorem failure_of_some {source : Source} {r : Reading} {v : Value}
    (h : source r.path = .ok (some v)) :
    r.failure source = (r.refusal v).map (.undecodable r.path) := by
  rw [failure, h]

end Reading

namespace Inspection

variable {α β : Type}

/-- The inspection makes these reads in this order, and goes on to the next one whatever it
finds, unless it finds a value that is refused: then it is over. -/
inductive Reads : Inspection α → List Reading → Prop
  | answer (a : α) : Reads (.answer a) []
  | note (e : Event) {rest : Inspection α} {rs : List Reading} (h : Reads rest rs) :
      Reads (.note e rest) rs
  | look {r : Reading} {rest : Option Value → Inspection α} {rs : List Reading}
      (refused : ∀ v e, r.refusal v = some e → rest (some v) = .abort (.undecodable r.path e))
      (accepted : ∀ v, r.refusal v = none → Reads (rest (some v)) rs)
      (absent : Reads (rest none) rs) :
      Reads (.look r.path rest) (r :: rs)

/-- An answer reads nothing. -/
theorem reads_pure (a : α) : (pure a : Inspection α).Reads [] := .answer a

/-- A report reads nothing. -/
theorem reads_report (e : Event) : (report e).Reads [] := .note e (.answer ())

/-- A record is one read. -/
theorem reads_record (p : Path) (d : Decoder α) :
    (Inspection.record p d).Reads [Reading.record p d] := by
  refine Reads.look (r := Reading.record p d) (fun v e hv => ?_) (fun v hv => ?_) (.answer none)
  · simp only [Reading.record] at hv ⊢
    cases hd : d .json v with
    | ok x => rw [hd] at hv; cases hv
    | error e' => rw [hd] at hv; cases hv; rfl
  · simp only [Reading.record] at hv ⊢
    cases hd : d .json v with
    | ok x => exact .answer (some x)
    | error e' => rw [hd] at hv; cases hv

/-- A record that cannot be read is the end, without a report. -/
theorem run_record_of_failure {source : Source} {p : Path} {d : Decoder α} {err : ReadError}
    (h : (Reading.record p d).failure source = some err) :
    (Inspection.record p d).run source = ⟨.error err, []⟩ := by
  simp only [Reading.failure, Reading.record] at h
  rw [Inspection.record, run]
  cases hsource : source p with
  | error e => simp_all
  | ok found =>
      cases found with
      | none => simp [hsource] at h
      | some v => cases hv : d .json v <;> simp_all [run]

/-- One inspection after another makes the reads of both, if the second one makes the same reads
after every answer of the first. -/
theorem Reads.bind {x : Inspection α} {k : α → Inspection β} {rs ss : List Reading}
    (hx : x.Reads rs) (hk : ∀ a, (k a).Reads ss) : (x >>= k).Reads (rs ++ ss) := by
  rw [bind_eq]
  induction hx with
  | answer a => exact hk a
  | note e _ ih => exact .note e ih
  | look refused _ _ ihaccepted ihabsent =>
      refine .look (fun v e hv => ?_) ihaccepted ihabsent
      rw [refused v e hv]
      rfl

/-- What reads nothing more leaves the reads as they are. -/
theorem Reads.bind_nil {x : Inspection α} {k : α → Inspection β} {rs : List Reading}
    (hx : x.Reads rs) (hk : ∀ a, (k a).Reads []) : (x >>= k).Reads rs := by
  have h := hx.bind hk
  rwa [List.append_nil] at h

variable {x : Inspection α} {rs : List Reading}

/-- An inspection fails exactly if one of its reads fails, and with the error of the first read
that does. -/
theorem Reads.result_eq_error_iff (h : x.Reads rs) (source : Source) (err : ReadError) :
    (x.run source).result = .error err ↔ rs.findSome? (Reading.failure source) = some err := by
  induction h with
  | answer a => simp [run]
  | note e _ ih => exact ih
  | @look r rest rs refused _ _ ihaccepted ihabsent =>
      rw [run, List.findSome?_cons]
      cases hs : source r.path with
      | error e =>
          rw [Reading.failure_of_error hs]
          simp
      | ok found =>
          cases found with
          | none =>
              rw [Reading.failure_of_none hs]
              exact ihabsent
          | some v =>
              rw [Reading.failure_of_some hs]
              cases hv : r.refusal v with
              | none => exact ihaccepted v hv
              | some e =>
                  simp only [refused v e hv, run]
                  simp

/-- An inspection has an answer exactly if none of its reads fails. -/
theorem Reads.exists_result_eq_ok (h : x.Reads rs) (source : Source) :
    (∃ a, (x.run source).result = .ok a) ↔ ∀ r ∈ rs, r.failure source = none := by
  rw [← List.findSome?_eq_none_iff]
  cases hresult : (x.run source).result with
  | ok a =>
      refine ⟨fun _ => ?_, fun _ => ⟨a, rfl⟩⟩
      rw [Option.eq_none_iff_forall_not_mem]
      intro err herr
      rw [(h.result_eq_error_iff source err).mpr herr] at hresult
      cases hresult
  | error err =>
      rw [(h.result_eq_error_iff source err).mp hresult]
      simp

end Inspection

end Convergence
