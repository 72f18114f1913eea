import Convergence.Proofs.Inspection.Asks
import Convergence.Snapshot

/-!
# `Convergence.Proofs.Snapshot.Call`: one inspection of a file that changes

A call is one inspection of a snapshot.  It reads the file once for every path that it asks for,
and between two reads the file may be replaced.  `Snapshot.asks` lists the paths in the order of the
reads, `Snapshot.Answers` says that a source gives the answers that these reads got.

Main statements:

* `snd_call`: the call has read the file once for each of the paths.
* `Answers.fst_call`: to be given the same answers is to come to the same report.  So what a call
  comes to depends on nothing but what its own reads found.
* `call_eq_of_answers_asked`: a source that is asked for paths which the file answers alike, read
  after read, stands for the file.
* `call_bind`, `asks_bind`: the reads of the second inspection come after those of the first.
-/

set_option autoImplicit false

namespace Convergence.Snapshot

variable {α β : Type} (s : Snapshot)

/-- What comes of an inspection that begins after so many reads, and how many there are then. -/
def call (x : Inspection α) (start : Nat) : Report α × Nat := (x.runM s.get).run start

/-- The paths that the call asks for, one for each of its reads. -/
def asks : Inspection α → (start : Nat) → List Path
  | .answer _, _ => []
  | .abort _, _ => []
  | .note _ rest, start => asks rest start
  | .look p rest, start =>
    p :: match (s.history start).source s.name p with
      | .ok found => asks (rest found) (start + 1)
      | .error _ => []

/-- The source answers each of the paths as the file did at the read that was made for it, the
first of which was number `start`. -/
def Answers (start : Nat) (paths : List Path) (source : Source) : Prop :=
  ∀ j p, paths[j]? = some p → source p = (s.history (start + j)).source s.name p

/-- An evaluation of the condition is a call. -/
theorem condition_eq (e : Expectation) (u : SnapshotUse) (now : Duration) :
    s.condition e u now =
      ({ answer := (s.call e.inspect u.reads).1.result
         took := s.took u.evaluations
         events := (s.call e.inspect u.reads).1.events },
       { reads := (s.call e.inspect u.reads).2, evaluations := u.evaluations + 1 }) := rfl

/-! ### The steps of a call -/

theorem call_answer (a : α) (start : Nat) : s.call (.answer a) start = (⟨.ok a, []⟩, start) := rfl

theorem call_note (e : Event) (rest : Inspection α) (start : Nat) :
    s.call (.note e rest) start =
      (⟨(s.call rest start).1.result, e :: (s.call rest start).1.events⟩, (s.call rest start).2) :=
  rfl

/-- A question is one read.  It goes on with the answer, and ends if there is none. -/
theorem call_look (p : Path) (rest : Option Value → Inspection α) (start : Nat) :
    s.call (.look p rest) start =
      match (s.history start).source s.name p with
      | .ok found => s.call (rest found) (start + 1)
      | .error e => (⟨.error e, []⟩, start + 1) := by
  rw [call, Inspection.runM, StateT.run_bind, run_get, pure_bind]
  cases (s.history start).source s.name p <;> rfl

/-- What comes of one inspection after another, on one file. -/
theorem call_bind (x : Inspection α) (k : α → Inspection β) (start : Nat) :
    s.call (x >>= k) start =
      match (s.call x start).1.result with
      | .ok a =>
        let later := s.call (k a) (s.call x start).2
        (⟨later.1.result, (s.call x start).1.events ++ later.1.events⟩, later.2)
      | .error e => (⟨.error e, (s.call x start).1.events⟩, (s.call x start).2) := by
  rw [Inspection.bind_eq]
  induction x generalizing start with
  | answer a => rfl
  | abort e => rfl
  | note e rest ih =>
      rw [Inspection.bind, call_note, call_note, ih]
      cases (s.call rest start).1.result <;> rfl
  | look p rest ih =>
      rw [Inspection.bind, call_look, call_look]
      cases (s.history start).source s.name p with
      | ok found => exact ih found (start + 1)
      | error e => rfl

/-- The second inspection asks for its paths if the first one has an answer. -/
theorem asks_bind (x : Inspection α) (k : α → Inspection β) (start : Nat) :
    s.asks (x >>= k) start = s.asks x start ++
      match (s.call x start).1.result with
      | .ok a => s.asks (k a) (s.call x start).2
      | .error _ => [] := by
  rw [Inspection.bind_eq]
  induction x generalizing start with
  | answer a => rfl
  | abort e => rfl
  | note e rest ih => exact ih start
  | look p rest ih =>
      rw [Inspection.bind, asks, asks, call_look]
      cases (s.history start).source s.name p with
      | ok found => exact congrArg (p :: ·) (ih found (start + 1))
      | error e => rfl

/-- The call has read the file once for each path. -/
theorem snd_call (x : Inspection α) (start : Nat) :
    (s.call x start).2 = start + (s.asks x start).length := by
  induction x generalizing start with
  | answer a => rfl
  | abort e => rfl
  | note e rest ih => exact ih start
  | look p rest ih =>
      rw [call_look, asks, List.length_cons]
      cases (s.history start).source s.name p with
      | ok found =>
          simp only [ih found (start + 1)]
          omega
      | error e => rfl

/-! ### What a call depends on -/

variable {s} {start : Nat} {source : Source}

/-- The first path is answered by the first read, the others by the reads after it. -/
theorem answers_cons {p : Path} {ps : List Path} :
    s.Answers start (p :: ps) source ↔
      source p = (s.history start).source s.name p ∧ s.Answers (start + 1) ps source := by
  constructor
  · intro h
    refine ⟨h 0 p rfl, fun j q hq => ?_⟩
    rw [Nat.add_right_comm]
    exact h (j + 1) q hq
  · rintro ⟨hp, hps⟩ j q hq
    cases j with
    | zero =>
        cases hq
        exact hp
    | succ j =>
        rw [← Nat.add_assoc, Nat.add_right_comm]
        exact hps j q hq

/-- A source that gives the answers that a call got leads to the report that the call made. -/
theorem Answers.fst_call {x : Inspection α} (h : s.Answers start (s.asks x start) source) :
    (s.call x start).1 = x.run source := by
  induction x generalizing start with
  | answer a => rfl
  | abort e => rfl
  | note e rest ih =>
      rw [call_note, Inspection.run, ih h]
  | look p rest ih =>
      rw [asks, answers_cons] at h
      obtain ⟨hp, hrest⟩ := h
      rw [call_look, Inspection.run, hp]
      cases hread : (s.history start).source s.name p with
      | ok found =>
          rw [hread] at hrest
          exact ih found hrest
      | error e => rfl

/-- And if it gives the answers that its own questions would get, the call asks the same. -/
theorem asks_of_answers_asked {x : Inspection α} (h : s.Answers start (x.asked source) source) :
    s.asks x start = x.asked source := by
  induction x generalizing start with
  | answer a => rfl
  | abort e => rfl
  | note e rest ih => exact ih h
  | look p rest ih =>
      rw [Inspection.asked, answers_cons] at h
      obtain ⟨hp, hrest⟩ := h
      rw [asks, Inspection.asked, ← hp]
      cases hanswer : source p with
      | ok found =>
          rw [hanswer] at hrest
          exact congrArg (p :: ·) (ih found hrest)
      | error e => rfl

/-- Such a source stands for the file. -/
theorem call_eq_of_answers_asked {x : Inspection α}
    (h : s.Answers start (x.asked source) source) :
    s.call x start = (x.run source, start + (x.asked source).length) := by
  have hasks := asks_of_answers_asked h
  rw [← hasks] at h ⊢
  exact Prod.ext h.fst_call (s.snd_call x start)

/-- A file that is the same source at every read of a call is that source to the call. -/
theorem fst_call_of_forall_source_eq {x : Inspection α}
    (h : ∀ n, start ≤ n → n < (s.call x start).2 → (s.history n).source s.name = source) :
    (s.call x start).1 = x.run source := by
  refine Answers.fst_call fun j p hp => ?_
  obtain ⟨hj, -⟩ := List.getElem?_eq_some_iff.mp hp
  rw [h (start + j) (Nat.le_add_right _ _)]
  rw [snd_call]
  exact Nat.add_lt_add_left hj start

/-! ### Calls with a fixed list of reads -/

/-- Of a fixed list of reads, a call makes the first ones, up to the one that it ends with. -/
theorem asks_isPrefix {x : Inspection α} {rs : List Reading} (h : x.Reads rs) (s : Snapshot)
    (start : Nat) : s.asks x start <+: rs.map (·.path) := by
  induction h generalizing start with
  | answer a => exact List.nil_prefix
  | note e _ ih => exact ih start
  | @look r rest rs refused _ _ ihaccepted ihabsent =>
      rw [asks, List.map_cons, List.cons_prefix_cons]
      refine ⟨rfl, ?_⟩
      cases (s.history start).source s.name r.path with
      | error e => exact List.nil_prefix
      | ok found =>
          cases found with
          | none => exact ihabsent (start + 1)
          | some v =>
              cases hv : r.refusal v with
              | none => exact ihaccepted v hv (start + 1)
              | some e =>
                  simp only [refused v e hv]
                  exact List.nil_prefix

/-- It makes all of them if it has an answer. -/
theorem asks_eq {x : Inspection α} {rs : List Reading} (h : x.Reads rs) {a : α}
    (hanswer : (s.call x start).1.result = .ok a) : s.asks x start = rs.map (·.path) := by
  induction h generalizing start with
  | answer b => rfl
  | note e _ ih => exact ih hanswer
  | @look r rest rs refused _ _ ihaccepted ihabsent =>
      rw [call_look] at hanswer
      rw [asks, List.map_cons]
      refine congrArg (r.path :: ·) ?_
      cases hread : (s.history start).source s.name r.path with
      | error e =>
          rw [hread] at hanswer
          cases hanswer
      | ok found =>
          rw [hread] at hanswer
          cases found with
          | none => exact ihabsent hanswer
          | some v =>
              cases hv : r.refusal v with
              | none => exact ihaccepted v hv hanswer
              | some e =>
                  simp only [refused v e hv] at hanswer
                  cases hanswer

end Convergence.Snapshot
