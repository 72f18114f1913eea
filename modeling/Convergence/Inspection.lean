import Convergence.Decode.Basic
import Convergence.Event
import Convergence.Document

/-!
# `Convergence.Inspection`: looking at telemetry

An inspection asks for one path after the other, reports what it saw, and ends with an answer or
with the read that failed.  It does not know where telemetry comes from: `run` answers every
question from one source, `runM` from wherever the monad finds the answer, so that a file may
change between two questions.

Main statement: `run_bind` (what comes of one inspection after another).
-/

set_option autoImplicit false

namespace Convergence

/-- What a source answers for each path: a value, nothing yet, or a failure. -/
abbrev Source := Path → Except ReadError (Option Value)

/-- The document as a source. -/
def Document.source (d : Document) : Source := fun p => .ok (d.value.find? p.keys)

/-- A file as a source: the file is read and parsed for every question. -/
def FileState.source (name : String) (file : FileState) : Source := fun p => do
  let text ← file.read.mapError (.file name)
  let d ← (Document.parse text).mapError (.malformed name)
  return d.value.find? p.keys

/-- Questions to a source, reports on the way, and an answer. -/
inductive Inspection (α : Type) where
  | answer (a : α)
  | abort (e : ReadError)
  | note (e : Event) (rest : Inspection α)
  | look (p : Path) (rest : Option Value → Inspection α)

/-- What came of an inspection. -/
structure Report (α : Type) where
  result : Except ReadError α
  events : List Event

namespace Inspection

variable {α β : Type}

/-- Goes on with the answer. -/
def bind : Inspection α → (α → Inspection β) → Inspection β
  | answer a, k => k a
  | abort e, _ => abort e
  | note e rest, k => note e (rest.bind k)
  | look p rest, k => look p fun v => (rest v).bind k

instance : Monad Inspection where
  pure := answer
  bind := bind

/-- Reports an event. -/
def report (e : Event) : Inspection Unit := note e (answer ())

/-- The record at a path.  One that is there must decode. -/
def record (p : Path) (d : Decoder α) : Inspection (Option α) :=
  look p fun
    | none => answer none
    | some v =>
      match d .json v with
      | .ok x => answer (some x)
      | .error e => abort (.undecodable p e)

/-- Asks one source. -/
def run (source : Source) : Inspection α → Report α
  | answer a => ⟨.ok a, []⟩
  | abort e => ⟨.error e, []⟩
  | note e rest =>
    let r := rest.run source
    ⟨r.result, e :: r.events⟩
  | look p rest =>
    match source p with
    | .ok v => (rest v).run source
    | .error e => ⟨.error e, []⟩

/-- Asks the monad. -/
def runM {m : Type → Type} [Monad m] (get : Path → m (Except ReadError (Option Value))) :
    Inspection α → m (Report α)
  | answer a => pure ⟨.ok a, []⟩
  | abort e => pure ⟨.error e, []⟩
  | note e rest => do
    let r ← rest.runM get
    return ⟨r.result, e :: r.events⟩
  | look p rest => do
    match ← get p with
    | .ok v => (rest v).runM get
    | .error e => return ⟨.error e, []⟩

/-! ### One inspection after another -/

theorem bind_eq (x : Inspection α) (k : α → Inspection β) : x >>= k = x.bind k := rfl

theorem pure_eq (a : α) : (pure a : Inspection α) = answer a := rfl

theorem bind_answer (x : Inspection α) : x.bind answer = x := by
  induction x with
  | answer a => rfl
  | abort e => rfl
  | note e rest ih => rw [bind, ih]
  | look p rest ih => rw [bind, funext ih]

theorem bind_assoc {γ : Type} (x : Inspection α) (k : α → Inspection β) (l : β → Inspection γ) :
    (x.bind k).bind l = x.bind fun a => (k a).bind l := by
  induction x with
  | answer a => rfl
  | abort e => rfl
  | note e rest ih => rw [bind, bind, bind, ih]
  | look p rest ih => rw [bind, bind, bind, funext ih]

instance : LawfulMonad Inspection :=
  .mk' Inspection bind_answer (fun _ _ => rfl) bind_assoc

/-- Events add up; the second inspection runs if the first one has an answer. -/
theorem run_bind (source : Source) (x : Inspection α) (k : α → Inspection β) :
    (x >>= k).run source =
      match (x.run source).result with
      | .ok a => ⟨((k a).run source).result, (x.run source).events ++ ((k a).run source).events⟩
      | .error e => ⟨.error e, (x.run source).events⟩ := by
  rw [bind_eq]
  induction x with
  | answer a => rfl
  | abort e => rfl
  | note e rest ih =>
    simp only [bind, run, ih]
    split <;> rfl
  | look p rest ih =>
    simp only [bind, run]
    split
    · exact ih _
    · rfl

end Inspection

end Convergence
