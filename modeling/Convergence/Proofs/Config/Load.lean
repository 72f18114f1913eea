import Convergence.Proofs.Program.Files
import Mathlib.Tactic.Common

/-!
# `Convergence.Proofs.Config.Load`: what becomes of the configuration file

A file of the name may hold a configuration, hold a text that is none, or have no text at all.  The
first is taken and the second refused, before any other file is read.  For the third the defaults
stand, and it does not matter why there is no text: a directory and bytes that are not UTF-8 count
like a file that is not there (`load_eq_fallback_iff`).
-/

set_option autoImplicit false

namespace Convergence

namespace Config

variable {path : String} {file : FileState}

/-- The defaults stand for every file that has no text. -/
theorem load_eq_fallback_iff {c : Config} {e : FileError} :
    load path file = .ok ⟨c, some e⟩ ↔ c = {} ∧ file.read = .error e := by
  rw [load]
  cases file.read with
  | error e' => simp [eq_comm]
  | ok text => simp [mapError_eq_ok_iff, map_eq_ok_iff]

/-- A configuration is taken from a file that holds it. -/
theorem load_eq_ok_iff {c : Config} :
    load path file = .ok ⟨c, none⟩ ↔ file.Holds schema.decode c := by
  simp only [load, FileState.Holds, ← FileState.read_eq_ok_iff]
  cases file.read with
  | error e => simp
  | ok text => simp [mapError_eq_ok_iff, map_eq_ok_iff]

/-- A text that is no configuration is refused. -/
theorem load_eq_error_iff {err : InputError} :
    load path file = .error err ↔
      ∃ (text : String) (e : Toml.LoadError), file = .content text.toUTF8 ∧
        Toml.load schema.decode text = .error e ∧ err = .unusable path e := by
  simp only [load, ← FileState.read_eq_ok_iff]
  cases file.read with
  | error e => simp
  | ok text =>
      cases hload : Toml.load schema.decode text <;>
        simp [hload, Except.map, Except.mapError, eq_comm]

/-- A program whose configuration is refused ends with that. -/
theorem program_of_load_eq_error {args : List String} {a : Arguments} {w : Surroundings}
    {err : InputError} (hargs : Arguments.parse args = .ok a)
    (hload : load a.configPath (w.files a.configPath 0) = .error err) (fuel : Nat) :
    program args w fuel = some (.badConfig err) := by
  rw [program, hargs]
  simp only [hload]

/-- **What becomes of the configuration file.**  The defaults stand for it if it is no text in
UTF-8, and otherwise it is what the text says.  A text that is no configuration ends the program
with three, whatever the other files hold: none of them is read. -/
theorem load_spec (path : String) (file : FileState) :
    (∀ c e, load path file = .ok ⟨c, some e⟩ → c = {}) ∧
    ((∃ c e, load path file = .ok ⟨c, some e⟩) ↔ ∀ text : String, file ≠ .content text.toUTF8) ∧
    (∀ c, load path file = .ok ⟨c, none⟩ ↔ file.Holds schema.decode c) ∧
    ∀ text : String, file = .content text.toUTF8 →
      (∀ c, Toml.load schema.decode text ≠ .ok c) →
      ∃ err, load path file = .error err ∧ (Process.badConfig err).exitCode = 3 ∧
        ∀ args a w, Arguments.parse args = .ok a → a.configPath = path → w.files path 0 = file →
          ∀ fuel, program args w fuel = some (.badConfig err) := by
  refine ⟨fun c e h => (load_eq_fallback_iff.mp h).1, ?_, fun c => load_eq_ok_iff, ?_⟩
  · rw [← FileState.exists_read_eq_error_iff]
    simp only [load_eq_fallback_iff, exists_eq_left, exists_and_left]
  · intro text htext hbad
    obtain ⟨e, he⟩ : ∃ e, Toml.load schema.decode text = .error e := by
      cases hload : Toml.load schema.decode text with
      | error e => exact ⟨e, rfl⟩
      | ok c => exact absurd hload (hbad c)
    -- The error depends on the text alone, so it can be named before the other files are.
    have hload : load path file = .error (.unusable path e) :=
      load_eq_error_iff.mpr ⟨text, e, htext, he, rfl⟩
    refine ⟨_, hload, rfl, fun args a w hargs hpath hfile fuel => ?_⟩
    subst hpath hfile
    exact program_of_load_eq_error hargs hload fuel

/-- An unknown key ends the program before it looks for any other file. -/
theorem load_spec_unknownKey :
    ∃ err, (Process.badConfig err).exitCode = 3 ∧ ∀ fuel,
      program ["-s", "s.json", "-e", "e.toml", "-c", "c.toml"]
        { files := fun path => if path = "c.toml" then (FileState.content "x = 1".toUTF8).always
            else FileState.missing.always } fuel
        = some (.badConfig err) := by
  have hbad : ∀ c, Toml.load schema.decode "x = 1" ≠ .ok c := by
    intro c hc
    have hnone : (Toml.load schema.decode "x = 1").toOption = none := by decide +kernel
    rw [hc] at hnone
    cases hnone
  obtain ⟨err, -, hcode, hprogram⟩ :=
    (load_spec "c.toml" (.content "x = 1".toUTF8)).2.2.2 "x = 1" rfl hbad
  have hargs : Arguments.parse ["-s", "s.json", "-e", "e.toml", "-c", "c.toml"]
      = .ok ⟨"s.json", "e.toml", some "c.toml", none, none, none⟩ := by
    decide +kernel
  exact ⟨err, hcode, hprogram _ _ _ hargs rfl rfl⟩

/-- The defaults also stand for a file that is there and is no text, such as a single octet. -/
theorem not_forall_fallback_missing :
    ¬∀ path file c e, load path file = .ok ⟨c, some e⟩ → file = .missing := by
  intro h
  have hread : (FileState.content ⟨#[255]⟩).read = .error .notText := by cbv
  have hload : load "c.toml" (.content ⟨#[255]⟩) = .ok ⟨{}, some .notText⟩ :=
    load_eq_fallback_iff.mpr ⟨rfl, hread⟩
  have hmissing : FileState.content ⟨#[255]⟩ = .missing := h _ _ _ _ hload
  cases hmissing

end Config

end Convergence
