import Convergence.Program
import Convergence.Proofs.Except

/-!
# `Convergence.Proofs.Program.Files`: what the files of the program hold

A file holds a record if its bytes are a text in UTF-8, the text is a TOML document, and the
document decodes to the record (`FileState.Holds`).  The expectation is loaded from a file exactly
if the file holds it; otherwise the file has no text, or one that is no expectation.
-/

set_option autoImplicit false

namespace Convergence

namespace FileState

variable {file : FileState}

/-- Bytes are read as the text that they are in UTF-8. -/
theorem fromUTF8?_eq_some_iff {bytes : ByteArray} {text : String} :
    String.fromUTF8? bytes = some text ↔ bytes = text.toUTF8 := by
  rw [String.fromUTF8?, String.toUTF8_eq_toByteArray]
  constructor
  · intro h
    split at h
    · cases h
      rfl
    · cases h
  · rintro rfl
    rw [dif_pos text.isValidUTF8]
    rfl

/-- A file has the text that its bytes are in UTF-8. -/
theorem read_eq_ok_iff {text : String} : file.read = .ok text ↔ file = .content text.toUTF8 := by
  cases file with
  | content bytes =>
      rw [read, FileState.content.injEq, ← fromUTF8?_eq_some_iff]
      cases String.fromUTF8? bytes <;> simp
  | _ => exact ⟨nofun, nofun⟩

/-- Every other file has none. -/
theorem exists_read_eq_error_iff :
    (∃ e, file.read = .error e) ↔ ∀ text : String, file ≠ .content text.toUTF8 := by
  simp only [Ne, ← read_eq_ok_iff]
  cases file.read <;> simp

/-- The file is a TOML document in UTF-8 that decodes to the record. -/
def Holds {α : Type} (d : Decoder α) (file : FileState) (x : α) : Prop :=
  ∃ text : String, file = .content text.toUTF8 ∧ Toml.load d text = .ok x

/-- A file holds no record if it has no text, or one that does not amount to a record. -/
theorem not_exists_holds_iff {α : Type} {d : Decoder α} :
    (¬∃ x, file.Holds d x) ↔ (∀ text : String, file ≠ .content text.toUTF8) ∨
      ∃ text : String, file = .content text.toUTF8 ∧ ∀ x, Toml.load d text ≠ .ok x := by
  simp only [Holds, Ne, ← read_eq_ok_iff]
  cases file.read with
  | ok text => simp
  | error e => simp

end FileState

namespace Expectation

variable {path : String} {file : FileState} {e : Expectation} {err : InputError}

/-- The expectation that is loaded is the one that the file holds. -/
theorem load_eq_ok_iff : load path file = .ok e ↔ file.Holds Expectation.schema.decode e := by
  simp only [load, bind_eq_ok_iff, mapError_eq_ok_iff, FileState.read_eq_ok_iff, FileState.Holds]

/-- A file without an expectation has no text, or one that does not amount to an expectation. -/
theorem load_eq_error_iff :
    load path file = .error err ↔
      (∃ e, file.read = .error e ∧ err = .unreadable path e) ∨
        ∃ (text : String) (e : Toml.LoadError), file = .content text.toUTF8 ∧
          Toml.load Expectation.schema.decode text = .error e ∧ err = .unusable path e := by
  simp only [load, bind_eq_error_iff, mapError_eq_error_iff, mapError_eq_ok_iff,
    FileState.read_eq_ok_iff, ← exists_and_left, eq_comm (b := err)]

end Expectation

end Convergence
