import Convergence.Proofs.Program.Files
import Convergence.Proofs.Telemetry.Items

/-!
# `Convergence.Proofs.Snapshot.Source`: what a snapshot file answers

A file is read and parsed anew for every question.  There are two kinds of files.  One holds a
document (`FileState.HoldsDocument`) and answers every path as the document does
(`HoldsDocument.source_eq`).  Any other is refused (`FileState.Refuses`), and every path gets the
one same error (`Refuses.source_eq`), the empty path and paths that lead nowhere included: only a
document can say that there is nothing at a path.
-/

set_option autoImplicit false

namespace Convergence.FileState

/-- The file is a text in UTF-8, and the text is the document in JSON. -/
def HoldsDocument (file : FileState) (d : Document) : Prop :=
  ∃ text : String, file = .content text.toUTF8 ∧ Document.parse text = .ok d

/-- A file of this name that holds no document is refused with this error. -/
inductive Refuses (file : FileState) (name : String) : ReadError → Prop
  | unread {e : FileError} : file.read = .error e → Refuses file name (.file name e)
  | unparsed {text : String} {e : SyntaxError} :
    file = .content text.toUTF8 → Document.parse text = .error e →
      Refuses file name (.malformed name e)

variable {file : FileState} {name : String} {d : Document} {err : ReadError} {p : Path}

/-- An answer is that of the document in the file. -/
theorem source_eq_ok_iff {found : Option Value} :
    file.source name p = .ok found ↔ ∃ d, file.HoldsDocument d ∧ d.value.find? p.keys = found := by
  simp only [source, bind_eq_ok_iff, mapError_eq_ok_iff, read_eq_ok_iff, HoldsDocument]
  constructor
  · rintro ⟨text, htext, d, hd, hfound⟩
    exact ⟨d, ⟨text, htext, hd⟩, Except.ok.inj hfound⟩
  · rintro ⟨d, ⟨text, htext, hd⟩, hfound⟩
    exact ⟨text, htext, d, hd, congrArg Except.ok hfound⟩

/-- A failure is that of the file, whatever the path is. -/
theorem source_eq_error_iff : file.source name p = .error err ↔ file.Refuses name err := by
  simp only [source, bind_eq_error_iff, mapError_eq_error_iff, mapError_eq_ok_iff, read_eq_ok_iff]
  constructor
  · rintro (⟨e, he, rfl⟩ | ⟨text, htext, ⟨e, he, rfl⟩ | ⟨d, -, hanswer⟩⟩)
    · exact .unread he
    · exact .unparsed htext he
    · cases hanswer
  · intro h
    cases h with
    | unread he => exact .inl ⟨_, he, rfl⟩
    | unparsed htext he => exact .inr ⟨_, htext, .inl ⟨_, he, rfl⟩⟩

/-- A file that holds a document answers as the document does. -/
theorem HoldsDocument.source_eq (h : file.HoldsDocument d) (name : String) :
    file.source name = d.source :=
  funext fun _ => source_eq_ok_iff.mpr ⟨d, h, rfl⟩

/-- A file that is refused answers no path. -/
theorem Refuses.source_eq (h : file.Refuses name err) : file.source name = fun _ => .error err :=
  funext fun _ => source_eq_error_iff.mpr h

/-- A file is refused exactly if it holds no document. -/
theorem exists_refuses_iff (name : String) :
    (∃ err, file.Refuses name err) ↔ ¬∃ d, file.HoldsDocument d := by
  -- The two kinds of files are told apart by what they answer for the empty path.
  have hanswer : (∃ found, file.source name ⟨[]⟩ = .ok found) ↔ ∃ d, file.HoldsDocument d := by
    simp only [source_eq_ok_iff]
    exact ⟨fun ⟨_, d, hd, _⟩ => ⟨d, hd⟩, fun ⟨d, hd⟩ => ⟨_, d, hd, rfl⟩⟩
  rw [← hanswer, exists_eq_ok_iff, Classical.not_not]
  simp only [source_eq_error_iff]

end Convergence.FileState
