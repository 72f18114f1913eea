import Convergence.Decode.Error
import Convergence.Path
import Convergence.Value.Parser

/-!
# `Convergence.Error`: failed reads

Files that cannot be read, telemetry that cannot be read, and the text of an error with its
causes, each cause between parentheses.

Main statement: `chainText_eq_intercalate` (that text, written out).
-/

set_option autoImplicit false

namespace Convergence

/-- A message and the messages of its causes, outermost first. -/
def chainText : List String → String
  | [] => ""
  | [m] => m
  | m :: causes => m ++ " (" ++ chainText causes ++ ")"

/-- The causes are opened between the messages, and all of them are closed at the end. -/
theorem chainText_eq_intercalate : ∀ ms : List String,
    chainText ms = " (".intercalate ms ++ String.ofList (List.replicate (ms.length - 1) ')')
  | [] => rfl
  | [m] => by
    rw [chainText, String.intercalate_singleton]
    exact String.append_empty.symm
  | m :: cause :: causes => by
    have hclose : String.ofList (List.replicate (causes.length + 1) ')') =
        String.ofList (List.replicate causes.length ')') ++ ")" := by
      rw [List.replicate_succ', String.ofList_append]
    rw [chainText, chainText_eq_intercalate (cause :: causes), String.intercalate_cons_cons]
    · simp only [List.length_cons, Nat.add_sub_cancel, hclose, String.append_assoc]
    · exact List.cons_ne_nil cause causes

/-- Why a file has no text. -/
inductive FileError where
  | missing
  | directory
  | notText
  | other (reason : String)
  deriving DecidableEq, Repr

/-- The text of the error. -/
def FileError.message : FileError → String
  | missing => "No such file or directory (os error 2)"
  | directory => "Is a directory (os error 21)"
  | notText => "stream did not contain valid UTF-8"
  | other reason => reason

/-- What stands under a file name. -/
inductive FileState where
  | missing
  | directory
  | content (bytes : ByteArray)
  /-- Something that cannot be read, and why. -/
  | broken (reason : String)
  deriving Inhabited

/-- The text of the file. -/
def FileState.read : FileState → Except FileError String
  | missing => .error .missing
  | directory => .error .directory
  | broken reason => .error (.other reason)
  | content bytes =>
    match String.fromUTF8? bytes with
    | some s => .ok s
    | none => .error .notText

/-- A telemetry read that failed, as opposed to telemetry that is not there yet. -/
inductive ReadError where
  | file (name : String) (e : FileError)
  | malformed (name : String) (e : SyntaxError)
  | undecodable (path : Path) (e : DecodeError)
  deriving DecidableEq, Repr

namespace ReadError

/-- The text of the error without its cause. -/
def message : ReadError → String
  | file _ _ => "failed to read telemetry snapshot"
  | malformed _ _ => "failed to parse telemetry snapshot"
  | undecodable path _ => "failed to decode telemetry data at " ++ path.text

/-- The text of the cause. -/
def cause : ReadError → String
  | file _ e => e.message
  | malformed _ e => e.message
  | undecodable _ e => e.message

/-- The file name or the path that was read. -/
def location : ReadError → String
  | file name _ => name
  | malformed name _ => name
  | undecodable path _ => path.text

/-- The messages of the error and of its cause. -/
def chain (e : ReadError) : List String := [e.message, e.cause]

end ReadError

end Convergence
