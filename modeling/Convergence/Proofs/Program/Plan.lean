import Convergence.Proofs.CommandLine.Policy
import Convergence.Proofs.Program.Files

/-!
# `Convergence.Proofs.Program.Plan`: the inputs of a run

A run has three inputs that can be bad: the interval, the timeout, and the file with the
expectation.  `Plan.IsFor` says which plan good inputs make, and `Arguments.Refusal` which of the
bad ones is refused and how: the first, in that order.  The two are what `Plan.make` answers
(`make_eq_ok_iff`, `make_eq_error_iff`), so that one of them applies to every command line and
every file, and never both.
-/

set_option autoImplicit false

namespace Convergence

namespace Arguments

variable {a : Arguments} {file : FileState}

/-- The first input that is bad is refused, with this error. -/
inductive Refusal (a : Arguments) (file : FileState) : InputError → Prop
  | interval {text : String} :
    a.interval = some text → (¬∃ n, IsNumber text n) →
      Refusal a file (.invalidArgument "interval-ms" text)
  | timeout {text : String} :
    ¬IsBad a.interval → a.timeout = some text → (¬∃ n, IsNumber text n) →
      Refusal a file (.invalidArgument "timeout-ms" text)
  | unreadable {e : FileError} :
    ¬IsBad a.interval → ¬IsBad a.timeout → file.read = .error e →
      Refusal a file (.unreadable a.expected e)
  | unusable {text : String} {e : Toml.LoadError} :
    ¬IsBad a.interval → ¬IsBad a.timeout → file = .content text.toUTF8 →
      Toml.load Expectation.schema.decode text = .error e →
      Refusal a file (.unusable a.expected e)

/-- One of the inputs is bad: an option is no number, or the file is not a text in UTF-8, or the
text does not decode to an expectation. -/
def HasBadInput (a : Arguments) (file : FileState) : Prop :=
  IsBad a.interval ∨ IsBad a.timeout ∨ (∀ text : String, file ≠ .content text.toUTF8) ∨
    ∃ text : String, file = .content text.toUTF8 ∧
      ∀ e, Toml.load Expectation.schema.decode text ≠ .ok e

end Arguments

namespace Plan

open Arguments

variable {a : Arguments} {configured : Policy} {file : FileState} {p : Plan} {err : InputError}

/-- The plan is the one that the inputs make. -/
structure IsFor (p : Plan) (a : Arguments) (configured : Policy) (file : FileState) : Prop where
  policy : a.HasPolicy configured p.policy
  expected : file.Holds Expectation.schema.decode p.expected

/-- The plan that is made is the one for the inputs. -/
theorem make_eq_ok_iff : make a configured file = .ok p ↔ p.IsFor a configured file := by
  simp only [make, bind_eq_ok_iff, policy_eq_ok_iff, Expectation.load_eq_ok_iff]
  constructor
  · rintro ⟨policy, hpolicy, e, he, hp⟩
    cases hp
    exact ⟨hpolicy, he⟩
  · rintro ⟨hpolicy, he⟩
    exact ⟨p.policy, hpolicy, p.expected, he, rfl⟩

/-- Inputs make no two plans. -/
theorem IsFor.unique {q : Plan} (hp : p.IsFor a configured file) (hq : q.IsFor a configured file) :
    p = q := by
  rw [← make_eq_ok_iff] at hp hq
  rw [hp] at hq
  exact Except.ok.inj hq

/-- What is reported is the first input that is bad. -/
theorem make_eq_error_iff : make a configured file = .error err ↔ a.Refusal file err := by
  -- The file is looked at exactly if there is a policy.
  have hmake : make a configured file = .error err ↔
      a.policy configured = .error err ∨
        (∃ policy, a.policy configured = .ok policy) ∧
          Expectation.load a.expected file = .error err := by
    rw [make, bind_eq_error_iff, ← exists_and_right]
    refine or_congr_right (exists_congr fun policy => and_congr_right' ?_)
    rw [bind_eq_error_iff]
    exact or_iff_left fun ⟨_, _, h⟩ => nomatch h
  simp only [hmake, policy_eq_ok_iff, exists_hasPolicy_iff, policy_eq_error_iff,
    Expectation.load_eq_error_iff, millis_eq_error_iff]
  constructor
  · rintro ((⟨text, htext, hno, rfl⟩ | ⟨hinterval, text, htext, hno, rfl⟩) |
      ⟨⟨hinterval, htimeout⟩, ⟨e, he, rfl⟩ | ⟨text, e, htext, he, rfl⟩⟩)
    · exact .interval htext hno
    · exact .timeout hinterval htext hno
    · exact .unreadable hinterval htimeout he
    · exact .unusable hinterval htimeout htext he
  · intro h
    cases h with
    | interval htext hno => exact .inl (.inl ⟨_, htext, hno, rfl⟩)
    | timeout hinterval htext hno => exact .inl (.inr ⟨hinterval, _, htext, hno, rfl⟩)
    | unreadable hinterval htimeout he => exact .inr ⟨⟨hinterval, htimeout⟩, .inl ⟨_, he, rfl⟩⟩
    | unusable hinterval htimeout htext he =>
        exact .inr ⟨⟨hinterval, htimeout⟩, .inr ⟨_, _, htext, he, rfl⟩⟩

/-- A plan is made unless an input is bad. -/
theorem exists_isFor_iff (configured : Policy) :
    (∃ p : Plan, p.IsFor a configured file) ↔ ¬a.HasBadInput file := by
  rw [HasBadInput, ← FileState.not_exists_holds_iff, not_or, not_or, not_not, ← and_assoc,
    ← exists_hasPolicy_iff configured]
  constructor
  · rintro ⟨p, hpolicy, he⟩
    exact ⟨⟨p.policy, hpolicy⟩, ⟨p.expected, he⟩⟩
  · rintro ⟨⟨policy, hpolicy⟩, ⟨e, he⟩⟩
    exact ⟨⟨policy, e⟩, hpolicy, he⟩

end Plan

namespace Arguments

variable {a : Arguments} {file : FileState}

/-- Something is refused exactly if an input is bad. -/
theorem exists_refusal_iff : (∃ err, a.Refusal file err) ↔ a.HasBadInput file := by
  have hplan : (∃ p, Plan.make a {} file = .ok p) ↔ ¬a.HasBadInput file := by
    simp only [Plan.make_eq_ok_iff, Plan.exists_isFor_iff]
  rw [exists_eq_ok_iff, not_iff_not] at hplan
  simpa only [Plan.make_eq_error_iff] using hplan

/-- What is refused is refused in one way. -/
theorem Refusal.unique {err err' : InputError} (h : a.Refusal file err)
    (h' : a.Refusal file err') : err = err' := by
  have hmake : Plan.make a {} file = .error err := Plan.make_eq_error_iff.mpr h
  rw [Plan.make_eq_error_iff.mpr h'] at hmake
  exact (Except.error.inj hmake).symm

end Arguments

end Convergence
