import Convergence.Proofs.Poll.Bounds
import Convergence.Proofs.Program.Plan

/-!
# `Convergence.Proofs.Program.Exit`: what the exit code of a run says

A script that starts the program learns nothing but the exit code.  `Arguments.run_exitCode` is the
law of that number, over every command line, every configured policy, every file with an
expectation and every history of the snapshot.  A bad input gives three, before the snapshot is
looked at; an expectation that names nothing gives zero, without a look either; and a poll gives
zero, one or two for the answer of its last evaluation.

The evaluations are those of the schedule (`Convergence.Proofs.Poll.Schedule`), laid out for the
condition that the snapshot is as expected.  The last one is the first that stops the poll.
-/

set_option autoImplicit false

namespace Convergence

/-! ### What is printed -/

namespace Process

/-- What is printed before a run begins: why the defaults stand for the configuration, and what is
ignored of the log filter. -/
def startLines (loaded : Config.Loaded) (ignored : List LogFilter.Ignored) : List String :=
  loaded.notice ++ ignored.map LogFilter.Ignored.line

/-- Only a refused input is printed after that. -/
theorem complaints_ran (text : InputError → String) (loaded : Config.Loaded) (filter : LogFilter)
    (ignored : List LogFilter.Ignored) (r : Run) :
    (ran loaded filter ignored r).complaints text =
      startLines loaded ignored ++ r.ending.complaints text := rfl

end Process

/-! ### The end of a poll -/

/-- The exit code says what the answer is: that the condition holds, that it does not, or that it
cannot be evaluated. -/
structure ExitStatus.Tells {ε : Type} (code : Nat) (answer : Except ε Bool) : Prop where
  converged : code = 0 ↔ answer = .ok true
  timedOut : code = 1 ↔ answer = .ok false
  unreadable : code = 2 ↔ ∃ e, answer = .error e

/-- A poll's exit code says what its last evaluation answers. -/
theorem ExitStatus.tells_conclusion {ε : Type} (label : String) (elapsed : Duration)
    (attempts : UInt32) (answer : Except ε Bool) :
    Tells (ofPoll (Policy.conclusion label elapsed attempts answer)).code answer := by
  rcases answer with e | (_ | _)
  · exact ⟨⟨nofun, nofun⟩, ⟨nofun, nofun⟩, fun _ => ⟨e, rfl⟩, fun _ => rfl⟩
  · exact ⟨⟨nofun, nofun⟩, ⟨fun _ => rfl, fun _ => rfl⟩, nofun, nofun⟩
  · exact ⟨⟨fun _ => rfl, fun _ => rfl⟩, ⟨nofun, nofun⟩, nofun, nofun⟩

/-- No poll has the exit code of a bad input. -/
theorem ExitStatus.code_ofPoll_ne_three {ε : Type} (result : Except (PollError ε) Unit) :
    (ofPoll result).code ≠ 3 := by
  rcases result with (_ | _) | _ <;> simp [ofPoll, code]

/-- The run has polled up to the evaluation of index `last`, counted from zero, and its exit code
says what that one answered. -/
structure Run.EndsWith (r : Run) (answers : Nat → Except ReadError Bool) (last : Nat) : Prop where
  evaluations : r.used.evaluations = last + 1
  earlier : ∀ k < last, answers k = .ok false
  code : ExitStatus.Tells r.ending.status.code (answers last)

namespace Plan

variable (p : Plan) (s : Snapshot)

/-- What evaluation `k` of the condition answers. -/
def answerAt (k : Nat) : Except ReadError Bool :=
  (p.policy.evaluationAt (s.condition p.expected) {} k).answer

/-- The evaluation is the last one: it stops the poll, and none before it does. -/
def IsLast (last : Nat) : Prop :=
  IsLeast {k | p.policy.Stops (s.condition p.expected) {} k} last

/-- Evaluations are counted. -/
theorem evaluations_stateAt (k : Nat) :
    (p.policy.stateAt (s.condition p.expected) {} k).evaluations = k := by
  induction k with
  | zero => rfl
  | succ k ih => exact congrArg (· + 1) ih

/-- With an interval there is a last evaluation. -/
theorem exists_isLast (hinterval : 0 < p.policy.interval) : ∃ last, p.IsLast s last :=
  p.policy.exists_isLeast_stops _ _ hinterval

variable {p s} {label : String} {last fuel : Nat}

/-- Nothing is polled if nothing is expected. -/
theorem run_of_isEmpty (hempty : p.expected.isEmpty = true) (s : Snapshot) (fuel : Nat) :
    p.run label s fuel = some { ending := .nothingExpected } := by
  rw [run, if_pos hempty]

/-- What is left of a run is its poll. -/
theorem run_of_not_isEmpty (hempty : p.expected.isEmpty = false) :
    p.run label s fuel =
      (p.policy.waitFor label (s.condition p.expected) fuel { state := {} }).map fun f => {
        ending := .polled f.result
        reported := p.announcement label :: f.events
        used := f.state
        elapsed := f.elapsed } := by
  rw [run, if_neg (by rw [hempty]; exact Bool.false_ne_true)]

/-- The run ends with the last evaluation. -/
theorem exists_run_endsWith (hempty : p.expected.isEmpty = false) (hlast : p.IsLast s last)
    (hfuel : last < fuel) :
    ∃ r, p.run label s fuel = some r ∧ r.EndsWith (p.answerAt s) last := by
  have hpoll := Policy.waitFor_eq_some p.policy label (s.condition p.expected) {} hlast.1
    (fun k hk => Policy.not_stops_of_lt hlast hk) hfuel
  refine ⟨_, by rw [run_of_not_isEmpty hempty, hpoll]; rfl, ?_, ?_, ?_⟩
  · -- What became of the snapshot is the state before the evaluation that is not made any more.
    exact p.evaluations_stateAt s (last + 1)
  · intro k hk
    exact ((p.policy.not_stops_iff _ _ k).mp (Policy.not_stops_of_lt hlast hk)).1
  · exact ExitStatus.tells_conclusion _ _ _ _

/-- A run that is not given its last evaluation is abandoned. -/
theorem run_eq_none (hempty : p.expected.isEmpty = false)
    (h : ∀ k < fuel, ¬p.policy.Stops (s.condition p.expected) {} k) :
    p.run label s fuel = none := by
  rw [run_of_not_isEmpty hempty, Policy.waitFor_eq_none _ _ _ _ h]
  rfl

/-- A plan is carried out without a bad input. -/
theorem status_run_ne_three {r : Run} (h : p.run label s fuel = some r) :
    r.ending.status.code ≠ 3 := by
  cases hempty : p.expected.isEmpty with
  | true =>
      rw [run_of_isEmpty hempty, Option.some.injEq] at h
      subst h
      exact (by decide : (0 : Nat) ≠ 3)
  | false =>
      rw [run_of_not_isEmpty hempty, Option.map_eq_some_iff] at h
      obtain ⟨f, -, rfl⟩ := h
      exact ExitStatus.code_ofPoll_ne_three f.result

/-- A run without a last evaluation is abandoned, whatever it is given. -/
theorem run_eq_none_of_forall_not_isLast (hempty : p.expected.isEmpty = false)
    (h : ∀ last, ¬p.IsLast s last) (fuel : Nat) : p.run label s fuel = none := by
  refine run_eq_none hempty fun k _ hk => ?_
  obtain ⟨last, hlast⟩ := Policy.exists_isLeast_of_stops hk
  exact h last hlast

/-- A run that has polled and has ended has ended with its last evaluation. -/
theorem exists_endsWith_of_run (hempty : p.expected.isEmpty = false) {r : Run}
    (h : p.run label s fuel = some r) :
    ∃ last, p.IsLast s last ∧ last < fuel ∧ r.EndsWith (p.answerAt s) last := by
  have hpoll := h
  rw [run_of_not_isEmpty hempty, Option.map_eq_some_iff] at hpoll
  obtain ⟨f, hf, -⟩ := hpoll
  obtain ⟨last, hfuel, hlast, -⟩ := Policy.exists_eq_finishedAt _ _ _ _ (.inl hf)
  obtain ⟨r', hr', hend⟩ := exists_run_endsWith hempty hlast hfuel
  rw [hr', Option.some.injEq] at h
  exact ⟨last, hlast, hfuel, h ▸ hend⟩

end Plan

/-! ### The exit code -/

namespace Arguments

variable {a : Arguments} {configured : Policy} {file : FileState}

/-- A run with a bad input ends before anything is done. -/
theorem run_of_refusal {err : InputError} (h : a.Refusal file err) (s : Snapshot) (fuel : Nat) :
    a.run configured file s fuel = some { ending := .refused err } := by
  rw [run, Plan.make_eq_error_iff.mpr h]

/-- With good inputs, the plan that they make is carried out. -/
theorem run_of_isFor {p : Plan} (h : p.IsFor a configured file) (s : Snapshot) (fuel : Nat) :
    a.run configured file s fuel = p.run a.label s fuel := by
  rw [run, Plan.make_eq_ok_iff.mpr h]

/-- The exit code is that of a bad input exactly if there is one. -/
theorem status_run_eq_three_iff {s : Snapshot} {fuel : Nat} {r : Run}
    (h : a.run configured file s fuel = some r) :
    r.ending.status.code = 3 ↔ a.HasBadInput file := by
  constructor
  · -- Good inputs make a plan, and carrying out a plan never gives three.
    intro hcode
    by_contra hgood
    obtain ⟨p, hp⟩ := (Plan.exists_isFor_iff configured).mpr hgood
    rw [run_of_isFor hp] at h
    exact Plan.status_run_ne_three h hcode
  · intro hbad
    obtain ⟨err, herr⟩ := exists_refusal_iff.mpr hbad
    rw [run_of_refusal herr, Option.some.injEq] at h
    subst h
    rfl

end Arguments

end Convergence
