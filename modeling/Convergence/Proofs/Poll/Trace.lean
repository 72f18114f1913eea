import Convergence.Proofs.Duration
import Convergence.Proofs.Poll.Outcome
import Mathlib

/-!
# `Convergence.Proofs.Poll.Trace`: what a poll reports

A poll reports behind each evaluation that there will be another one, and behind the last one, if
the condition then holds, that it is done.  What the evaluations report themselves stands in
between.  `trace` lays all of it out on the schedule (`Convergence.Proofs.Poll.Schedule`).  It says
nothing of an error: that is reported once, by whoever asked for the poll.

* `reportsAt_of_not_stops` and `reportsAt_of_stops` are the step: what is reported behind one
  evaluation.
* `events_finishedAt` is the run.  The number of an evaluation is told modulo `2 ^ 32` in it.
* `waitFor_events` is the trace of a poll whose evaluations can be counted in 32 bits.
-/

set_option autoImplicit false

namespace Convergence.Policy

variable {σ ε : Type}

/-! ### Single reports -/

/-- What every report of a poll says: the condition, the time and the number of the evaluation. -/
def reportFields (label : String) (elapsed : Duration) (attempts : Nat) :
    List (String × String) :=
  [("condition", label), ("elapsed", elapsed.text), ("attempts", toString attempts)]

/-- The report that the condition does not hold yet. -/
def notYet (label : String) (elapsed : Duration) (attempts : Nat) : Event where
  level := .debug
  component := .poll
  message := "condition not met yet"
  fields := reportFields label elapsed attempts

/-- The report that the condition holds. -/
def done (label : String) (elapsed : Duration) (attempts : Nat) : Event where
  level := .info
  component := .poll
  message := "done waiting"
  fields := reportFields label elapsed attempts

/-- What a poll reports when it is over: nothing, unless its condition holds. -/
def closing (label : String) (elapsed : Duration) (attempts : Nat) :
    Except (PollError ε) Unit → List Event
  | .ok () => [done label elapsed attempts]
  | .error _ => []

section
variable (p : Policy) (label : String) (condition : Condition σ ε) (state : σ)

/-! ### The trace -/

/-- What is reported in a poll that ends with evaluation `k`, when evaluation number `n` is told to
be number `told n`. -/
def trace (told : Nat → Nat) (result : Except (PollError ε) Unit) (k : Nat) : List Event :=
  (List.range k).flatMap (fun i =>
    (p.evaluationAt condition state i).events ++
      [notYet label (p.endAt condition state i) (told (i + 1))]) ++
    ((p.evaluationAt condition state k).events ++
      closing label (p.endAt condition state k) (told (k + 1)) result)

/-- The count of evaluations wraps. -/
theorem toNat_attempts_eq (n : Nat) : (UInt32.ofNat n).toNat = n % UInt32.size :=
  UInt32.toNat_ofNat

/-- Behind an evaluation that does not stop the poll there is one report. -/
theorem reportsAt_of_not_stops {k : Nat} (h : ¬p.Stops condition state k) :
    p.reportsAt label condition state k =
      (p.evaluationAt condition state k).events ++
        [notYet label (p.endAt condition state k) ((k + 1) % UInt32.size)] := by
  rw [reportsAt, p.verdictAt_of_not_stops label condition state h, ← toNat_attempts_eq]
  rfl

/-- Behind the evaluation that stops the poll there is a report if the condition holds. -/
theorem reportsAt_of_stops {k : Nat} (h : p.Stops condition state k) :
    p.reportsAt label condition state k =
      (p.evaluationAt condition state k).events ++
        closing label (p.endAt condition state k) ((k + 1) % UInt32.size)
          (p.finishedAt label condition state k).result := by
  rw [reportsAt, p.verdictAt_of_stops label condition state h, ← toNat_attempts_eq, finishedAt]
  rcases (p.evaluationAt condition state k).answer with e | (_ | _) <;> rfl

/-- A poll reports its trace, with the numbers of evaluations modulo `2 ^ 32`. -/
theorem events_finishedAt {k : Nat} (hk : IsLeast {i | p.Stops condition state i} k) :
    (p.finishedAt label condition state k).events =
      p.trace label condition state (· % UInt32.size)
        (p.finishedAt label condition state k).result k := by
  show (List.range (k + 1)).flatMap (p.reportsAt label condition state) = _
  rw [List.range_succ, List.flatMap_append, List.flatMap_singleton,
    p.reportsAt_of_stops label condition state hk.1, trace]
  congr 1
  refine List.flatMap_congr fun i hi => ?_
  exact p.reportsAt_of_not_stops label condition state
    (not_stops_of_lt hk (List.mem_range.mp hi))

/-- Below `2 ^ 32` evaluations, no number in the trace is reduced. -/
theorem trace_mod {k : Nat} (hk : k + 1 < UInt32.size) (result : Except (PollError ε) Unit) :
    p.trace label condition state (· % UInt32.size) result k =
      p.trace label condition state id result k := by
  have hlt : ∀ i ∈ List.range k, (i + 1) % UInt32.size = i + 1 := fun i hi =>
    Nat.mod_eq_of_lt (Nat.lt_of_le_of_lt (List.mem_range.mp hi) (Nat.lt_of_succ_lt hk))
  simp only [trace, Nat.mod_eq_of_lt hk, id_eq]
  congr 1
  refine List.flatMap_congr fun i hi => ?_
  rw [hlt i hi]

/-! ### Polls that have ended -/

/-- The times of the evaluations are those of the schedule. -/
theorem length_starts_finishedAt (k : Nat) :
    (p.finishedAt label condition state k).starts.length = k + 1 := by
  simp [finishedAt]

end

/-- **The trace of a poll.**  Take a poll that has ended, whichever way it waits, after `k + 1`
evaluations, fewer than `2 ^ 32`.  Its reports are those of the evaluations, and behind each
evaluation but the last one the report that the condition does not hold yet; behind the last one
stands the report that the poll is done if the condition holds, and nothing otherwise.  Each of them
tells the condition, the number of the evaluation and when it ended, in a text that tells the very
time.  The error of a poll is one more report: after a timeout it tells the number of the last
evaluation and when that one ended, and after a failure the error that the last evaluation gave,
with all its causes, each between parentheses after what it is the cause of. -/
theorem waitFor_events (p : Policy) (label : String) (condition : Condition σ ε) (state : σ)
    {fuel : Nat} {f : Finished σ ε}
    (hf : p.waitFor label condition fuel { state } = some f ∨
      p.waitForTimer label condition fuel state = some f)
    (hcount : f.starts.length < UInt32.size) :
    ∃ k, f.starts = (List.range (k + 1)).map (p.startAt condition state) ∧
      f.elapsed = p.endAt condition state k ∧
      f.events = p.trace label condition state id f.result k ∧
      (∀ elapsed : Duration, elapsed.IsToldBy elapsed.text) ∧
      (∀ c elapsed attempts, f.result = .error (.timeout c elapsed attempts) →
        ∀ causes : ε → List String, (PollError.timeout c elapsed attempts).event causes =
          { level := .warn
            component := .poll
            message := "timeout occurred while waiting for " ++ label
            fields := reportFields label (p.endAt condition state k) (k + 1) }) ∧
      (∀ c e, f.result = .error (.failed c e) →
        (p.evaluationAt condition state k).answer = .error e ∧ ∀ causes,
          (PollError.failed c e).event causes =
            { level := .warn
              component := .poll
              message := "error while waiting for " ++ label
              fields := [("condition", label),
                ("error", " (".intercalate (causes e) ++
                  String.ofList (List.replicate ((causes e).length - 1) ')'))] }) := by
  obtain ⟨k, -, hk, rfl⟩ := p.exists_eq_finishedAt label condition state hf
  rw [length_starts_finishedAt] at hcount
  refine ⟨k, rfl, rfl, ?_, Duration.isToldBy_text, ?_, ?_⟩
  · rw [events_finishedAt p label condition state hk, trace_mod p label condition state hcount]
  · intro c elapsed attempts hresult causes
    obtain ⟨-, rfl, rfl, rfl⟩ := (conclusion_eq_timeout_iff label).mp hresult
    rw [PollError.event, reportFields, toNat_attempts hcount]
    rfl
  · intro c e hresult
    obtain ⟨hanswer, rfl⟩ := (conclusion_eq_failed_iff label).mp hresult
    refine ⟨hanswer, fun causes => ?_⟩
    rw [← chainText_eq_intercalate]
    rfl

/-- A condition that reports each look at it, looked at every two seconds for 1.5 milliseconds each,
is looked at twice within two seconds: the poll reports between the two looks, and its timeout is
told with the second one.  When the second look fails, the file that could not be read is told with
its causes. -/
theorem waitFor_events_twice :
    let looked : Event := ⟨.debug, .check, "looked", []⟩
    let never : Condition Nat String := fun n _ =>
      ({ answer := .ok false, took := 1500000, events := [looked] }, n + 1)
    let fails : Condition Nat String := fun n _ =>
      ({ answer := if n = 0 then .ok false else .error "broken", events := [looked] }, n + 1)
    (∃ f, waitFor ⟨2000000000, 2000000000⟩ "links up" never 5 { state := 0 } = some f ∧
      f.starts.length < UInt32.size ∧
      f.events =
        [looked,
          { level := .debug
            component := .poll
            message := "condition not met yet"
            fields := [("condition", "links up"), ("elapsed", "1.5ms"), ("attempts", "1")] },
          looked] ∧
      ∃ e, f.result = .error e ∧ ∀ causes, e.event causes =
        { level := .warn
          component := .poll
          message := "timeout occurred while waiting for links up"
          fields := [("condition", "links up"), ("elapsed", "2.003s"), ("attempts", "2")] }) ∧
    ∃ f, waitFor ⟨2000000000, 2000000000⟩ "links up" fails 5 { state := 0 } = some f ∧
      f.starts.length < UInt32.size ∧
      f.events =
        [looked,
          { level := .debug
            component := .poll
            message := "condition not met yet"
            fields := [("condition", "links up"), ("elapsed", "0ns"), ("attempts", "1")] },
          looked] ∧
      ∃ e, f.result = .error e ∧ (e.event fun m => [m, "no answer", "no such file"]) =
        { level := .warn
          component := .poll
          message := "error while waiting for links up"
          fields :=
            [("condition", "links up"), ("error", "broken (no answer (no such file))")] } := by
  intro looked never fails
  constructor
  · have hrun : (waitFor ⟨2000000000, 2000000000⟩ "links up" never 5 { state := 0 }).map
        (fun f => (f.starts, f.result)) =
          some ([0, 2001500000], .error (.timeout "links up" 2003000000 2)) := by cbv
    obtain ⟨f, hf, hends⟩ := Option.map_eq_some_iff.mp hrun
    obtain ⟨hstarts, hresult⟩ := Prod.mk.inj hends
    have hcount : f.starts.length < UInt32.size := by
      rw [hstarts]
      decide
    obtain ⟨k, hk, -, hevents, -, htimeout, -⟩ :=
      waitFor_events ⟨2000000000, 2000000000⟩ "links up" never 0 (.inl hf) hcount
    have hlast : k = 1 := by simpa [hstarts] using (congrArg List.length hk).symm
    subst hlast
    refine ⟨f, hf, hcount, hevents.trans ?_, _, hresult, fun causes => ?_⟩
    · rw [hresult]
      cbv
    · rw [htimeout _ _ _ hresult causes]
      cbv
  · have hrun : (waitFor ⟨2000000000, 2000000000⟩ "links up" fails 5 { state := 0 }).map
        (fun f => (f.starts, f.result)) =
          some ([0, 2000000000], .error (.failed "links up" "broken")) := by cbv
    obtain ⟨f, hf, hends⟩ := Option.map_eq_some_iff.mp hrun
    obtain ⟨hstarts, hresult⟩ := Prod.mk.inj hends
    have hcount : f.starts.length < UInt32.size := by
      rw [hstarts]
      decide
    obtain ⟨k, hk, -, hevents, -, -, hfailed⟩ :=
      waitFor_events ⟨2000000000, 2000000000⟩ "links up" fails 0 (.inl hf) hcount
    have hlast : k = 1 := by simpa [hstarts] using (congrArg List.length hk).symm
    subst hlast
    refine ⟨f, hf, hcount, hevents.trans ?_, _, hresult, ?_⟩
    · rw [hresult]
      cbv
    · rw [(hfailed _ _ hresult).2]
      rfl

end Convergence.Policy
