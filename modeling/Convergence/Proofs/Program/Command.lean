import Convergence.Command
import Convergence.Proofs.Poll.Step

/-!
# `Convergence.Proofs.Program.Command`: the command does what the program says

Surroundings make a world (`Surroundings.world`), in which everything that the command does is
written down in a `Chronicle`.  `run_command` is the agreement: given as many evaluations of the
condition as `program`, the command ends if `program` does, with the exit code of its process, and
has then written, read and waited as the process says.

Most of it is the poll.  The step is `run_turn`: one turn of the command is one turn of the loop,
`Policy.step`, with the clock of the poll set to the time at which it began.  `run_poll` carries it
through the loop.
-/

set_option autoImplicit false

namespace Convergence

/-- What the command has done so far. -/
structure Chronicle where
  printed : List String := []
  complaints : List String := []
  logged : List Event := []
  used : SnapshotUse := {}
  now : Duration := 0
  deriving Inhabited

namespace Chronicle

/-- An evaluation of the condition has been made. -/
def evaluated (c : Chronicle) (took : Duration) : Chronicle :=
  { c with used.evaluations := c.used.evaluations + 1, now := c.now + took }

/-- Events have been logged, the snapshot has been used, and time has passed. -/
def goOn (c : Chronicle) (logged : List Event) (used : SnapshotUse) (elapsed : Duration) :
    Chronicle :=
  { c with logged := c.logged ++ logged, used, now := c.now + elapsed }

/-- A poll has come so far. -/
def polling (c : Chronicle) (filter : LogFilter) (x : Progress SnapshotUse) : Chronicle :=
  c.goOn (x.reported.reverse.filter filter.admits) x.state x.now

/-- A poll has ended. -/
def polled {ε : Type} (c : Chronicle) (filter : LogFilter) (f : Finished SnapshotUse ε) :
    Chronicle :=
  c.goOn (f.events.filter filter.admits) f.state f.elapsed

end Chronicle

/-- What a process has done in the end. -/
def Process.chronicle (p : Process) : Chronicle where
  printed := p.printed
  complaints := p.complaints (chainText ·.chain)
  logged := p.logged Run.events
  used := p.used
  now := p.elapsed

namespace Surroundings

/-- The world that the surroundings make.  At most `fuel` evaluations of the condition are made in
it. -/
def world (w : Surroundings) (fuel : Nat) : World (StateT Chronicle Option) where
  file path := return w.files path 0
  snapshot name := do
    let c ← get
    set { c with used.reads := c.used.reads + 1 }
    return w.files name c.used.reads
  filter := return w.filter
  makeLog f := return w.logFailure f
  log _ e := modify fun c => { c with logged := c.logged ++ [e] }
  print text := modify fun c => { c with printed := c.printed ++ [text] }
  complain text := modify fun c => { c with complaints := c.complaints ++ [text] }
  now := return (← get).now
  sleep d := modify fun c => { c with now := c.now + d }
  evaluate act := do
    let evaluations := (← get).used.evaluations
    if fuel ≤ evaluations then failure
    else
      let answer ← act
      modify (·.evaluated (w.took evaluations))
      return answer

/-! ### One thing after another -/

/-- What is done next begins where the first thing ended. -/
theorem run_bind_of {α β : Type} {x : StateT Chronicle Option α} {k : α → StateT Chronicle Option β}
    {c c' : Chronicle} {r : α} (h : x.run c = some (r, c')) : (x >>= k).run c = (k r).run c' := by
  rw [StateT.run_bind, h]
  rfl

/-- What a list of actions does that add to the chronicle, each for itself. -/
theorem run_forM {α : Type} {act : α → StateT Chronicle Option Unit}
    (add : List α → Chronicle → Chronicle) (hnil : ∀ c, add [] c = c)
    (hcons : ∀ x xs c, ∃ c', (act x).run c = some ((), c') ∧ add xs c' = add (x :: xs) c)
    (xs : List α) (c : Chronicle) : (xs.forM act).run c = some ((), add xs c) := by
  induction xs generalizing c with
  | nil =>
      rw [hnil]
      rfl
  | cons x xs ih =>
      obtain ⟨c', hact, hadd⟩ := hcons x xs c
      rw [List.forM_eq_forM, List.forM_cons, run_bind_of hact, ← hadd]
      exact ih c'

section
variable (w : Surroundings) (fuel : Nat) (c : Chronicle)

theorem run_forM_print (texts : List String) :
    (texts.forM (w.world fuel).print).run c =
      some ((), { c with printed := c.printed ++ texts }) :=
  run_forM (fun texts c => { c with printed := c.printed ++ texts }) (by simp)
    (fun _ _ _ => ⟨_, rfl, by simp⟩) texts c

theorem run_forM_complain (texts : List String) :
    (texts.forM (w.world fuel).complain).run c =
      some ((), { c with complaints := c.complaints ++ texts }) :=
  run_forM (fun texts c => { c with complaints := c.complaints ++ texts }) (by simp)
    (fun _ _ _ => ⟨_, rfl, by simp⟩) texts c

variable (logging : Logging) (filter : LogFilter)

/-- An event is logged if the filter admits it. -/
theorem run_report (e : Event) :
    ((w.world fuel).report logging filter e).run c =
      some ((), c.goOn ([e].filter filter.admits) c.used 0) := by
  rw [World.report]
  cases h : filter.admits e with
  | true =>
      simp only [if_true]
      show some _ = some _
      simp [h, Chronicle.goOn]
  | false => simp [h, Chronicle.goOn]

theorem run_forM_report (events : List Event) :
    (events.forM ((w.world fuel).report logging filter)).run c =
      some ((), c.goOn (events.filter filter.admits) c.used 0) := by
  refine run_forM (fun es c => c.goOn (es.filter filter.admits) c.used 0)
    (by simp [Chronicle.goOn])
    (fun e es c => ⟨_, run_report w fuel c logging filter e, ?_⟩) events c
  cases h : filter.admits e <;> simp [h, Chronicle.goOn]

/-! ### The poll -/

variable (a : Arguments)

/-- An inspection of the snapshot asks it as often as it would by itself. -/
theorem run_inspection {α : Type} (x : Inspection α) :
    (x.runM ((w.world fuel).get a.snapshot)).run c =
      some (((x.runM (w.snapshot a).get).run c.used.reads).1,
        { c with used.reads := ((x.runM (w.snapshot a).get).run c.used.reads).2 }) := by
  induction x generalizing c with
  | answer r => rfl
  | abort e => rfl
  | note e rest ih =>
      rw [Inspection.runM, run_bind_of (ih c)]
      rfl
  | look path rest ih =>
      have hget : ((w.world fuel).get a.snapshot path).run c =
          some ((w.files a.snapshot c.used.reads).source a.snapshot path,
            { c with used.reads := c.used.reads + 1 }) := rfl
      have hsource : ((w.snapshot a).history c.used.reads).source (w.snapshot a).name path =
          (w.files a.snapshot c.used.reads).source a.snapshot path := rfl
      simp only [Inspection.runM, StateT.run_bind, hget, Snapshot.run_get, hsource]
      cases (w.files a.snapshot c.used.reads).source a.snapshot path with
      | ok v => exact ih v _
      | error e => rfl

variable (p : Plan)

/-- The condition of the command is that of the snapshot, whatever the time is. -/
theorem run_condition {c : Chronicle} (h : c.used.evaluations < fuel) (t : Duration) :
    ((w.world fuel).condition ((w.world fuel).report logging filter) a.snapshot p.expected).run c =
      let r := (w.snapshot a).condition p.expected c.used t
      some (r.1.answer, c.goOn (r.1.events.filter filter.admits) r.2 r.1.took) := by
  have hevaluate (act : StateT Chronicle Option (Except ReadError Bool)) :
      ((w.world fuel).evaluate act).run c =
        (act.run c).map fun r => (r.1, r.2.evaluated (w.took c.used.evaluations)) := by
    simp only [world, StateT.run_bind, StateT.run_get, pure_bind, if_neg (Nat.not_le_of_lt h)]
    cases act.run c <;> rfl
  rw [World.condition, hevaluate, run_bind_of (run_inspection ..),
    run_bind_of (run_forM_report ..)]
  rfl

/-- Evaluations beyond those that are given are not made. -/
theorem run_condition_eq_none {c : Chronicle} (h : fuel ≤ c.used.evaluations) :
    ((w.world fuel).condition ((w.world fuel).report logging filter) a.snapshot p.expected).run c =
      none := by
  simp only [World.condition, world, StateT.run_bind, StateT.run_get, pure_bind, if_pos h]
  rfl

/-- One turn of the command is one turn of the loop. -/
theorem run_turn (x : Progress SnapshotUse) (h : x.state.evaluations < fuel) :
    (p.turn (w.world fuel) ((w.world fuel).report logging filter) a c.now x.attempts).run
        (c.polling filter x) =
      match p.policy.step a.label ((w.snapshot a).condition p.expected) x with
      | .going x' => some (.inl x'.attempts, c.polling filter x')
      | .ended f => some (.inr f.result, c.polled filter f) := by
  rw [Plan.turn, run_bind_of (run_condition w fuel logging filter a p h x.now), Policy.step]
  -- Both sides evaluate the condition in the same state, and whatever comes of it, go on alike.
  have hused : (c.polling filter x).used = x.state := rfl
  rw [hused]
  generalize (w.snapshot a).condition p.expected x.state x.now = r
  obtain ⟨y, state⟩ := r
  have hnow (c' : Chronicle) (h : c'.now = c.now + (x.now + y.took)) :
      (w.world fuel).now.run c' = some (c.now + (x.now + y.took), c') := by
    rw [← h]
    rfl
  dsimp only
  rw [run_bind_of (hnow _ (Nat.add_assoc ..)), Nat.add_sub_cancel_left,
    run_bind_of (run_forM_report ..)]
  cases p.policy.judge a.label (x.now + y.took) (x.attempts + 1) y.answer with
  | again =>
      show some _ = some _
      simp [Chronicle.polling, Chronicle.goOn, Nat.add_assoc]
  | stop result =>
      show some _ = some _
      simp [Chronicle.polling, Chronicle.polled, Chronicle.goOn, Nat.add_assoc]

/-- A turn of the loop makes one evaluation. -/
theorem evaluations_of_step {x x' : Progress SnapshotUse}
    (h : p.policy.step a.label ((w.snapshot a).condition p.expected) x = .going x') :
    x'.state.evaluations = x.state.evaluations + 1 := by
  unfold Policy.step at h
  dsimp only at h
  split at h
  · cases h
    rfl
  · cases h

/-- The loop of the command is the loop of the poll. -/
theorem run_poll (n : Nat) (x : Progress SnapshotUse) (h : x.state.evaluations + n = fuel) :
    (repeatM (p.turn (w.world fuel) ((w.world fuel).report logging filter) a c.now)
        x.attempts).run (c.polling filter x) =
      (p.policy.waitFor a.label ((w.snapshot a).condition p.expected) n x).map fun f =>
        (f.result, c.polled filter f) := by
  induction n generalizing x with
  | zero =>
      rw [repeatM_eq_of_monadTail, repeatM.body, StateT.run_bind, Plan.turn, StateT.run_bind,
        run_condition_eq_none _ _ _ _ _ _ (Nat.le_of_eq h.symm)]
      rfl
  | succ n ih =>
      have hturn := run_turn w fuel c logging filter a p x (by omega)
      rw [repeatM_eq_of_monadTail, repeatM.body, Policy.waitFor_succ]
      cases hstep : p.policy.step a.label ((w.snapshot a).condition p.expected) x with
      | going x' =>
          rw [hstep] at hturn
          rw [run_bind_of hturn]
          refine ih x' ?_
          rw [evaluations_of_step w a p hstep]
          omega
      | ended f =>
          rw [hstep] at hturn
          rw [run_bind_of hturn]
          rfl

/-! ### The program -/

variable {c}

/-- The command carries out a plan as it is carried out in `program`. -/
theorem run_plan (hc : c.used = {}) :
    (p.carryOut (w.world fuel) ((w.world fuel).report logging filter) a).run c =
      (p.run a.label (w.snapshot a) fuel).map fun r =>
        (r.ending, c.goOn (r.reported.filter filter.admits) r.used r.elapsed) := by
  rw [Plan.carryOut, Plan.run]
  cases p.expected.isEmpty with
  | true =>
      show some _ = some _
      simp [Chronicle.goOn, ← hc]
  | false =>
      have hreport := run_report w fuel c logging filter (p.announcement a.label)
      generalize hbegun : c.goOn _ _ _ = begun at hreport
      have hnow : (w.world fuel).now.run begun = some (begun.now, begun) := rfl
      have hpoll :=
        run_poll w fuel begun logging filter a p fuel { state := {} } (Nat.zero_add fuel)
      have hfresh : begun.polling filter { state := {} } = begun := by
        rw [← hbegun]
        simp [Chronicle.polling, Chronicle.goOn, hc]
      rw [hfresh] at hpoll
      simp only [Bool.false_eq_true, if_false]
      rw [run_bind_of hreport, run_bind_of hnow, StateT.run_bind, hpoll]
      cases p.policy.waitFor a.label ((w.snapshot a).condition p.expected) fuel { state := {} } with
      | none => rfl
      | some f =>
          have hfilter : (p.announcement a.label :: f.events).filter filter.admits =
              [p.announcement a.label].filter filter.admits ++ f.events.filter filter.admits :=
            List.filter_append [_] _
          simp only [Option.map_some, hfilter, ← hbegun, Chronicle.polled, Chronicle.goOn,
            List.append_assoc, Nat.add_zero]
          rfl

/-- So it does with a run. -/
theorem run_arguments (configured : Policy) (hc : c.used = {}) :
    (a.carryOut (w.world fuel) ((w.world fuel).report logging filter) configured).run c =
      (a.run configured (w.files a.expected 0) (w.snapshot a) fuel).map fun r =>
        (r.ending, c.goOn (r.reported.filter filter.admits) r.used r.elapsed) := by
  have hfile : ((w.world fuel).file a.expected).run c = some (w.files a.expected 0, c) := rfl
  rw [Arguments.carryOut, run_bind_of hfile, Arguments.run]
  cases Plan.make a configured (w.files a.expected 0) with
  | error e =>
      show some _ = some _
      simp [Chronicle.goOn, ← hc]
  | ok p => exact run_plan w fuel logging filter a p hc

end

/-- **The command does what the program says.** -/
theorem run_command (args : List String) (w : Surroundings) (fuel : Nat) :
    (command (w.world fuel) args).run {} =
      (program args w fuel).map fun p => (p.exitCode, p.chronicle) := by
  rw [command, program]
  cases Arguments.parse args with
  | error stop =>
      dsimp only
      rw [run_bind_of (run_forM_print ..), run_bind_of (run_forM_complain ..)]
      rfl
  | ok a =>
      dsimp only
      have hfile : ((w.world fuel).file a.configPath).run {} = some (w.files a.configPath 0, {}) :=
        rfl
      rw [run_bind_of hfile]
      cases Config.load a.configPath (w.files a.configPath 0) with
      | error e => rfl
      | ok loaded =>
        dsimp only
        rw [run_bind_of (run_forM_complain ..)]
        have hlog (c : Chronicle) : ((w.world fuel).startLog loaded.config.logging).run c =
            some (w.logFailure? loaded.config.logging, c) := by
          rw [World.startLog, logFailure?]
          split <;> rfl
        rw [run_bind_of (hlog _)]
        cases w.logFailure? loaded.config.logging with
        | some reason => rfl
        | none =>
          have hfilter (c : Chronicle) : ((w.world fuel).filter).run c = some (w.filter, c) := rfl
          rw [run_bind_of (hfilter _), run_bind_of (run_forM_complain ..), StateT.run_bind,
            run_arguments]
          · cases a.run loaded.config.poll (w.files a.expected 0) (w.snapshot a) fuel with
            | none => rfl
            | some r =>
                rw [Option.map_some, Option.bind_eq_bind, Option.bind_some,
                  run_bind_of (run_forM_complain ..), run_bind_of (run_forM_report ..)]
                show some _ = some _
                simp [Process.chronicle, Process.exitCode, Process.printed, Process.complaints,
                  Process.logged, Process.used, Process.elapsed, Run.events, Chronicle.goOn]
          · rfl

end Surroundings

end Convergence
