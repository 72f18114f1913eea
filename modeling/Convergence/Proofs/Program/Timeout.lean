import Convergence.Proofs.Config.Load
import Convergence.Proofs.Program.Command
import Convergence.Proofs.Program.Exit

/-!
# `Convergence.Proofs.Program.Timeout`: what each exit code of the program stands for

Four layers can end the program: the command line, the configuration, the log file and the run.
`Ends` lists the ways in which they do, each with its exit code.  The list is complete and no two of
the ways occur together (`exits_iff_ends`), so an exit code can be read backwards, which is what
`exitCode_table` does.  Two stands for a failed read, three for a bad input and 101 for a log file
that cannot be made, and for nothing else.  One does not stand for a timeout alone: a command line
that is refused has the same code, although a bad value of one of its options has the code of a bad
input.

Whether a log file can be made is for the surroundings to say.  What the program writes to its
standard output and error is taken to be written.
-/

set_option autoImplicit false

namespace Convergence

/-- The exit status of a poll whose last evaluation has this answer. -/
def ExitStatus.ofAnswer {ε : Type} : Except ε Bool → ExitStatus
  | .ok true => converged
  | .ok false => timedOut
  | .error _ => unreadable

/-- It is the one whose code says what the answer is. -/
theorem ExitStatus.tells_iff {ε : Type} {code : Nat} {answer : Except ε Bool} :
    Tells code answer ↔ code = (ofAnswer answer).code := by
  constructor
  · intro h
    rcases answer with e | (_ | _)
    · exact h.unreadable.mpr ⟨e, rfl⟩
    · exact h.timedOut.mpr rfl
    · exact h.converged.mpr rfl
  · rintro rfl
    rcases answer with e | (_ | _) <;> constructor <;> simp [ofAnswer, ExitStatus.code]

/-! ### How the program ends -/

section

variable (args : List String) (w : Surroundings)

/-- Given enough evaluations, the command ends with this exit code. -/
def Exits (code : Nat) : Prop :=
  ∃ fuel c, (command (w.world fuel) args).run {} = some (code, c)

/-- The command line gives these arguments, and the configuration this policy and no log file that
cannot be made: the program comes to its run. -/
structure Reaches (a : Arguments) (configured : Policy) : Prop where
  accepted : Arguments.parse args = .ok a
  configured : ∃ loaded, Config.load a.configPath (w.files a.configPath 0) = .ok loaded ∧
    w.logFailure? loaded.config.logging = none ∧ loaded.config.poll = configured

/-- The program carries out this plan. -/
def Follows (a : Arguments) (p : Plan) : Prop :=
  ∃ configured, Reaches args w a configured ∧ p.IsFor a configured (w.files a.expected 0)

/-- The program polls, and the last evaluation has this answer. -/
def PollEnds (answer : Except ReadError Bool) : Prop :=
  ∃ (a : Arguments) (p : Plan) (last : Nat), Follows args w a p ∧ p.expected.isEmpty = false ∧
    p.IsLast (w.snapshot a) last ∧ p.answerAt (w.snapshot a) last = answer

/-- The program polls without an interval, and no evaluation is the last. -/
def PollsForever : Prop :=
  ∃ (a : Arguments) (p : Plan), Follows args w a p ∧ p.expected.isEmpty = false ∧
    p.policy.interval = 0 ∧ ∀ last, ¬p.IsLast (w.snapshot a) last

/-- The ways in which the program ends, with their exit codes. -/
inductive Ends : Nat → Prop
  | help : Arguments.parse args = .error .help → Ends 0
  | version : Arguments.parse args = .error .version → Ends 0
  | misused {e : UsageError} : Arguments.parse args = .error (.wrong e) → Ends 1
  | badConfig {a : Arguments} {err : InputError} :
    Arguments.parse args = .ok a →
      Config.load a.configPath (w.files a.configPath 0) = .error err → Ends 3
  | brokenOff {a : Arguments} {loaded : Config.Loaded} {reason : String} :
    Arguments.parse args = .ok a →
      Config.load a.configPath (w.files a.configPath 0) = .ok loaded →
        w.logFailure? loaded.config.logging = some reason → Ends 101
  | badInput {a : Arguments} {configured : Policy} :
    Reaches args w a configured → a.HasBadInput (w.files a.expected 0) → Ends 3
  | nothingExpected {a : Arguments} {p : Plan} :
    Follows args w a p → p.expected.isEmpty = true → Ends 0
  | converged : PollEnds args w (.ok true) → Ends 0
  | timedOut : PollEnds args w (.ok false) → Ends 1
  | unreadable {e : ReadError} : PollEnds args w (.error e) → Ends 2

end

/-! ### Each of the ways decides the exit code -/

variable {args : List String} {w : Surroundings} {a : Arguments} {configured : Policy} {p : Plan}
  {code code' : Nat} {answer : Except ReadError Bool}

/-- The command ends as the process does. -/
theorem exits_iff_exitCode :
    Exits args w code ↔ ∃ fuel process, program args w fuel = some process ∧
      process.exitCode = code := by
  simp only [Exits, Surroundings.run_command, Option.map_eq_some_iff, Prod.mk.injEq]
  refine exists_congr fun fuel => ⟨?_, ?_⟩
  · rintro ⟨c, process, h, hcode, -⟩
    exact ⟨process, h, hcode⟩
  · rintro ⟨process, h, hcode⟩
    exact ⟨_, process, h, hcode, rfl⟩

/-- A program that ends without an evaluation ends in one way. -/
theorem exits_iff_of_program {process : Process}
    (h : ∀ fuel, program args w fuel = some process) :
    Exits args w code ↔ code = process.exitCode := by
  simp [exits_iff_exitCode, h, eq_comm]

/-- A log file that cannot be made is one that is asked for. -/
theorem Surroundings.logFailure?_eq_some_iff {logging : Logging} {reason : String} :
    w.logFailure? logging = some reason ↔
      logging.file.enabled = true ∧ w.logFailure logging.file = some reason := by
  simp [logFailure?]

/-- A program whose log file cannot be made ends with that. -/
theorem program_of_logFailure {loaded : Config.Loaded} {reason : String}
    (hargs : Arguments.parse args = .ok a)
    (hload : Config.load a.configPath (w.files a.configPath 0) = .ok loaded)
    (hlog : w.logFailure? loaded.config.logging = some reason) (fuel : Nat) :
    program args w fuel = some (.brokenOff loaded reason) := by
  simp only [program, hargs, hload, hlog]

/-- A program that comes to its run ends as the run does. -/
theorem Reaches.exits_iff (h : Reaches args w a configured) :
    Exits args w code ↔ ∃ fuel r,
      a.run configured (w.files a.expected 0) (w.snapshot a) fuel = some r ∧
        r.ending.status.code = code := by
  obtain ⟨haccepted, loaded, hloaded, hlog, rfl⟩ := h
  rw [exits_iff_exitCode]
  refine exists_congr fun fuel => ?_
  have hprogram : program args w fuel =
      (a.run loaded.config.poll (w.files a.expected 0) (w.snapshot a) fuel).map
        (.ran loaded (LogFilter.parse w.filter).1 (LogFilter.parse w.filter).2) := by
    simp only [program, haccepted, hloaded, hlog]
  rw [hprogram]
  cases a.run loaded.config.poll (w.files a.expected 0) (w.snapshot a) fuel with
  | none => simp
  | some r => simp [Process.exitCode]

/-- So does one that follows a plan. -/
theorem Follows.exits_iff (h : Follows args w a p) :
    Exits args w code ↔ ∃ fuel r,
      p.run a.label (w.snapshot a) fuel = some r ∧ r.ending.status.code = code := by
  obtain ⟨configured, h, hp⟩ := h
  simp only [h.exits_iff, Arguments.run_of_isFor hp]

/-- The exit code of a poll is that of the answer of its last evaluation. -/
theorem PollEnds.exits_iff (h : PollEnds args w answer) :
    Exits args w code ↔ code = (ExitStatus.ofAnswer answer).code := by
  obtain ⟨a, p, last, h, hexpected, hlast, rfl⟩ := h
  rw [h.exits_iff]
  constructor
  · rintro ⟨fuel, r, hr, rfl⟩
    obtain ⟨last', hlast', -, hend⟩ := Plan.exists_endsWith_of_run hexpected hr
    -- Whatever it was given, the run has ended with the same evaluation.
    rw [hlast.unique hlast']
    exact ExitStatus.tells_iff.mp hend.code
  · rintro rfl
    obtain ⟨r, hr, hend⟩ := Plan.exists_run_endsWith hexpected hlast last.lt_succ_self
    exact ⟨_, r, hr, ExitStatus.tells_iff.mp hend.code⟩

/-- A program that polls forever does not end. -/
theorem PollsForever.not_exits (h : PollsForever args w) : ¬Exits args w code := by
  obtain ⟨a, p, h, hexpected, -, hnever⟩ := h
  rw [h.exits_iff]
  rintro ⟨fuel, r, hr, -⟩
  rw [Plan.run_eq_none_of_forall_not_isLast hexpected hnever] at hr
  cases hr

/-- A program that ends in one of the ways has the exit code of that way and no other. -/
theorem Ends.exits_iff (h : Ends args w code) : Exits args w code' ↔ code' = code := by
  cases h with
  | help h => exact exits_iff_of_program fun fuel => by rw [program, h]
  | version h => exact exits_iff_of_program fun fuel => by rw [program, h]
  | misused h => exact exits_iff_of_program fun fuel => by rw [program, h]
  | badConfig hargs hload =>
      exact exits_iff_of_program (Config.program_of_load_eq_error hargs hload)
  | brokenOff hargs hload hlog =>
      exact exits_iff_of_program (program_of_logFailure hargs hload hlog)
  | badInput h hbad =>
      obtain ⟨err, herr⟩ := Arguments.exists_refusal_iff.mpr hbad
      rw [h.exits_iff]
      simp only [Arguments.run_of_refusal herr, exists_const, Option.some.injEq, exists_eq_left']
      exact eq_comm
  | nothingExpected h hempty =>
      rw [h.exits_iff]
      simp only [Plan.run_of_isEmpty hempty, exists_const, Option.some.injEq, exists_eq_left']
      exact eq_comm
  | converged h => exact h.exits_iff
  | timedOut h => exact h.exits_iff
  | unreadable h => exact h.exits_iff

/-! ### There are no others -/

/-- A program that follows a plan ends, or polls forever. -/
theorem Follows.exists_ends (h : Follows args w a p) :
    (∃ code, Ends args w code) ∨ PollsForever args w := by
  cases hempty : p.expected.isEmpty with
  | true => exact .inl ⟨_, .nothingExpected h hempty⟩
  | false =>
      by_cases hlast : ∃ last, p.IsLast (w.snapshot a) last
      · obtain ⟨last, hlast⟩ := hlast
        have hpoll : PollEnds args w (p.answerAt (w.snapshot a) last) :=
          ⟨a, p, last, h, hempty, hlast, rfl⟩
        rcases hanswer : p.answerAt (w.snapshot a) last with e | (_ | _)
        · exact .inl ⟨_, .unreadable (hanswer ▸ hpoll)⟩
        · exact .inl ⟨_, .timedOut (hanswer ▸ hpoll)⟩
        · exact .inl ⟨_, .converged (hanswer ▸ hpoll)⟩
      · have hinterval : p.policy.interval = 0 :=
          Nat.eq_zero_of_not_pos fun hpos => hlast (p.exists_isLast _ hpos)
        exact .inr ⟨a, p, h, hempty, hinterval, not_exists.mp hlast⟩

/-- Every program ends in one of the ways, or polls forever. -/
theorem exists_ends (args : List String) (w : Surroundings) :
    (∃ code, Ends args w code) ∨ PollsForever args w := by
  rcases hargs : Arguments.parse args with (_ | _ | e) | a
  · exact .inl ⟨_, .help hargs⟩
  · exact .inl ⟨_, .version hargs⟩
  · exact .inl ⟨_, .misused hargs⟩
  · rcases hload : Config.load a.configPath (w.files a.configPath 0) with err | loaded
    · exact .inl ⟨_, .badConfig hargs hload⟩
    · rcases hlog : w.logFailure? loaded.config.logging with _ | reason
      · have h : Reaches args w a loaded.config.poll := ⟨hargs, loaded, hload, hlog, rfl⟩
        by_cases hbad : a.HasBadInput (w.files a.expected 0)
        · exact .inl ⟨_, .badInput h hbad⟩
        · obtain ⟨p, hp⟩ := (Plan.exists_isFor_iff loaded.config.poll).mpr hbad
          exact Follows.exists_ends ⟨_, h, hp⟩
      · exact .inl ⟨_, .brokenOff hargs hload hlog⟩

/-- The ways in which the program ends are those that are listed. -/
theorem exits_iff_ends : Exits args w code ↔ Ends args w code := by
  refine ⟨fun h => ?_, fun h => h.exits_iff.mpr rfl⟩
  -- Some way is taken or none, and the way that is taken has one exit code.
  rcases exists_ends args w with ⟨code', hends⟩ | hforever
  · rwa [hends.exits_iff.mp h]
  · exact absurd h hforever.not_exits

/-- No program ends in two ways. -/
theorem Exits.unique (h : Exits args w code) (h' : Exits args w code') : code = code' :=
  (exits_iff_ends.mp h').exits_iff.mp h

/-! ### The exit code, read backwards -/

/-- **What each exit code stands for.**  Zero stands for a poll whose last evaluation answered true,
for an expectation that names nothing, and for a command line that asks for the help or the version.
One stands for a poll whose last evaluation answered false, and for a command line that is refused.
Two stands for a poll whose last evaluation failed, and three for a bad configuration, option or
expectation.  101 stands for a configuration that asks for a log file which cannot be made.  There
is no other exit code, no program has two, and only a poll without an interval may have none. -/
theorem exitCode_table (args : List String) (w : Surroundings) :
    (Exits args w 0 ↔ PollEnds args w (.ok true) ∨
      (∃ a p, Follows args w a p ∧ p.expected.isEmpty = true) ∨
      Arguments.parse args = .error .help ∨ Arguments.parse args = .error .version) ∧
    (Exits args w 1 ↔ PollEnds args w (.ok false) ∨
      ∃ e, Arguments.parse args = .error (.wrong e)) ∧
    (Exits args w 2 ↔ ∃ e, PollEnds args w (.error e)) ∧
    (Exits args w 3 ↔
      (∃ a err, Arguments.parse args = .ok a ∧
        Config.load a.configPath (w.files a.configPath 0) = .error err) ∨
      ∃ a configured, Reaches args w a configured ∧ a.HasBadInput (w.files a.expected 0)) ∧
    (Exits args w 101 ↔ ∃ a loaded reason, Arguments.parse args = .ok a ∧
      Config.load a.configPath (w.files a.configPath 0) = .ok loaded ∧
      loaded.config.logging.file.enabled = true ∧
      w.logFailure loaded.config.logging.file = some reason) ∧
    (∀ code, Exits args w code → code ≤ 3 ∨ code = 101) ∧
    (∀ code code', Exits args w code → Exits args w code' → code = code') ∧
    ((∀ code, ¬Exits args w code) ↔ PollsForever args w) := by
  refine ⟨?_, ?_, ?_, ?_, ?_, fun code h => ?_, fun _ _ => Exits.unique, fun h => ?_,
    fun h code => h.not_exits⟩
  · rw [exits_iff_ends]
    constructor
    · rintro (h | h | _ | _ | _ | _ | ⟨h, hempty⟩ | h | _ | _)
      · exact .inr (.inr (.inl h))
      · exact .inr (.inr (.inr h))
      · exact .inr (.inl ⟨_, _, h, hempty⟩)
      · exact .inl h
    · rintro (h | ⟨a, p, h, hempty⟩ | h | h)
      · exact .converged h
      · exact .nothingExpected h hempty
      · exact .help h
      · exact .version h
  · rw [exits_iff_ends]
    constructor
    · rintro (_ | _ | h | _ | _ | _ | _ | _ | h | _)
      · exact .inr ⟨_, h⟩
      · exact .inl h
    · rintro (h | ⟨e, h⟩)
      · exact .timedOut h
      · exact .misused h
  · rw [exits_iff_ends]
    constructor
    · rintro (_ | _ | _ | _ | _ | _ | _ | _ | _ | h)
      exact ⟨_, h⟩
    · rintro ⟨e, h⟩
      exact .unreadable h
  · rw [exits_iff_ends]
    constructor
    · rintro (_ | _ | _ | ⟨hargs, hload⟩ | _ | ⟨h, hbad⟩ | _ | _ | _ | _)
      · exact .inl ⟨_, _, hargs, hload⟩
      · exact .inr ⟨_, _, h, hbad⟩
    · rintro (⟨a, err, hargs, hload⟩ | ⟨a, configured, h, hbad⟩)
      · exact .badConfig hargs hload
      · exact .badInput h hbad
  · rw [exits_iff_ends]
    constructor
    · rintro (_ | _ | _ | _ | ⟨hargs, hload, hlog⟩)
      exact ⟨_, _, _, hargs, hload, Surroundings.logFailure?_eq_some_iff.mp hlog⟩
    · rintro ⟨a, loaded, reason, hargs, hload, hlog⟩
      exact .brokenOff hargs hload (Surroundings.logFailure?_eq_some_iff.mpr hlog)
  · cases exits_iff_ends.mp h <;> decide
  · rcases exists_ends args w with ⟨code, hends⟩ | hforever
    · exact absurd (exits_iff_ends.mpr hends) (h code)
    · exact hforever

/-- An unknown option ends the program with one, like a timeout.  So does a poll that may take no
time and finds an interface missing, while an interval of `1s` ends it with three.  A log that is to
be kept below a file ends it with 101. -/
theorem exitCode_table_unknownOption :
    let w : Surroundings := {
      files := fun path =>
        if path = "e.toml" then
          (FileState.content "[dut-interfaces]\neth0 = \"up\"\n".toUTF8).always
        else if path = "s.json" then (FileState.content "\x7b\x7d".toUTF8).always
        else if path = "c.toml" then
          (FileState.content "[logging.file]\nenabled = true\ndir = \"e.toml\"\n".toUTF8).always
        else FileState.missing.always
      logFailure := fun f =>
        if f.dir = "e.toml" then some "Not a directory (os error 20)" else none }
    Exits ["--retries", "3"] w 1 ∧
    Exits ["-s", "s.json", "-e", "e.toml", "--timeout-ms", "0"] w 1 ∧
    Exits ["-s", "s.json", "-e", "e.toml", "--interval-ms", "1s"] w 3 ∧
    Exits ["-s", "s.json", "-e", "e.toml", "-c", "c.toml"] w 101 := by
  intro w
  refine ⟨?_, ?_, ?_, ?_⟩
  · have hargs : Arguments.parse ["--retries", "3"] = .error (.wrong .unknownArgument) := by
      decide +kernel
    exact (exitCode_table _ w).2.1.mpr (.inr ⟨_, hargs⟩)
  · let a : Arguments := ⟨"s.json", "e.toml", none, none, some "0", none⟩
    let plan : Plan := ⟨⟨.ofMillis 500, 0⟩, ({} : Expectation).withInterface "eth0" .up⟩
    have h : Reaches ["-s", "s.json", "-e", "e.toml", "--timeout-ms", "0"] w a {} :=
      ⟨by decide +kernel, _, rfl, rfl, rfl⟩
    have hplan : plan.IsFor a {} (w.files a.expected 0) := by
      exact ⟨⟨rfl, 0, Arguments.number?_eq_some_iff.mp (by decide), rfl⟩, _, rfl, by decide +kernel⟩
    have hanswer : plan.answerAt (w.snapshot a) 0 = .ok false := by decide +kernel
    have hlast : plan.IsLast (w.snapshot a) 0 := ⟨.inr (.inr (Nat.zero_le _)), fun k _ => k.zero_le⟩
    exact (exitCode_table _ w).2.1.mpr
      (.inl ⟨a, plan, 0, ⟨{}, h, hplan⟩, by decide +kernel, hlast, hanswer⟩)
  · let a : Arguments := ⟨"s.json", "e.toml", none, some "1s", none, none⟩
    have h : Reaches ["-s", "s.json", "-e", "e.toml", "--interval-ms", "1s"] w a {} :=
      ⟨by decide +kernel, _, rfl, rfl, rfl⟩
    have hinterval : ¬∃ n, Arguments.IsNumber "1s" n := Arguments.number?_eq_none_iff.mp (by decide)
    exact (exitCode_table _ w).2.2.2.1.mpr (.inr ⟨a, {}, h, .inl ⟨"1s", rfl, hinterval⟩⟩)
  · let a : Arguments := ⟨"s.json", "e.toml", some "c.toml", none, none, none⟩
    have hload : Config.load a.configPath (w.files a.configPath 0) =
        .ok ⟨{ logging := { file := { enabled := true, dir := "e.toml" } } }, none⟩ := by
      decide +kernel
    exact (exitCode_table _ w).2.2.2.2.1.mpr ⟨a, _, _, by decide +kernel, hload, rfl, rfl⟩

/-- One does not stand for a timeout alone. -/
theorem not_forall_exits_one_iff :
    ¬∀ args w, Exits args w 1 ↔ PollEnds args w (.ok false) := by
  intro h
  let w : Surroundings := { files := fun _ => FileState.missing.always }
  have hargs : Arguments.parse ["--retries", "3"] = .error (.wrong .unknownArgument) := by
    decide +kernel
  obtain ⟨a, p, last, ⟨configured, hreaches, -⟩, -⟩ :=
    (h _ w).mp (exits_iff_ends.mpr (.misused hargs))
  cases hargs.symm.trans hreaches.accepted

end Convergence
