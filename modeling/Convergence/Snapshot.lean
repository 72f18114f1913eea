import Convergence.Check
import Convergence.Poll.Run

/-!
# `Convergence.Snapshot`: a telemetry file that changes

A collector replaces the snapshot while the program reads it, so what the file holds is a function
of how often it has been read.  Every path that an inspection looks at is a read of its own.
-/

set_option autoImplicit false

namespace Convergence

/-- What a file holds each time it is read, counted from zero. -/
abbrev FileHistory := Nat → FileState

/-- A file that nobody writes. -/
def FileState.always (file : FileState) : FileHistory := fun _ => file

/-- A snapshot and the program's work on it. -/
structure Snapshot where
  name : String
  history : FileHistory
  /-- How long each evaluation of the condition takes, counted from zero. -/
  took : Nat → Duration := fun _ => 0

/-- How far the work on a snapshot has come. -/
structure SnapshotUse where
  reads : Nat := 0
  evaluations : Nat := 0
  deriving DecidableEq, Repr

namespace Snapshot

/-- Answers a path by one more read of the file. -/
def get (s : Snapshot) (p : Path) : StateM Nat (Except ReadError (Option Value)) := fun reads =>
  ((s.history reads).source s.name p, reads + 1)

/-- The condition that the snapshot is as expected. -/
def condition (s : Snapshot) (e : Expectation) : Condition SnapshotUse ReadError := fun u _ =>
  let (report, reads) := (e.inspect.runM s.get).run u.reads
  ({ answer := report.result, took := s.took u.evaluations, events := report.events },
    { reads, evaluations := u.evaluations + 1 })

theorem run_get (s : Snapshot) (p : Path) (reads : Nat) :
    (s.get p).run reads = (pure ((s.history reads).source s.name p, reads + 1) : Id _) := rfl

end Snapshot

end Convergence
