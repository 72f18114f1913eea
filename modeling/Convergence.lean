import Convergence.Main
import Convergence.Proofs.Check.Failure
import Convergence.Proofs.Check.Rearrangement
import Convergence.Proofs.Check.Satisfaction
import Convergence.Proofs.Check.Scope
import Convergence.Proofs.Check.Weakening
import Convergence.Proofs.Check.MemberDown
import Convergence.Proofs.Config.Load
import Convergence.Proofs.Config.Settings
import Convergence.Proofs.Document.Updates
import Convergence.Proofs.Expectation.RoundTrip
import Convergence.Proofs.Expectation.Strict
import Convergence.Proofs.Poll.Bounds
import Convergence.Proofs.Poll.Flip
import Convergence.Proofs.Poll.Outcome
import Convergence.Proofs.Poll.Infallible
import Convergence.Proofs.Poll.LongerTimeout
import Convergence.Proofs.Program.Exit
import Convergence.Proofs.Snapshot.Call
import Convergence.Proofs.Snapshot.Source
import Convergence.Proofs.Check.Unread
import Convergence.Proofs.Snapshot.Refinement
import Convergence.Proofs.Check.Paths
import Convergence.Proofs.Program.Unreadable
import Convergence.Proofs.Snapshot.Replaced
import Convergence.Proofs.Program.Timeout
import Convergence.Proofs.Poll.Trace
import Convergence.Proofs.Poll.Attempts
import Convergence.Proofs.Mac.Grammar
import Convergence.Proofs.Check.Reported
import Convergence.Proofs.Mac.Canonical
import Convergence.Proofs.Lists
import Convergence.Proofs.Number.Literal
import Convergence.Proofs.Telemetry.Columns
import Convergence.Proofs.Telemetry.Lenient
import Convergence.Proofs.Expectation.Entries
import Convergence.Proofs.Check.Traffic
import Convergence.Proofs.Table
import Convergence.Proofs.Program.Command
import Convergence.Proofs.Duration
