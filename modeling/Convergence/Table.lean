import Convergence.Telemetry.Record

/-!
# `Convergence.Table`: text tables

The last telemetry seen is logged as a table: an empty line, the title, a rule, the column names,
one line per row and the rule again.  A cell is padded to the width of its column and never cut.
-/

set_option autoImplicit false

namespace Convergence

/-- A table with columns of fixed width. -/
structure Table where
  title : String
  /-- The length of the rules. -/
  width : Nat
  columns : List (String × Nat)
  rows : List (List String) := []
  deriving DecidableEq, Repr

namespace Table

/-- There are no rows. -/
def isEmpty (t : Table) : Bool := t.rows.isEmpty

/-- The text followed by blanks up to the width. -/
def pad (width : Nat) (s : String) : List Char :=
  s.toList ++ List.replicate (width - s.toList.length) ' '

/-- The cells of one line; those beyond the last column are left out. -/
def line (t : Table) (cells : List String) : List Char :=
  (List.zipWith (fun (c : String × Nat) s => pad c.2 s) t.columns cells).flatten

/-- The lines of the table. -/
def lines (t : Table) : List (List Char) :=
  let rule := List.replicate t.width '-'
  [[], t.title.toList, rule, t.line (t.columns.map (·.1))] ++ t.rows.map t.line ++ [rule]

/-- The table as text, each line ended by a line break. -/
def text (t : Table) : String :=
  String.ofList (t.lines.flatMap fun l => l ++ ['\n'])

/-- A truth value in a cell. -/
def flag (b : Bool) : String := if b then "true" else "false"

/-- A counter in a cell. -/
def count (n : UInt64) : String := natText n.toNat

/-- A small counter in a cell. -/
def smallCount (n : UInt32) : String := natText n.toNat

/-- A link-layer address in a cell, a hyphen if there is none. -/
def macCell (m : Option Mac) : String := m.elim "-" Mac.text

/-- Ports by name. -/
def ofPorts (rows : List (String × PortMetric)) : Table where
  title := "Port Metrics"
  width := 120
  columns := [("Name", 25), ("Frames Tx", 15), ("Frames Rx", 15), ("Bytes Tx", 15),
    ("Bytes Rx", 15), ("FPS Tx", 15), ("FPS Rx", 15), ("Link", 15)]
  rows := rows.map fun (name, m) =>
    [name, count m.framesTx, count m.framesRx, count m.bytesTx, count m.bytesRx,
      m.framesTxRate.text, m.framesRxRate.text, m.link.name]

/-- Flows by name. -/
def ofFlows (rows : List (String × FlowMetric)) : Table where
  title := "Flow Metrics"
  width := 80
  columns := [("Name", 25), ("Frames Tx", 15), ("Frames Rx", 15), ("FPS Tx", 15), ("FPS Rx", 15)]
  rows := rows.map fun (name, m) =>
    [name, count m.framesTx, count m.framesRx, m.framesTxRate.text, m.framesRxRate.text]

/-- BGP sessions by peer. -/
def ofBgp (title : String) (rows : List (String × BgpMetric)) : Table where
  title
  width := 140
  columns := [("Name", 15), ("State", 15), ("Flaps", 15), ("Routes Tx", 15), ("Routes Rx", 15),
    ("Route Withdraws Tx", 20), ("Route Withdraws Rx", 20), ("Keepalives Tx", 20),
    ("Keepalives Rx", 15)]
  rows := rows.map fun (name, m) =>
    [name, m.sessionState.name, count m.flaps, count m.routesAdvertised, count m.routesReceived,
      count m.routeWithdrawsSent, count m.routeWithdrawsReceived, count m.keepalivesSent,
      count m.keepalivesReceived]

/-- ISIS routers by name. -/
def ofIsis (rows : List (String × IsisMetric)) : Table where
  title := "ISIS Metrics"
  width := 120
  columns := [("Name", 15), ("L1 Ups", 15), ("L1 Flaps", 15), ("L1 DB Size", 15), ("L2 Ups", 15),
    ("L2 Flaps", 15), ("L2 DB Size", 15)]
  rows := rows.map fun (name, m) =>
    [name, smallCount m.l1SessionsUp, count m.l1SessionsFlap, smallCount m.l1DatabaseSize,
      smallCount m.l2SessionsUp, count m.l2SessionsFlap, smallCount m.l2DatabaseSize]

/-- Aggregated links by name. -/
def ofLags (rows : List (String × LagMetric)) : Table where
  title := "LAG Metrics"
  width := 120
  columns := [("Name", 25), ("Oper Status", 15), ("Member Ports UP", 20), ("Frames Tx", 15),
    ("Frames Rx", 15)]
  rows := rows.map fun (name, m) =>
    [name, m.operStatus.name, smallCount m.memberPortsUp, count m.framesTx, count m.framesRx]

/-- LACP state by port. -/
def ofLacp (rows : List (String × LacpMetric)) : Table where
  title := "LACP Metrics"
  width := 120
  columns := [("LAG", 10), ("Member Port", 15), ("Synchronization", 18), ("Collecting", 15),
    ("Distributing", 15), ("System Id", 20), ("Partner Id", 20)]
  rows := rows.map fun (port, m) =>
    [m.lagName, port, m.synchronization.name, flag m.collecting, flag m.distributing,
      macCell m.systemId, macCell m.partnerId]

/-- The members of a bundle. -/
def ofBundle (bundle : String) (members : List BundleMember) : Table where
  title := "DUT LACP Members"
  width := 80
  columns := [("Bundle", 20), ("Member", 20), ("Synchronization", 18), ("Collecting", 12),
    ("Distributing", 12)]
  rows := members.map fun m =>
    [bundle, m.interface, m.synchronization.name, flag m.collecting, flag m.distributing]

end Table

end Convergence
