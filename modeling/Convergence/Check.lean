import Convergence.Expectation
import Convergence.Table
import Convergence.Telemetry.Reader

/-!
# `Convergence.Check`: does telemetry agree with an expectation

There is a check for each section of an expectation.  It reads every record that the section
names, in key order, and answers whether all of them agree.  A record that is not there yet
disagrees; only a failed read ends a check early.  What was seen is reported, so that the last
state before a timeout is in the log.  `Expectation.inspect` runs the checks that have something to
look at, up to the first that does not hold.
-/

set_option autoImplicit false

namespace Convergence

/-! ### Agreement of a record with an entry -/

/-- What is not expected agrees with everything. -/
def agreesOn {α : Type} [BEq α] (expected : Option α) (actual : α) : Bool :=
  match expected with
  | none => true
  | some x => actual == x

/-- The port is as expected. -/
def PortExpectation.agrees (x : PortExpectation) (m : PortMetric) : Bool :=
  agreesOn x.framesRx m.framesRx && agreesOn x.link m.link

/-- The flow is as expected.  Rates are compared as numbers. -/
def FlowExpectation.agrees (x : FlowExpectation) (m : FlowMetric) : Bool :=
  agreesOn x.framesRx m.framesRx && x.framesRxRate.all fun r => m.framesRxRate.eqv r

/-- The session is as expected. -/
def BgpExpectation.agrees (x : BgpExpectation) (m : BgpMetric) : Bool :=
  m.sessionState == x.state && agreesOn x.routesAdvertised m.routesAdvertised &&
    agreesOn x.routesReceived m.routesReceived

/-- The peer has learned as many prefixes as expected. -/
def PrefixExpectation.agrees (x : PrefixExpectation) (m : BgpPrefixes) : Bool :=
  m.ipv4Unicast.length == x.ipv4.toNat && m.ipv6Unicast.length == x.ipv6.toNat

/-- The router is as expected. -/
def IsisExpectation.agrees (x : IsisExpectation) (m : IsisMetric) : Bool :=
  agreesOn x.l1SessionsUp m.l1SessionsUp && agreesOn x.l2SessionsUp m.l2SessionsUp &&
    agreesOn x.l1DatabaseSize m.l1DatabaseSize && agreesOn x.l2DatabaseSize m.l2DatabaseSize

/-- The link is as expected. -/
def LagExpectation.agrees (x : LagExpectation) (m : LagMetric) : Bool :=
  m.operStatus == x.operStatus && m.memberPortsUp == x.memberPortsUp

/-- The port's LACP state is as expected. -/
def LacpExpectation.agrees (x : LacpExpectation) (m : LacpMetric) : Bool :=
  m.lagName == x.lag && m.collecting == x.collecting && m.distributing == x.distributing &&
    agreesOn x.synchronization m.synchronization

/-- The member's LACP state is as expected. -/
def MemberExpectation.agrees (x : MemberExpectation) (m : BundleMember) : Bool :=
  m.collecting == x.collecting && m.distributing == x.distributing

/-! ### Checks -/

/-- A check, named for the section that it looks at. -/
inductive Check where
  | ports
  | flows
  | traffic
  | bgp4
  | bgp6
  | bgpPrefixes
  | isis
  | lags
  | lacp
  | interfaces
  | bundles
  | bundleMembers
  | neighbors
  deriving DecidableEq, Repr

namespace Check

/-- All checks, in the order in which they are run. -/
def all : List Check :=
  [ports, flows, traffic, bgp4, bgp6, bgpPrefixes, isis, lags, lacp, interfaces, bundles,
    bundleMembers, neighbors]

/-- A report of what was seen. -/
def seen (message : String) (fields : List (String × String)) : Event where
  level := .debug
  component := .check
  message
  fields

/-- The report of a record that is not there. -/
def absent (name : String) : Event := seen "no telemetry yet" [("name", name)]

/-- Reports a table, unless it has no rows. -/
def reportTable (t : Table) : Inspection Unit :=
  if t.isEmpty then return else .report (seen t.text [])

/-- Reports one event after the other. -/
def reportAll : List Event → Inspection Unit
  | [] => return
  | e :: es => do
    .report e
    reportAll es

/-- Reads the record of every entry.  Answers the records that are there, under their names, and
whether all of them are there and agree. -/
def collect {τ χ : Type} (read : String → Inspection (Option τ)) (agrees : τ → χ → Bool) :
    List (String × χ) → Inspection (List (String × τ) × Bool)
  | [] => return ([], true)
  | (name, x) :: entries => do
    match ← read name with
    | some record =>
      let (records, ok) ← collect read agrees entries
      return ((name, record) :: records, agrees record x && ok)
    | none =>
      .report (absent name)
      let (records, _) ← collect read agrees entries
      return (records, false)

/-- Reads the record of every entry and reports a table of them. -/
def tabulate {τ χ : Type} (read : String → Inspection (Option τ)) (agrees : τ → χ → Bool)
    (table : List (String × τ) → Table) (entries : OrderedMap String χ) : Inspection Bool := do
  let (records, ok) ← collect read agrees entries.toList
  reportTable (table records)
  return ok

/-- Reads the flows.  Answers those that are there, and whether all are. -/
def readFlows : List String → Inspection (List (String × FlowMetric) × Bool)
  | [] => return ([], true)
  | name :: names => do
    match ← Telemetry.flow name with
    | some m =>
      let (records, complete) ← readFlows names
      return ((name, m) :: records, complete)
    | none =>
      let (records, _) ← readFlows names
      return (records, false)

/-- The frames that the flows have received together. -/
def received (records : List (String × FlowMetric)) : UInt64 :=
  records.foldl (fun n r => n + r.2.framesRx) 0

/-- All listed flows are there and have together received the expected number of frames. -/
def inspectTraffic (x : TrafficExpectation) : Inspection Bool := do
  let (records, complete) ← readFlows x.flows.toList
  reportTable (.ofFlows records)
  let total := received records
  .report (seen "total frames received"
    [("expected", natText x.framesRx.toNat), ("actual", natText total.toNat)])
  return complete && total == x.framesRx

/-- Every bundle has exactly the expected members, in any order. -/
def inspectBundles : List (String × List String) → Inspection Bool
  | [] => return true
  | (bundle, expected) :: entries => do
    let members := (← Telemetry.bundleMembers bundle).map (·.interface)
    .report (seen "bundled ports"
      [("bundle", bundle), ("members", ", ".intercalate members)])
    let ok ← inspectBundles entries
    return Lists.unorderedEq expected members && ok

/-- Every expected member is reported in its bundle and agrees. -/
def inspectBundleMembers :
    List (String × OrderedMap String MemberExpectation) → Inspection Bool
  | [] => return true
  | (bundle, expected) :: entries => do
    let members ← Telemetry.bundleMembers bundle
    reportTable (.ofBundle bundle members)
    let ok ← inspectBundleMembers entries
    let agree := expected.toList.all fun (name, x) =>
      members.any fun m => m.interface == name && x.agrees m
    return agree && ok

/-- Every expected address is among the neighbors that a cache holds. -/
def inspectNeighbors (read : Inspection (List Neighbor)) (message : String)
    (expected : OrderedSet Mac) : Inspection Bool := do
  if expected.isEmpty then return true
  let macs := (← read).filterMap (·.mac)
  .report (seen message
    [("expected", ", ".intercalate (expected.toList.map Mac.text)),
      ("actual", ", ".intercalate (macs.map Mac.text))])
  return Lists.containsAll expected.toList macs

/-- Runs a check. -/
def inspect (e : Expectation) : Check → Inspection Bool
  | ports => tabulate Telemetry.port (fun m x => x.agrees m) Table.ofPorts e.ports
  | flows => tabulate Telemetry.flow (fun m x => x.agrees m) Table.ofFlows e.flows
  | traffic =>
    match e.traffic with
    | none => return true
    | some x => inspectTraffic x
  | bgp4 =>
    tabulate Telemetry.bgp4 (fun m x => x.agrees m) (Table.ofBgp "BGPv4 Metrics") e.bgp4
  | bgp6 =>
    tabulate Telemetry.bgp6 (fun m x => x.agrees m) (Table.ofBgp "BGPv6 Metrics") e.bgp6
  | bgpPrefixes => do
    let (records, ok) ←
      collect Telemetry.bgpPrefixes (fun m x => x.agrees m) e.bgpPrefixes.toList
    reportAll <| records.map fun (peer, m) =>
      seen "received prefixes" [("peer", peer), ("ipv4", natText m.ipv4Unicast.length),
        ("ipv6", natText m.ipv6Unicast.length)]
    return ok
  | isis => tabulate Telemetry.isis (fun m x => x.agrees m) Table.ofIsis e.isis
  | lags => tabulate Telemetry.lag (fun m x => x.agrees m) Table.ofLags e.lags
  | lacp => tabulate Telemetry.lacp (fun m x => x.agrees m) Table.ofLacp e.lacp
  | interfaces => do
    let (records, ok) ←
      collect Telemetry.deviceInterface (fun m x => m.operStatus == x) e.interfaces.toList
    reportAll <| records.map fun (name, m) =>
      seen "DUT interface" [("name", name), ("oper_status", m.operStatus.name)]
    return ok
  | bundles => inspectBundles e.bundles.toList
  | bundleMembers => inspectBundleMembers e.bundleMembers.toList
  | neighbors => do
    let ipv4 ← inspectNeighbors Telemetry.ipv4Neighbors "IPv4 neighbor MAC entries" e.ipv4Neighbors
    let ipv6 ← inspectNeighbors Telemetry.ipv6Neighbors "IPv6 neighbor MAC entries" e.ipv6Neighbors
    return ipv4 && ipv6

/-- The expectation says something that the check looks at. -/
def isOn (e : Expectation) : Check → Bool
  | ports => !e.ports.isEmpty
  | flows => !e.flows.isEmpty
  | traffic => e.traffic.isSome
  | bgp4 => !e.bgp4.isEmpty
  | bgp6 => !e.bgp6.isEmpty
  | bgpPrefixes => !e.bgpPrefixes.isEmpty
  | isis => !e.isis.isEmpty
  | lags => !e.lags.isEmpty
  | lacp => !e.lacp.isEmpty
  | interfaces => !e.interfaces.isEmpty
  | bundles => !e.bundles.isEmpty
  | bundleMembers => !e.bundleMembers.isEmpty
  | neighbors => !e.ipv4Neighbors.isEmpty || !e.ipv6Neighbors.isEmpty

/-- Runs checks up to the first that does not hold. -/
def inspectAll (e : Expectation) : List Check → Inspection Bool
  | [] => return true
  | c :: cs => do
    if ← c.inspect e then inspectAll e cs else return false

end Check

/-- Runs every check that is on, up to the first that does not hold. -/
def Expectation.inspect (e : Expectation) : Inspection Bool :=
  Check.inspectAll e (Check.all.filter (Check.isOn e))

end Convergence
