import Convergence.Expectation
import Convergence.Telemetry.Record

/-!
# `Convergence.Expectation.Codec`: expectations as values

Reading is strict: a member that is no field is refused at every depth, so that a misspelt name
cannot turn into an expectation that checks less.  Writing gives every section, in key order.
-/

set_option autoImplicit false

namespace Convergence

/-! ### Reading -/

/-- The layout of a port. -/
def PortExpectation.schema : Schema PortExpectation where
  name := "ExpectedPort"
  fields := [
    .optional "frames-rx" (.optional .uint64) fun x r => { r with framesRx := x },
    .optional "link" (.optional LinkState.decode) fun x r => { r with link := x }]
  initial := {}
  strict := true

/-- The layout of a flow. -/
def FlowExpectation.schema : Schema FlowExpectation where
  name := "ExpectedFlow"
  fields := [
    .optional "frames-rx" (.optional .uint64) fun x r => { r with framesRx := x },
    .optional "frames-rx-rate" (.optional .rate) fun x r => { r with framesRxRate := x }]
  initial := {}
  strict := true

/-- The layout of a total of frames. -/
def TrafficExpectation.schema : Schema TrafficExpectation where
  name := "ExpectedTraffic"
  fields := [
    .mandatory "flows" (.set .string) fun x r => { r with flows := x },
    .mandatory "frames-rx" .uint64 fun x r => { r with framesRx := x }]
  initial := {}
  strict := true

/-- The layout of a BGP session. -/
def BgpExpectation.schema : Schema BgpExpectation where
  name := "ExpectedBgp"
  fields := [
    .mandatory "state" SessionState.decode fun x r => { r with state := x },
    .optional "routes-advertised" (.optional .uint64)
      fun x r => { r with routesAdvertised := x },
    .optional "routes-received" (.optional .uint64) fun x r => { r with routesReceived := x }]
  initial := {}
  strict := true

/-- The layout of numbers of prefixes. -/
def PrefixExpectation.schema : Schema PrefixExpectation where
  name := "ExpectedBgpPrefixes"
  fields := [
    .optional "ipv4" .size fun x r => { r with ipv4 := x },
    .optional "ipv6" .size fun x r => { r with ipv6 := x }]
  initial := {}
  strict := true

/-- The layout of an ISIS router. -/
def IsisExpectation.schema : Schema IsisExpectation where
  name := "ExpectedIsis"
  fields := [
    .optional "l1-sessions-up" (.optional .uint32) fun x r => { r with l1SessionsUp := x },
    .optional "l2-sessions-up" (.optional .uint32) fun x r => { r with l2SessionsUp := x },
    .optional "l1-database-size" (.optional .uint32) fun x r => { r with l1DatabaseSize := x },
    .optional "l2-database-size" (.optional .uint32) fun x r => { r with l2DatabaseSize := x }]
  initial := {}
  strict := true

/-- The layout of an aggregated link. -/
def LagExpectation.schema : Schema LagExpectation where
  name := "ExpectedLag"
  fields := [
    .mandatory "oper-status" OperStatus.decode fun x r => { r with operStatus := x },
    .mandatory "member-ports-up" .uint32 fun x r => { r with memberPortsUp := x }]
  initial := {}
  strict := true

/-- The layout of a port's LACP state. -/
def LacpExpectation.schema : Schema LacpExpectation where
  name := "ExpectedLacp"
  fields := [
    .mandatory "lag" .string fun x r => { r with lag := x },
    .mandatory "collecting" .bool fun x r => { r with collecting := x },
    .mandatory "distributing" .bool fun x r => { r with distributing := x },
    .optional "synchronization" (.optional Synchronization.decode)
      fun x r => { r with synchronization := x }]
  initial := {}
  strict := true

/-- The layout of a bundle member's LACP state. -/
def MemberExpectation.schema : Schema MemberExpectation where
  name := "ExpectedLacpMember"
  fields := [
    .mandatory "collecting" .bool fun x r => { r with collecting := x },
    .mandatory "distributing" .bool fun x r => { r with distributing := x }]
  initial := {}
  strict := true

/-- The layout of an expectation. -/
def Expectation.schema : Schema Expectation where
  name := "ExpectedState"
  fields := [
    .optional "ports" (.map PortExpectation.schema.decode) fun x r => { r with ports := x },
    .optional "flows" (.map FlowExpectation.schema.decode) fun x r => { r with flows := x },
    .optional "traffic" (.optional TrafficExpectation.schema.decode)
      fun x r => { r with traffic := x },
    .optional "bgp4" (.map BgpExpectation.schema.decode) fun x r => { r with bgp4 := x },
    .optional "bgp6" (.map BgpExpectation.schema.decode) fun x r => { r with bgp6 := x },
    .optional "bgp-prefixes" (.map PrefixExpectation.schema.decode)
      fun x r => { r with bgpPrefixes := x },
    .optional "isis" (.map IsisExpectation.schema.decode) fun x r => { r with isis := x },
    .optional "lags" (.map LagExpectation.schema.decode) fun x r => { r with lags := x },
    .optional "lacp" (.map LacpExpectation.schema.decode) fun x r => { r with lacp := x },
    .optional "dut-interfaces" (.map OperStatus.decode) fun x r => { r with interfaces := x },
    .optional "dut-bundles" (.map (.list .string)) fun x r => { r with bundles := x },
    .optional "dut-lacp-members" (.map (.map MemberExpectation.schema.decode))
      fun x r => { r with bundleMembers := x },
    .optional "ipv4-neighbor-macs" (.set .mac) fun x r => { r with ipv4Neighbors := x },
    .optional "ipv6-neighbor-macs" (.set .mac) fun x r => { r with ipv6Neighbors := x }]
  initial := {}
  strict := true

/-! ### Writing

Rates are written by the function that is given. -/

/-- A map as an object. -/
def OrderedMap.encode {α : Type} (encode : α → Value) (m : OrderedMap String α) : Value :=
  .object (m.toList.map fun e => (e.1, encode e.2))

/-- The port as a value. -/
def PortExpectation.encode (x : PortExpectation) : Value := .object [
  ("frames-rx", .optional .word64 x.framesRx),
  ("link", .optional (fun s => .string s.name) x.link)]

/-- The flow as a value. -/
def FlowExpectation.encode (rate : Rate → Value) (x : FlowExpectation) : Value := .object [
  ("frames-rx", .optional .word64 x.framesRx), ("frames-rx-rate", .optional rate x.framesRxRate)]

/-- The total of frames as a value. -/
def TrafficExpectation.encode (x : TrafficExpectation) : Value := .object [
  ("flows", .array (x.flows.toList.map .string)), ("frames-rx", .word64 x.framesRx)]

/-- The session as a value. -/
def BgpExpectation.encode (x : BgpExpectation) : Value := .object [
  ("routes-advertised", .optional .word64 x.routesAdvertised),
  ("routes-received", .optional .word64 x.routesReceived), ("state", .string x.state.name)]

/-- The numbers of prefixes as a value. -/
def PrefixExpectation.encode (x : PrefixExpectation) : Value := .object [
  ("ipv4", .word64 x.ipv4), ("ipv6", .word64 x.ipv6)]

/-- The router as a value. -/
def IsisExpectation.encode (x : IsisExpectation) : Value := .object [
  ("l1-database-size", .optional .word32 x.l1DatabaseSize),
  ("l1-sessions-up", .optional .word32 x.l1SessionsUp),
  ("l2-database-size", .optional .word32 x.l2DatabaseSize),
  ("l2-sessions-up", .optional .word32 x.l2SessionsUp)]

/-- The aggregated link as a value. -/
def LagExpectation.encode (x : LagExpectation) : Value := .object [
  ("member-ports-up", .word32 x.memberPortsUp), ("oper-status", .string x.operStatus.name)]

/-- The port's LACP state as a value. -/
def LacpExpectation.encode (x : LacpExpectation) : Value := .object [
  ("collecting", .bool x.collecting), ("distributing", .bool x.distributing),
  ("lag", .string x.lag),
  ("synchronization", .optional (fun s => .string s.name) x.synchronization)]

/-- The bundle member's LACP state as a value. -/
def MemberExpectation.encode (x : MemberExpectation) : Value := .object [
  ("collecting", .bool x.collecting), ("distributing", .bool x.distributing)]

/-- The expectation as a value. -/
def Expectation.encode (rate : Rate → Value) (e : Expectation) : Value := .object [
  ("bgp-prefixes", e.bgpPrefixes.encode PrefixExpectation.encode),
  ("bgp4", e.bgp4.encode BgpExpectation.encode),
  ("bgp6", e.bgp6.encode BgpExpectation.encode),
  ("dut-bundles", e.bundles.encode fun ms => .array (ms.map .string)),
  ("dut-interfaces", e.interfaces.encode fun s => .string s.name),
  ("dut-lacp-members", e.bundleMembers.encode fun m => m.encode MemberExpectation.encode),
  ("flows", e.flows.encode (FlowExpectation.encode rate)),
  ("ipv4-neighbor-macs", .array (e.ipv4Neighbors.toList.map .mac)),
  ("ipv6-neighbor-macs", .array (e.ipv6Neighbors.toList.map .mac)),
  ("isis", e.isis.encode IsisExpectation.encode),
  ("lacp", e.lacp.encode LacpExpectation.encode),
  ("lags", e.lags.encode LagExpectation.encode),
  ("ports", e.ports.encode PortExpectation.encode),
  ("traffic", .optional TrafficExpectation.encode e.traffic)]

end Convergence
