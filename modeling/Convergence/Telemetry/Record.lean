import Convergence.Decode.Record
import Convergence.Telemetry.Rate
import Convergence.Telemetry.Status

/-!
# `Convergence.Telemetry.Record`: telemetry records

What the traffic generator and the device under test report about ports, flows, routing sessions
and aggregated links.  Members of a record that are not fields are passed over, and fields that
are not written have their initial value; a neighbor must say its interface and address.
-/

set_option autoImplicit false

namespace Convergence

/-- A port of the traffic generator. -/
structure PortMetric where
  framesTx : UInt64 := 0
  framesRx : UInt64 := 0
  bytesTx : UInt64 := 0
  bytesRx : UInt64 := 0
  framesTxRate : Rate := .zero
  framesRxRate : Rate := .zero
  link : LinkState := .down
  deriving DecidableEq

/-- A flow of test traffic. -/
structure FlowMetric where
  framesTx : UInt64 := 0
  framesRx : UInt64 := 0
  framesTxRate : Rate := .zero
  framesRxRate : Rate := .zero
  deriving DecidableEq

/-- A BGP session of an emulated peer. -/
structure BgpMetric where
  sessionState : SessionState := .down
  flaps : UInt64 := 0
  routesAdvertised : UInt64 := 0
  routesReceived : UInt64 := 0
  routeWithdrawsSent : UInt64 := 0
  routeWithdrawsReceived : UInt64 := 0
  keepalivesSent : UInt64 := 0
  keepalivesReceived : UInt64 := 0
  deriving DecidableEq, Repr

/-- The unicast prefixes that an emulated BGP peer has learned. -/
structure BgpPrefixes where
  ipv4Unicast : List String := []
  ipv6Unicast : List String := []
  deriving DecidableEq, Repr

/-- An emulated ISIS router. -/
structure IsisMetric where
  l1SessionsUp : UInt32 := 0
  l1SessionsFlap : UInt64 := 0
  l1DatabaseSize : UInt32 := 0
  l2SessionsUp : UInt32 := 0
  l2SessionsFlap : UInt64 := 0
  l2DatabaseSize : UInt32 := 0
  deriving DecidableEq, Repr

/-- An aggregated link of the traffic generator. -/
structure LagMetric where
  operStatus : OperStatus := .down
  memberPortsUp : UInt32 := 0
  framesTx : UInt64 := 0
  framesRx : UInt64 := 0
  deriving DecidableEq, Repr

/-- LACP state of a port of the traffic generator. -/
structure LacpMetric where
  lagName : String := ""
  synchronization : Synchronization := .outSync
  collecting : Bool := false
  distributing : Bool := false
  systemId : Option Mac := none
  partnerId : Option Mac := none
  deriving DecidableEq, Repr

/-- An entry of a neighbor cache.  It has no link-layer address until it is resolved. -/
structure Neighbor where
  interface : String
  address : Address
  mac : Option Mac
  deriving DecidableEq, Repr

/-- An interface of the device under test. -/
structure InterfaceState where
  operStatus : OperStatus := .down
  deriving DecidableEq, Repr

/-- LACP state of a member of a bundle of the device under test. -/
structure BundleMember where
  interface : String := ""
  collecting : Bool := false
  distributing : Bool := false
  synchronization : Synchronization := .outSync
  deriving DecidableEq, Repr

/-- A bundle of the device under test, its members in the order in which they are reported. -/
structure Bundle where
  members : List BundleMember := []
  deriving DecidableEq, Repr

/-! ### Reading -/

/-- The layout of a port. -/
def PortMetric.schema : Schema PortMetric where
  name := "PortMetric"
  fields := [
    .optional "frames-tx" .uint64 fun x r => { r with framesTx := x },
    .optional "frames-rx" .uint64 fun x r => { r with framesRx := x },
    .optional "bytes-tx" .uint64 fun x r => { r with bytesTx := x },
    .optional "bytes-rx" .uint64 fun x r => { r with bytesRx := x },
    .optional "frames-tx-rate" .rate fun x r => { r with framesTxRate := x },
    .optional "frames-rx-rate" .rate fun x r => { r with framesRxRate := x },
    .optional "link" LinkState.decode fun x r => { r with link := x }]
  initial := {}
  strict := false

/-- The layout of a flow. -/
def FlowMetric.schema : Schema FlowMetric where
  name := "FlowMetric"
  fields := [
    .optional "frames-tx" .uint64 fun x r => { r with framesTx := x },
    .optional "frames-rx" .uint64 fun x r => { r with framesRx := x },
    .optional "frames-tx-rate" .rate fun x r => { r with framesTxRate := x },
    .optional "frames-rx-rate" .rate fun x r => { r with framesRxRate := x }]
  initial := {}
  strict := false

/-- The layout of a BGP session. -/
def BgpMetric.schema : Schema BgpMetric where
  name := "BgpMetric"
  fields := [
    .optional "session-state" SessionState.decode fun x r => { r with sessionState := x },
    .optional "flaps" .uint64 fun x r => { r with flaps := x },
    .optional "routes-advertised" .uint64 fun x r => { r with routesAdvertised := x },
    .optional "routes-received" .uint64 fun x r => { r with routesReceived := x },
    .optional "route-withdraws-sent" .uint64 fun x r => { r with routeWithdrawsSent := x },
    .optional "route-withdraws-received" .uint64
      fun x r => { r with routeWithdrawsReceived := x },
    .optional "keepalives-sent" .uint64 fun x r => { r with keepalivesSent := x },
    .optional "keepalives-received" .uint64 fun x r => { r with keepalivesReceived := x }]
  initial := {}
  strict := false

/-- The layout of a peer's prefixes. -/
def BgpPrefixes.schema : Schema BgpPrefixes where
  name := "BgpPrefixState"
  fields := [
    .optional "ipv4-unicast" (.list .string) fun x r => { r with ipv4Unicast := x },
    .optional "ipv6-unicast" (.list .string) fun x r => { r with ipv6Unicast := x }]
  initial := {}
  strict := false

/-- The layout of an ISIS router. -/
def IsisMetric.schema : Schema IsisMetric where
  name := "IsisMetric"
  fields := [
    .optional "l1-sessions-up" .uint32 fun x r => { r with l1SessionsUp := x },
    .optional "l1-sessions-flap" .uint64 fun x r => { r with l1SessionsFlap := x },
    .optional "l1-database-size" .uint32 fun x r => { r with l1DatabaseSize := x },
    .optional "l2-sessions-up" .uint32 fun x r => { r with l2SessionsUp := x },
    .optional "l2-sessions-flap" .uint64 fun x r => { r with l2SessionsFlap := x },
    .optional "l2-database-size" .uint32 fun x r => { r with l2DatabaseSize := x }]
  initial := {}
  strict := false

/-- The layout of an aggregated link. -/
def LagMetric.schema : Schema LagMetric where
  name := "LagMetric"
  fields := [
    .optional "oper-status" OperStatus.decode fun x r => { r with operStatus := x },
    .optional "member-ports-up" .uint32 fun x r => { r with memberPortsUp := x },
    .optional "frames-tx" .uint64 fun x r => { r with framesTx := x },
    .optional "frames-rx" .uint64 fun x r => { r with framesRx := x }]
  initial := {}
  strict := false

/-- The layout of a port's LACP state. -/
def LacpMetric.schema : Schema LacpMetric where
  name := "LacpMemberMetric"
  fields := [
    .optional "lag-name" .string fun x r => { r with lagName := x },
    .optional "synchronization" Synchronization.decode
      fun x r => { r with synchronization := x },
    .optional "collecting" .bool fun x r => { r with collecting := x },
    .optional "distributing" .bool fun x r => { r with distributing := x },
    .optional "system-id" (.optional .mac) fun x r => { r with systemId := x },
    .optional "partner-id" (.optional .mac) fun x r => { r with partnerId := x }]
  initial := {}
  strict := false

/-- The layout of a neighbor. -/
def Neighbor.schema : Schema Neighbor where
  name := "Neighbor"
  fields := [
    .mandatory "interface" .string fun x r => { r with interface := x },
    .mandatory "address" .address fun x r => { r with address := x },
    .optional "mac" (.optional .mac) fun x r => { r with mac := x }]
  initial := ⟨"", default, none⟩
  strict := false

/-- The layout of an interface. -/
def InterfaceState.schema : Schema InterfaceState where
  name := "InterfaceState"
  fields := [
    .optional "oper-status" OperStatus.decode fun x _ => { operStatus := x }]
  initial := {}
  strict := false

/-- The layout of a bundle member. -/
def BundleMember.schema : Schema BundleMember where
  name := "LacpMember"
  fields := [
    .optional "interface" .string fun x r => { r with interface := x },
    .optional "collecting" .bool fun x r => { r with collecting := x },
    .optional "distributing" .bool fun x r => { r with distributing := x },
    .optional "synchronization" Synchronization.decode
      fun x r => { r with synchronization := x }]
  initial := {}
  strict := false

/-- The layout of a bundle. -/
def Bundle.schema : Schema Bundle where
  name := "LacpInterface"
  fields := [.optional "members" (.list BundleMember.schema.decode) fun x _ => { members := x }]
  initial := {}
  strict := false

/-! ### Writing

Rates are written by the function that is given.  Members stand in key order. -/

namespace Value

/-- A counter of 64 bits. -/
def word64 (n : UInt64) : Value := int n.toNat

/-- A counter of 32 bits. -/
def word32 (n : UInt32) : Value := int n.toNat

/-- A datum, or null for none. -/
def optional {α : Type} (encode : α → Value) : Option α → Value
  | none => null
  | some x => encode x

/-- A link-layer address. -/
def mac (m : Mac) : Value := string m.text

end Value

/-- The port as a value. -/
def PortMetric.encode (rate : Rate → Value) (r : PortMetric) : Value := .object [
  ("bytes-rx", .word64 r.bytesRx), ("bytes-tx", .word64 r.bytesTx),
  ("frames-rx", .word64 r.framesRx), ("frames-rx-rate", rate r.framesRxRate),
  ("frames-tx", .word64 r.framesTx), ("frames-tx-rate", rate r.framesTxRate),
  ("link", .string r.link.name)]

/-- The flow as a value. -/
def FlowMetric.encode (rate : Rate → Value) (r : FlowMetric) : Value := .object [
  ("frames-rx", .word64 r.framesRx), ("frames-rx-rate", rate r.framesRxRate),
  ("frames-tx", .word64 r.framesTx), ("frames-tx-rate", rate r.framesTxRate)]

/-- The session as a value. -/
def BgpMetric.encode (r : BgpMetric) : Value := .object [
  ("flaps", .word64 r.flaps), ("keepalives-received", .word64 r.keepalivesReceived),
  ("keepalives-sent", .word64 r.keepalivesSent),
  ("route-withdraws-received", .word64 r.routeWithdrawsReceived),
  ("route-withdraws-sent", .word64 r.routeWithdrawsSent),
  ("routes-advertised", .word64 r.routesAdvertised),
  ("routes-received", .word64 r.routesReceived),
  ("session-state", .string r.sessionState.name)]

/-- The prefixes as a value. -/
def BgpPrefixes.encode (r : BgpPrefixes) : Value := .object [
  ("ipv4-unicast", .array (r.ipv4Unicast.map .string)),
  ("ipv6-unicast", .array (r.ipv6Unicast.map .string))]

/-- The router as a value. -/
def IsisMetric.encode (r : IsisMetric) : Value := .object [
  ("l1-database-size", .word32 r.l1DatabaseSize), ("l1-sessions-flap", .word64 r.l1SessionsFlap),
  ("l1-sessions-up", .word32 r.l1SessionsUp), ("l2-database-size", .word32 r.l2DatabaseSize),
  ("l2-sessions-flap", .word64 r.l2SessionsFlap), ("l2-sessions-up", .word32 r.l2SessionsUp)]

/-- The aggregated link as a value. -/
def LagMetric.encode (r : LagMetric) : Value := .object [
  ("frames-rx", .word64 r.framesRx), ("frames-tx", .word64 r.framesTx),
  ("member-ports-up", .word32 r.memberPortsUp), ("oper-status", .string r.operStatus.name)]

/-- The port's LACP state as a value. -/
def LacpMetric.encode (r : LacpMetric) : Value := .object [
  ("collecting", .bool r.collecting), ("distributing", .bool r.distributing),
  ("lag-name", .string r.lagName), ("partner-id", .optional .mac r.partnerId),
  ("synchronization", .string r.synchronization.name),
  ("system-id", .optional .mac r.systemId)]

/-- The neighbor as a value. -/
def Neighbor.encode (r : Neighbor) : Value := .object [
  ("address", .string r.address.text), ("interface", .string r.interface),
  ("mac", .optional .mac r.mac)]

/-- The interface as a value. -/
def InterfaceState.encode (r : InterfaceState) : Value := .object [
  ("oper-status", .string r.operStatus.name)]

/-- The bundle member as a value. -/
def BundleMember.encode (r : BundleMember) : Value := .object [
  ("collecting", .bool r.collecting), ("distributing", .bool r.distributing),
  ("interface", .string r.interface), ("synchronization", .string r.synchronization.name)]

/-- The bundle as a value. -/
def Bundle.encode (r : Bundle) : Value := .object [
  ("members", .array (r.members.map BundleMember.encode))]

end Convergence
