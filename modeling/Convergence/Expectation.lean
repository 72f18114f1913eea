import Convergence.Lists
import Convergence.Telemetry.Rate
import Convergence.Telemetry.Status

/-!
# `Convergence.Expectation`: the state to wait for

An expectation has a section for each kind of telemetry.  Sections are maps from names, so that
an expectation is fixed by what it says about each name.  It is built from the empty one by adding
entries; a later entry under a name replaces an earlier one.
-/

set_option autoImplicit false

namespace Convergence

/-- A port; what is none is not checked. -/
structure PortExpectation where
  framesRx : Option UInt64 := none
  link : Option LinkState := none
  deriving DecidableEq

/-- A flow; what is none is not checked. -/
structure FlowExpectation where
  framesRx : Option UInt64 := none
  framesRxRate : Option Rate := none
  deriving DecidableEq

/-- The frames that the listed flows must have received together. -/
structure TrafficExpectation where
  flows : OrderedSet String := ∅
  framesRx : UInt64 := 0
  deriving DecidableEq

/-- A BGP session; route counts that are none are not checked. -/
structure BgpExpectation where
  state : SessionState := .down
  routesAdvertised : Option UInt64 := none
  routesReceived : Option UInt64 := none
  deriving DecidableEq

/-- How many prefixes a peer has learned. -/
structure PrefixExpectation where
  ipv4 : UInt64 := 0
  ipv6 : UInt64 := 0
  deriving DecidableEq

/-- An ISIS router; what is none is not checked. -/
structure IsisExpectation where
  l1SessionsUp : Option UInt32 := none
  l2SessionsUp : Option UInt32 := none
  l1DatabaseSize : Option UInt32 := none
  l2DatabaseSize : Option UInt32 := none
  deriving DecidableEq

/-- An aggregated link. -/
structure LagExpectation where
  operStatus : OperStatus := .down
  memberPortsUp : UInt32 := 0
  deriving DecidableEq

/-- LACP state of a port of the traffic generator. -/
structure LacpExpectation where
  lag : String := ""
  collecting : Bool := false
  distributing : Bool := false
  synchronization : Option Synchronization := none
  deriving DecidableEq

/-- LACP state of a member of a bundle of the device. -/
structure MemberExpectation where
  collecting : Bool := false
  distributing : Bool := false
  deriving DecidableEq

/-- The state that telemetry should converge to.  Empty sections are not checked. -/
structure Expectation where
  ports : OrderedMap String PortExpectation := ∅
  flows : OrderedMap String FlowExpectation := ∅
  traffic : Option TrafficExpectation := none
  bgp4 : OrderedMap String BgpExpectation := ∅
  bgp6 : OrderedMap String BgpExpectation := ∅
  bgpPrefixes : OrderedMap String PrefixExpectation := ∅
  isis : OrderedMap String IsisExpectation := ∅
  lags : OrderedMap String LagExpectation := ∅
  lacp : OrderedMap String LacpExpectation := ∅
  interfaces : OrderedMap String OperStatus := ∅
  bundles : OrderedMap String (List String) := ∅
  bundleMembers : OrderedMap String (OrderedMap String MemberExpectation) := ∅
  ipv4Neighbors : OrderedSet Mac := ∅
  ipv6Neighbors : OrderedSet Mac := ∅
  deriving DecidableEq

instance : Inhabited Expectation := ⟨{}⟩

namespace BgpExpectation

/-- A session that is up, with its numbers of routes. -/
def up (advertised received : UInt64) : BgpExpectation := ⟨.up, some advertised, some received⟩

/-- A session that is down. -/
def down : BgpExpectation := ⟨.down, none, none⟩

end BgpExpectation

namespace LagExpectation

/-- A link that is up over some of its members. -/
def up (memberPortsUp : UInt32) : LagExpectation := ⟨.up, memberPortsUp⟩

/-- A link that is down. -/
def down : LagExpectation := ⟨.down, 0⟩

end LagExpectation

namespace LacpExpectation

/-- A port that carries traffic of the link. -/
def active (lag : String) : LacpExpectation := ⟨lag, true, true, some .inSync⟩

/-- A port that belongs to the link and carries no traffic. -/
def inactive (lag : String) : LacpExpectation := ⟨lag, false, false, none⟩

end LacpExpectation

namespace Expectation

/-- There is nothing to wait for. -/
def isEmpty (e : Expectation) : Bool :=
  e.ports.isEmpty && e.flows.isEmpty && e.traffic.isNone && e.bgp4.isEmpty && e.bgp6.isEmpty &&
    e.bgpPrefixes.isEmpty && e.isis.isEmpty && e.lags.isEmpty && e.lacp.isEmpty &&
    e.interfaces.isEmpty && e.bundles.isEmpty && e.bundleMembers.isEmpty &&
    e.ipv4Neighbors.isEmpty && e.ipv6Neighbors.isEmpty

/-- Expects a port. -/
def withPort (e : Expectation) (name : String) (x : PortExpectation) : Expectation :=
  { e with ports := e.ports.insert name x }

/-- Expects a flow. -/
def withFlow (e : Expectation) (name : String) (x : FlowExpectation) : Expectation :=
  { e with flows := e.flows.insert name x }

/-- Expects a total of received frames. -/
def withTraffic (e : Expectation) (x : TrafficExpectation) : Expectation :=
  { e with traffic := some x }

/-- Expects a BGP session over IPv4. -/
def withBgp4 (e : Expectation) (peer : String) (x : BgpExpectation) : Expectation :=
  { e with bgp4 := e.bgp4.insert peer x }

/-- Expects a BGP session over IPv6. -/
def withBgp6 (e : Expectation) (peer : String) (x : BgpExpectation) : Expectation :=
  { e with bgp6 := e.bgp6.insert peer x }

/-- Expects numbers of prefixes. -/
def withBgpPrefixes (e : Expectation) (peer : String) (x : PrefixExpectation) : Expectation :=
  { e with bgpPrefixes := e.bgpPrefixes.insert peer x }

/-- Expects an ISIS router. -/
def withIsis (e : Expectation) (router : String) (x : IsisExpectation) : Expectation :=
  { e with isis := e.isis.insert router x }

/-- Expects an aggregated link. -/
def withLag (e : Expectation) (name : String) (x : LagExpectation) : Expectation :=
  { e with lags := e.lags.insert name x }

/-- Expects LACP state of a port. -/
def withLacp (e : Expectation) (port : String) (x : LacpExpectation) : Expectation :=
  { e with lacp := e.lacp.insert port x }

/-- Expects the status of an interface of the device. -/
def withInterface (e : Expectation) (name : String) (x : OperStatus) : Expectation :=
  { e with interfaces := e.interfaces.insert name x }

/-- Expects the members of a bundle, in any order. -/
def withBundle (e : Expectation) (bundle : String) (members : List String) : Expectation :=
  { e with bundles := e.bundles.insert bundle members }

/-- Expects a bundle without one of its members, after the member went down. -/
def withoutBundleMember (e : Expectation) (bundle member : String) : Expectation :=
  { e with bundles := e.bundles.modify bundle (Lists.without · member) }

/-- Expects LACP state of one member of a bundle, beside those already expected. -/
def withBundleMember (e : Expectation) (bundle member : String) (x : MemberExpectation) :
    Expectation :=
  let members := (e.bundleMembers.get? bundle).getD ∅
  { e with bundleMembers := e.bundleMembers.insert bundle (members.insert member x) }

/-- Expects a neighbor of this address over IPv4. -/
def withIpv4Neighbor (e : Expectation) (m : Mac) : Expectation :=
  { e with ipv4Neighbors := e.ipv4Neighbors.insert m }

/-- Expects a neighbor of this address over IPv6. -/
def withIpv6Neighbor (e : Expectation) (m : Mac) : Expectation :=
  { e with ipv6Neighbors := e.ipv6Neighbors.insert m }

end Expectation

/-! ### Sameness -/

/-- The same expectations of a flow, rates compared as numbers. -/
def FlowExpectation.eqv (x y : FlowExpectation) : Bool :=
  x.framesRx == y.framesRx &&
    match x.framesRxRate, y.framesRxRate with
    | some r, some s => r.eqv s
    | none, none => true
    | _, _ => false

/-- The same expectation, rates compared as numbers: one that holds NaN differs from itself. -/
def Expectation.eqv (e d : Expectation) : Bool :=
  let flows (x : Expectation) := x.flows.toList
  (flows e).length == (flows d).length &&
    ((flows e).zip (flows d)).all (fun p => p.1.1 == p.2.1 && p.1.2.eqv p.2.2) &&
    { e with flows := ∅ } == { d with flows := ∅ }

end Convergence
