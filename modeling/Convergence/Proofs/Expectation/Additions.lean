import Convergence.Expectation

/-!
# `Convergence.Proofs.Expectation.Additions`: building an expectation entry by entry

`Expectation.Addition` names everything that can be added to an expectation in one step, so that
statements about all ways to add something need not be made for one way after the other.  An
addition is new if the section that it goes to does not have its name yet.
-/

set_option autoImplicit false

namespace Convergence.Expectation

/-- One step in building an expectation. -/
inductive Addition where
  | port (name : String) (x : PortExpectation)
  | flow (name : String) (x : FlowExpectation)
  | traffic (x : TrafficExpectation)
  | bgp4 (peer : String) (x : BgpExpectation)
  | bgp6 (peer : String) (x : BgpExpectation)
  | bgpPrefixes (peer : String) (x : PrefixExpectation)
  | isis (router : String) (x : IsisExpectation)
  | lag (name : String) (x : LagExpectation)
  | lacp (port : String) (x : LacpExpectation)
  | interface (name : String) (x : OperStatus)
  | bundle (name : String) (members : List String)
  | bundleMember (name member : String) (x : MemberExpectation)
  | ipv4Neighbor (m : Mac)
  | ipv6Neighbor (m : Mac)

namespace Addition

/-- The expectation with the addition made. -/
def apply (e : Expectation) : Addition → Expectation
  | port name x => e.withPort name x
  | flow name x => e.withFlow name x
  | traffic x => e.withTraffic x
  | bgp4 peer x => e.withBgp4 peer x
  | bgp6 peer x => e.withBgp6 peer x
  | bgpPrefixes peer x => e.withBgpPrefixes peer x
  | isis router x => e.withIsis router x
  | lag name x => e.withLag name x
  | lacp name x => e.withLacp name x
  | interface name x => e.withInterface name x
  | bundle name members => e.withBundle name members
  | bundleMember name member x => e.withBundleMember name member x
  | ipv4Neighbor m => e.withIpv4Neighbor m
  | ipv6Neighbor m => e.withIpv6Neighbor m

/-- The section does not have the name yet; of a bundle, not this member.  A total is new if there
is none, and an address is new in any case, because a set that has it stays as it is. -/
def IsNew (e : Expectation) : Addition → Prop
  | port name _ => e.ports.get? name = none
  | flow name _ => e.flows.get? name = none
  | traffic _ => e.traffic = none
  | bgp4 peer _ => e.bgp4.get? peer = none
  | bgp6 peer _ => e.bgp6.get? peer = none
  | bgpPrefixes peer _ => e.bgpPrefixes.get? peer = none
  | isis router _ => e.isis.get? router = none
  | lag name _ => e.lags.get? name = none
  | lacp name _ => e.lacp.get? name = none
  | interface name _ => e.interfaces.get? name = none
  | bundle name _ => e.bundles.get? name = none
  | bundleMember name member _ =>
    ∀ members, e.bundleMembers.get? name = some members → members.get? member = none
  | ipv4Neighbor _ => True
  | ipv6Neighbor _ => True

end Addition

end Convergence.Expectation
