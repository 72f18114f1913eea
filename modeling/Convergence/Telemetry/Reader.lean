import Convergence.Inspection
import Convergence.Telemetry.Record

/-!
# `Convergence.Telemetry.Reader`: where each record is read

State of the traffic generator lies under `otg`, state of the device under test under `dut`, each
by kind and name.
-/

set_option autoImplicit false

namespace Convergence.Telemetry

/-- A port of the traffic generator. -/
def port (name : String) : Inspection (Option PortMetric) :=
  .record (.generator "port" name) PortMetric.schema.decode

/-- A flow. -/
def flow (name : String) : Inspection (Option FlowMetric) :=
  .record (.generator "flow" name) FlowMetric.schema.decode

/-- The session of a peer over IPv4. -/
def bgp4 (peer : String) : Inspection (Option BgpMetric) :=
  .record (.generator "bgp4" peer) BgpMetric.schema.decode

/-- The session of a peer over IPv6. -/
def bgp6 (peer : String) : Inspection (Option BgpMetric) :=
  .record (.generator "bgp6" peer) BgpMetric.schema.decode

/-- The prefixes that a peer has learned. -/
def bgpPrefixes (peer : String) : Inspection (Option BgpPrefixes) :=
  .record (.generator "bgp-prefixes" peer) BgpPrefixes.schema.decode

/-- An ISIS router. -/
def isis (router : String) : Inspection (Option IsisMetric) :=
  .record (.generator "isis" router) IsisMetric.schema.decode

/-- An aggregated link. -/
def lag (name : String) : Inspection (Option LagMetric) :=
  .record (.generator "lag" name) LagMetric.schema.decode

/-- LACP state of a port. -/
def lacp (port : String) : Inspection (Option LacpMetric) :=
  .record (.generator "lacp" port) LacpMetric.schema.decode

/-- The neighbors in a cache, none if the cache is not there. -/
def neighbors (cache : String) : Inspection (List Neighbor) := do
  return (← .record (.generator "neighbors" cache) (.list Neighbor.schema.decode)).getD []

/-- The neighbors by IPv4 address. -/
def ipv4Neighbors : Inspection (List Neighbor) := neighbors "ipv4"

/-- The neighbors by IPv6 address. -/
def ipv6Neighbors : Inspection (List Neighbor) := neighbors "ipv6"

/-- An interface of the device. -/
def deviceInterface (name : String) : Inspection (Option InterfaceState) :=
  .record (.device "interface" name) InterfaceState.schema.decode

/-- The members of a bundle of the device in reported order, none if it is not there. -/
def bundleMembers (bundle : String) : Inspection (List BundleMember) := do
  return ((← .record (.device "lacp" bundle) Bundle.schema.decode).getD {}).members

end Convergence.Telemetry
