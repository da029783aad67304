import VpnAttach.Topology.Basic
import VpnAttach.Vpn.Association
import VpnAttach.Vpn.Basic

/-!
# Sample objects

Networks, ports and requests for scenarios.  All ports are on one host, and
their addresses are computed from their ids.
-/

namespace VpnAttach.Scenario

/-- The host of all sample ports. -/
def computeHost : String := "compute-1"

/-- The tenant of the sample networks and VPNs. -/
def tenant : String := "tenant-a"

/-- The id of the sample subnet of a network. -/
def subnetId (network : String) : String :=
  network ++ "-subnet"

/-- The last octet of the addresses of a sample port: the sum of the bytes of
its id, brought to between 10 and 209. -/
def portOctet (id : String) : UInt8 :=
  id.toUTF8.toList.foldl (· + ·) 0 % 200 + 10

/-- The port of a virtual machine. -/
def vmPort (id network : String) (status : PortStatus) : Port where
  id := id
  network := network
  mac := ⟨0xfa, 0x16, 0x3e, 0, 0, portOctet id⟩
  fixedIps := [⟨subnetId network, .v4 ⟨10, 0, 0, portOctet id⟩⟩]
  deviceOwner := "compute:nova"
  status := status
  host := computeHost

/-- The port of a running virtual machine. -/
def activePort (id network : String) : Port :=
  vmPort id network .active

/-- The port of a router interface, which is never notified. -/
def routerPort (id network : String) : Port :=
  { activePort id network with deviceOwner := "network:router_interface" }

/-- The port of a probe, which is notified although the network service owns
it. -/
def probePort (id network : String) : Port :=
  { activePort id network with deviceOwner := "network:probe" }

/-- A network of the tenant. -/
def tenantNetwork (id : String) : Network where
  id := id
  tenant := tenant

/-- A network that faces the provider. -/
def externalNetwork (id : String) : Network where
  id := id
  tenant := "admin"
  external := true

/-- The subnet of a network, with a gateway. -/
def subnet (network : String) : Subnet where
  id := subnetId network
  network := network
  cidr := ⟨.v4 ⟨10, 0, 0, 0⟩, 24, by decide⟩
  gateway := some (.v4 ⟨10, 0, 0, 1⟩)

/-- A request for a VPN of the tenant. -/
def vpn (kind : VpnKind) (id : String) (targets : List RouteTarget) :
    VpnRequest where
  id := some id
  tenant := tenant
  name := id ++ "-vpn"
  kind := kind
  routeTargets := targets

/-- A request for an association with default terms. -/
def association {τ : Type} (id target : String) (terms : τ) :
    AssociationRequest τ where
  id := some id
  target := target
  terms := terms

end VpnAttach.Scenario
