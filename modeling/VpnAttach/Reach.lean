import VpnAttach.Distinct
import VpnAttach.Policy
import VpnAttach.Tables.Basic
import VpnAttach.Topology.State

/-!
# Reach

A VPN reaches a network through a network association, or through a router
association if the router has an interface on the network.  A port is reached
by the VPNs of its network and by those it is associated with.

`networksOf` and `vpnsOfNetwork` follow this relation in its two directions;
`Reaches` is the relation itself.
-/

namespace VpnAttach

/-- The networks a VPN reaches: those it is associated with, then those of its
routers, each once. -/
def networksOf (topology : Topology) (vpn : Vpn) : List String :=
  distinct (vpn.networks ++ vpn.routers.flatMap topology.networksOf)

/-- The VPNs that reach a network: those associated with it, then those of its
routers in plug order, each once. -/
def vpnsOfNetwork (topology : Topology) (tables : Tables) (network : String) :
    List Vpn :=
  distinctBy (·.id) (tables.vpnsOnNetwork network ++
    (topology.routersOf network).flatMap tables.vpnsOnRouter)

/-- The VPNs that reach a port: those of its network, then those associated
with it, each once. -/
def vpnsOfPort (topology : Topology) (tables : Tables) (port : Port) : List Vpn :=
  distinctBy (·.id) (vpnsOfNetwork topology tables port.network ++
    tables.vpnsOnPort port.id)

/-- Whether the agent is told nothing about a port: it belongs to the network
service, or its network is external. -/
def ignoresPort (policy : Policy) (topology : Topology) (port : Port) : Bool :=
  policy.ownsPort port.deviceOwner || topology.isExternal port.network

/-- The VPN with id `vpn` reaches a network. -/
inductive Reaches (topology : Topology) (tables : Tables) (vpn network : String) :
    Prop where
  | direct (a : NetworkAssociation) (stored : a ∈ tables.networks)
    (owner : a.owner = vpn) (target : a.target = network)
  | router (a : RouterAssociation) (stored : a ∈ tables.routers)
    (owner : a.owner = vpn) (plugged : ⟨a.target, network⟩ ∈ topology.interfaces)

end VpnAttach
