import VpnAttach.Topology.Basic

/-!
# The state of the topology

Networks, subnets and ports, each once per id, and the interfaces of routers
in the order in which they were plugged.  Only the orchestration layer writes
it; the rules of this library read it.
-/

namespace VpnAttach

/-- An interface of a router on a network. -/
structure Interface where
  router : String
  network : String
  deriving DecidableEq

/-- The topology as it is known. -/
structure Topology where
  networks : List Network := []
  subnets : List Subnet := []
  ports : List Port := []
  interfaces : List Interface := []
  deriving DecidableEq

/-- Replaces the first item with the key of `x`, or adds `x` at the end. -/
def upsert {α : Type} (key : α → String) (x : α) : List α → List α
  | [] => [x]
  | y :: ys => if key y = key x then x :: ys else y :: upsert key x ys

namespace Topology

/-! ## Reading -/

/-- The port with an id. -/
def port? (t : Topology) (id : String) : Option Port :=
  t.ports.find? (·.id == id)

/-- The network with an id. -/
def network? (t : Topology) (id : String) : Option Network :=
  t.networks.find? (·.id == id)

/-- Whether a network is known to face the provider. -/
def isExternal (t : Topology) (network : String) : Bool :=
  match t.network? network with
  | some n => n.external
  | none => false

/-- Whether an active port is plugged on a network. -/
def hasActivePort (t : Topology) (network : String) : Bool :=
  t.ports.any fun port => port.network == network && port.status.isActive

/-- The networks on which a router has an interface, in plug order. -/
def networksOf (t : Topology) (router : String) : List String :=
  (t.interfaces.filter (·.router == router)).map (·.network)

/-- The routers with an interface on a network, in plug order. -/
def routersOf (t : Topology) (network : String) : List String :=
  (t.interfaces.filter (·.network == network)).map (·.router)

/-- The gateway of a subnet. -/
def gateway? (t : Topology) (subnet : String) : Option Ip :=
  (t.subnets.find? (·.id == subnet)).bind (·.gateway)

/-! ## Writing -/

/-- Adds a network, or replaces the one with its id. -/
def putNetwork (t : Topology) (network : Network) : Topology :=
  { t with networks := upsert (·.id) network t.networks }

/-- Adds a subnet, or replaces the one with its id. -/
def putSubnet (t : Topology) (subnet : Subnet) : Topology :=
  { t with subnets := upsert (·.id) subnet t.subnets }

/-- Adds a port, or replaces the one with its id. -/
def putPort (t : Topology) (port : Port) : Topology :=
  { t with ports := upsert (·.id) port t.ports }

/-- Removes a port. -/
def removePort (t : Topology) (id : String) : Topology :=
  { t with ports := t.ports.filter (·.id != id) }

/-- Whether a router has an interface on a network. -/
def isPlugged (t : Topology) (router network : String) : Bool :=
  t.interfaces.contains ⟨router, network⟩

/-- Plugs a router into a network; nothing changes if it is plugged. -/
def plug (t : Topology) (router network : String) : Topology :=
  if t.isPlugged router network then t
  else { t with interfaces := t.interfaces ++ [⟨router, network⟩] }

/-- Unplugs a router from a network; nothing changes if it is not plugged. -/
def unplug (t : Topology) (router network : String) : Topology :=
  { t with interfaces := t.interfaces.filter (· != ⟨router, network⟩) }

end Topology
end VpnAttach
