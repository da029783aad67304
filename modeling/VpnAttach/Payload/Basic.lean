import VpnAttach.Payload.Targets
import VpnAttach.Topology.Basic
import VpnAttach.Vpn.Association

/-!
# Payloads and notifications

What the agent is told.  A VPN is announced per network, with its route
targets.  A port is attached with its addresses, the targets of all VPNs it
reaches and the extra routes of its associations; it is detached by its id and
network alone.
-/

namespace VpnAttach

/-- A VPN as the agent sees it on one network. -/
structure VpnPayload where
  id : String
  network : String
  targets : TargetMap
  deriving DecidableEq

/-- The payload of a VPN on a network. -/
def VpnPayload.make (emitted : List VpnKind) (vpn : Vpn) (network : String) :
    VpnPayload where
  id := vpn.id
  network := network
  targets := (TargetMap.project emitted [vpn]).dropEmpty

/-- The target lists for layer three, if there are any. -/
def VpnPayload.layerThree? (payload : VpnPayload) : Option TargetLists :=
  payload.targets.lookup VpnKind.l3.wireKey

/-- A prefix that is reachable through a port. -/
structure StaticRoute where
  pfx : IpPrefix
  localPref : Option UInt32
  deriving DecidableEq

/-- The targets between which routes are advertised again. -/
structure Readvertise where
  sources : List String
  destinations : List String
  deriving DecidableEq

/-- A port as the agent sees it. -/
structure PortPayload where
  id : String
  network : String
  mac : Option MacAddress := none
  ip : Option Ip := none
  gateway : Option Ip := none
  advertiseFixedIps : Option Bool := none
  staticRoutes : List StaticRoute := []
  readvertise : Option Readvertise := none
  targets : TargetMap := []
  deriving DecidableEq

namespace Route

/-- The static route of the payload, if the route is one. -/
def static? : Route → Option StaticRoute
  | .static pfx pref => some ⟨pfx, pref⟩
  | .leak _ _ => none

/-- The targets that a route takes routes from: those of the VPN it refers
to, if that exists. -/
def sources (emitted : List VpnKind) (lookup : String → Option Vpn) :
    Route → List String
  | .static _ _ => []
  | .leak id _ =>
    match lookup id with
    | some source => (TargetMap.project emitted [source]).allImports
    | none => []

/-- The targets that a route hands routes to: those of the VPN that owns the
association, if the VPN referred to exists. -/
def destinations (emitted : List VpnKind) (lookup : String → Option Vpn)
    (owner : Option Vpn) : Route → List String
  | .static _ _ => []
  | .leak id _ =>
    match lookup id, owner with
    | some _, some owner => (TargetMap.project emitted [owner]).allExports
    | _, _ => []

end Route

namespace PortPayload

/-- The payload that detaches a port. -/
def detach (port : Port) : PortPayload where
  id := port.id
  network := port.network

/-- The targets between which the routes of some associations are advertised
again, out of the VPNs the port reaches. -/
def readvertiseOf (emitted : List VpnKind) (lookup : String → Option Vpn)
    (vpns : List Vpn) (associations : List PortAssociation) : Readvertise where
  sources := associations.flatMap fun a =>
    a.terms.routes.flatMap (Route.sources emitted lookup)
  destinations := associations.flatMap fun a =>
    a.terms.routes.flatMap
      (Route.destinations emitted lookup (vpns.find? (·.id == a.owner)))

/-- The payload that attaches a port which reaches `vpns`.  `lookup` finds the
VPNs that routes refer to. -/
def attach (emitted : List VpnKind) (port : Port) (gateway : Option Ip)
    (vpns : List Vpn) (associations : List PortAssociation)
    (lookup : String → Option Vpn) : PortPayload :=
  let readvertise := readvertiseOf emitted lookup vpns associations
  { id := port.id
    network := port.network
    mac := some port.mac
    ip := port.primaryIp?.map (·.address)
    gateway := gateway
    advertiseFixedIps :=
      if associations.isEmpty then none
      else some (associations.any (·.terms.advertiseFixedIps))
    staticRoutes := associations.flatMap fun a =>
      a.terms.routes.filterMap Route.static?
    readvertise := if readvertise.sources.isEmpty then none else some readvertise
    targets := (TargetMap.project emitted vpns).dropEmpty }

end PortPayload

/-- One message to the agent; those about a port go to the agent on a host. -/
inductive Notification where
  /-- A VPN applies to a network, with these targets. -/
  | update (vpn : VpnPayload)
  /-- A VPN no longer applies to a network. -/
  | delete (vpn : VpnPayload)
  /-- A port joins the VPNs it reaches. -/
  | attach (port : PortPayload) (host : String)
  /-- A port leaves all VPNs. -/
  | detach (port : PortPayload) (host : String)
  deriving DecidableEq

/-- The operation by which a notification is sent. -/
inductive Operation where
  | pushUpdate
  | pushDelete
  | attachPort
  | detachPort
  deriving DecidableEq

/-- The name of an operation. -/
def Operation.name : Operation → String
  | .pushUpdate => "push_update"
  | .pushDelete => "push_delete"
  | .attachPort => "attach_port"
  | .detachPort => "detach_port"

/-- The operation by which a notification is sent. -/
def Notification.operation : Notification → Operation
  | .update _ => .pushUpdate
  | .delete _ => .pushDelete
  | .attach _ _ => .attachPort
  | .detach _ _ => .detachPort

end VpnAttach
