import VpnAttach.Agent
import VpnAttach.Difference
import VpnAttach.Reach
import VpnAttach.Tables.Mutation
import VpnAttach.Vpn.Json

/-!
# Announcements

What the agent is told about a change.  VPNs are announced per network, and
only on networks with an active port.  A network that a VPN still reaches by
another way is not withdrawn from it but updated.  After a change of its own
associations a port is attached anew, or detached if nothing reaches it any
more.
-/

namespace VpnAttach.Rules

variable (policy : Policy) (topology : Topology) (tables : Tables)

/-! ## Parts of plans -/

/-- Updates a VPN on those of the networks that have an active port. -/
def pushUpdates (vpn : Vpn) (networks : List String) : List Notification :=
  (networks.filter topology.hasActivePort).map fun network =>
    .update (VpnPayload.make policy.emitted vpn network)

/-- Deletes a VPN on those of the networks that have an active port. -/
def pushDeletes (vpn : Vpn) (networks : List String) : List Notification :=
  (networks.filter topology.hasActivePort).map fun network =>
    .delete (VpnPayload.make policy.emitted vpn network)

/-- The payload that attaches a port to the given VPNs. -/
def attachPayload (port : Port) (vpns : List Vpn) : PortPayload :=
  PortPayload.attach policy.emitted port
    (port.primaryIp?.bind fun ip => topology.gateway? ip.subnet)
    vpns (tables.associationsOnPort port.id) tables.vpn?

/-- Attaches a port to all VPNs that reach it; nothing if there is none. -/
def attachPort (port : Port) : List Notification :=
  let vpns := vpnsOfPort topology tables port
  if vpns.isEmpty then []
  else [.attach (attachPayload policy topology tables port vpns) port.host]

/-- Detaches a port; nothing if no VPN reaches it. -/
def detachPort (port : Port) : List Notification :=
  if (vpnsOfPort topology tables port).isEmpty then []
  else [.detach (PortPayload.detach port) port.host]

/-- Tells about the status of a port: an active port is attached and one that
is down is detached. -/
def notifyStatus (port : Port) : List Notification :=
  match port.status with
  | .active => attachPort policy topology tables port
  | .down => detachPort topology tables port
  | _ => []

/-- Attaches an active port anew, or detaches it if nothing reaches it. -/
def refreshPort (id : String) : List Notification :=
  match topology.port? id with
  | none => []
  | some port =>
    if ignoresPort policy topology port || !port.status.isActive then []
    else
      let vpns := vpnsOfPort topology tables port
      if vpns.isEmpty then [.detach (PortPayload.detach port) port.host]
      else [.attach (attachPayload policy topology tables port vpns) port.host]

/-- Whether a VPN reaches a network. -/
def stillReaches (vpn : Vpn) (network : String) : Bool :=
  (vpnsOfNetwork topology tables network).any (·.id == vpn.id)

/-- Withdraws a VPN from networks after one of its associations ended: deletes
it where it is gone, then updates it where it is still there. -/
def withdraw (vpn : Vpn) (networks : List String) : Plan :=
  [pushDeletes policy topology vpn
      (networks.filter fun n => !stillReaches topology tables vpn n),
   pushUpdates policy topology vpn
      (networks.filter (stillReaches topology tables vpn))]

/-! ## Changes -/

/-- The attributes of a VPN that the agent has to know. -/
def vpnKeys : List String :=
  ["route_targets", "import_targets", "export_targets", "networks", "routers"]

/-- The attributes of a router association that the agent has to know. -/
def routerKeys : List String :=
  ["advertise_extra_routes"]

/-- A plan about the owner of an association, as it is stored; nothing if it is
gone. -/
def aboutOwner (owner : String) (plan : Vpn → Plan) : Plan :=
  match tables.vpn? owner with
  | some vpn => plan vpn
  | none => []

/-- The plan that announces a committed change. -/
def plan : Change → Plan
  | .vpnCreated vpn =>
    [pushUpdates policy topology vpn (networksOf topology vpn)]
  | .vpnUpdated old new =>
    if (Difference.between new.toJson old.toJson).touches vpnKeys then
      [pushUpdates policy topology new (networksOf topology new)]
    else []
  | .vpnDeleted vpn =>
    pushDeletes policy topology vpn (networksOf topology vpn) ::
      vpn.ports.map (refreshPort policy topology tables)
  | .networkCreated a =>
    aboutOwner tables a.owner fun vpn =>
      [pushUpdates policy topology vpn [a.target]]
  | .networkDeleted a =>
    aboutOwner tables a.owner fun vpn =>
      withdraw policy topology tables vpn [a.target]
  | .routerCreated a =>
    aboutOwner tables a.owner fun vpn =>
      [pushUpdates policy topology vpn (topology.networksOf a.target)]
  | .routerUpdated old new =>
    if (Difference.between (Association.routerToJson new)
        (Association.routerToJson old)).touches routerKeys then
      aboutOwner tables new.owner fun vpn =>
        [pushUpdates policy topology vpn (topology.networksOf new.target)]
    else []
  | .routerDeleted a =>
    aboutOwner tables a.owner fun vpn =>
      withdraw policy topology tables vpn (topology.networksOf a.target)
  | .portCreated a => [refreshPort policy topology tables a.target]
  | .portUpdated old new =>
    if (Difference.between (Association.portToJson new)
        (Association.portToJson old)).isEmpty then []
    else [refreshPort policy topology tables new.target]
  | .portDeleted a => [refreshPort policy topology tables a.target]

end VpnAttach.Rules
