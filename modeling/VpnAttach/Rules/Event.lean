import VpnAttach.Journal.Basic
import VpnAttach.Rules.Admission
import VpnAttach.Rules.Announcement

/-!
# Events of the topology

The orchestration layer reports ports and router interfaces that came, changed
or went.  What the agent has to learn is worked out anew for each event, and a
failure to tell it is only written down.  Plugging a router into a network is
announced beforehand and may be vetoed.
-/

namespace VpnAttach

/-- Something that happened to the topology.  A deletion of a port is reported
while the port is still known; all other events are reported afterwards. -/
inductive TopologyEvent where
  | portCreated (port : Port)
  | portUpdated (port previous : Port)
  | portDeleted (id : String)
  | interfaceAdded (router network : String)
  | interfaceRemoved (router network : String)
  deriving DecidableEq

namespace TopologyEvent

/-- The notice that the agent could not be told about an event. -/
def notice (error : NotifyError) : TopologyEvent → Notice
  | .portCreated port => .portCreation port.id error
  | .portUpdated port _ => .portUpdate port.id error
  | .portDeleted id => .portDeletion id error
  | .interfaceAdded router network => .interfaceAddition router network error
  | .interfaceRemoved router network => .interfaceRemoval router network error

end TopologyEvent

namespace Rules

/-- The VPNs of a router's associations, then those of the network's, each
once. -/
def interfaceVpns (tables : Tables) (router network : String) : List Vpn :=
  distinctBy (·.id) (tables.vpnsOnRouter router ++ tables.vpnsOnNetwork network)

/-- The plan that tells the agent about an event. -/
def eventPlan (policy : Policy) (topology : Topology) (tables : Tables) :
    TopologyEvent → Plan
  | .portCreated port =>
    if !port.status.isActive || ignoresPort policy topology port then []
    else [attachPort policy topology tables port]
  | .portUpdated port previous =>
    if port.status = previous.status || ignoresPort policy topology port then []
    else [notifyStatus policy topology tables port]
  | .portDeleted id =>
    match topology.port? id with
    | none => []
    | some port =>
      if !port.status.isActive || ignoresPort policy topology port then []
      else [detachPort topology tables port]
  | .interfaceAdded router network =>
    if topology.hasActivePort network then
      (interfaceVpns tables router network).map fun vpn =>
        pushUpdates policy topology vpn [network]
    else []
  | .interfaceRemoved router network =>
    if topology.hasActivePort network then
      let direct := tables.vpnsOnNetwork network
      let gone := (tables.vpnsOnRouter router).filter fun vpn =>
        !direct.any (·.id == vpn.id)
      (gone.map fun vpn => pushDeletes policy topology vpn [network]) ++
        direct.map fun vpn => pushUpdates policy topology vpn [network]
    else []

/-- The layer-three VPNs of a list. -/
def layerThree (vpns : List Vpn) : List Vpn :=
  vpns.filter (·.kind == .l3)

/-- Vetoes an interface between a router and a network whose associations are
with two different layer-three VPNs. -/
def checkInterface (tables : Tables) (router network : String) :
    Except Refusal Unit :=
  failWith <| (layerThree (tables.vpnsOnRouter router)).findSome? fun viaRouter =>
    (otherLayerThree viaRouter.id (tables.vpnsOnNetwork network)).map fun other =>
      .interface router viaRouter.id network other.id

/-- The record of a vetoed interface. -/
def vetoed (router network : String) (refusal : Refusal) : AuditRecord :=
  { category := .topologyEvent
    source := "TopologyEventReactor"
    action := "router_interface_add"
    outcome := .denied
    objectId := some (router ++ ":" ++ network)
    objectType := some "router_interface"
    error := some refusal.message }

end Rules
end VpnAttach
