import VpnAttach.Tables.Mutation

/-!
# Queries of the tables

A `Query` is a request to look at stored objects.  Objects are found by id, as
lists, or by what they are associated with.
-/

namespace VpnAttach

/-- A request to look at stored objects. -/
inductive Query where
  | getVpn (id : String)
  | listVpns
  | getNetwork (owner id : String)
  | getRouter (owner id : String)
  | getPort (owner id : String)
  | listNetworks (owner : String)
  | listRouters (owner : String)
  | listPorts (owner : String)
  /-- The VPNs associated with a network. -/
  | vpnsOnNetwork (network : String)
  /-- The VPNs associated with a router. -/
  | vpnsOnRouter (router : String)
  /-- The VPNs associated with a port. -/
  | vpnsOnPort (port : String)
  /-- The associations of all VPNs with a port. -/
  | associationsOnPort (port : String)
  deriving DecidableEq

/-- The answer to a query. -/
def Query.answer (t : Tables) : Query → Except Refusal Reply
  | .getVpn id => (t.getVpn id).map .vpn
  | .listVpns => .ok (.vpns t.listVpns)
  | .getNetwork owner id => (t.getNetwork owner id).map .network
  | .getRouter owner id => (t.getRouter owner id).map .router
  | .getPort owner id => (t.getPort owner id).map .port
  | .listNetworks owner => (t.listNetworks owner).map .networks
  | .listRouters owner => (t.listRouters owner).map .routers
  | .listPorts owner => (t.listPorts owner).map .ports
  | .vpnsOnNetwork network => .ok (.vpns (t.vpnsOnNetwork network))
  | .vpnsOnRouter router => .ok (.vpns (t.vpnsOnRouter router))
  | .vpnsOnPort port => .ok (.vpns (t.vpnsOnPort port))
  | .associationsOnPort port => .ok (.ports (t.associationsOnPort port))

end VpnAttach
