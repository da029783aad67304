import VpnAttach.Tables.Mutation
import VpnAttach.Vpn.Json

/-!
# Answers and changes as JSON
-/

namespace VpnAttach

/-- VPNs, as an array. -/
def Vpn.listToJson (vpns : List Vpn) : Json :=
  .arr (vpns.map Vpn.toJson)

/-- The encoding of the answer to a request. -/
def Reply.toJson : Reply → Json
  | .nothing => .null
  | .vpn value => value.toJson
  | .vpns values => Vpn.listToJson values
  | .network a => Association.networkToJson a
  | .networks rows => .arr (rows.map Association.networkToJson)
  | .router a => Association.routerToJson a
  | .routers rows => .arr (rows.map Association.routerToJson)
  | .port a => Association.portToJson a
  | .ports rows => .arr (rows.map Association.portToJson)

/-- The object a change is about; for an update, the old object and then the
new one. -/
def Change.objects : Change → List Json
  | .vpnCreated vpn | .vpnDeleted vpn => [vpn.toJson]
  | .vpnUpdated old new => [old.toJson, new.toJson]
  | .networkCreated a | .networkDeleted a => [Association.networkToJson a]
  | .routerCreated a | .routerDeleted a => [Association.routerToJson a]
  | .routerUpdated old new => [old, new].map Association.routerToJson
  | .portCreated a | .portDeleted a => [Association.portToJson a]
  | .portUpdated old new => [old, new].map Association.portToJson

/-- The change that an action of the given name makes.  Only an update needs the
old object. -/
def Change.ofObjects? (dialect : Json.Dialect) (action : String)
    (object old : Json) : Option Change := do
  let vpn := Vpn.ofJson? dialect
  let network := Association.networkOfJson? dialect
  let router := Association.routerOfJson? dialect
  let port := Association.portOfJson? dialect
  match action with
  | "create_bgpvpn" => return .vpnCreated (← vpn object)
  | "update_bgpvpn" => return .vpnUpdated (← vpn old) (← vpn object)
  | "delete_bgpvpn" => return .vpnDeleted (← vpn object)
  | "create_net_assoc" => return .networkCreated (← network object)
  | "delete_net_assoc" => return .networkDeleted (← network object)
  | "create_router_assoc" => return .routerCreated (← router object)
  | "update_router_assoc" => return .routerUpdated (← router old) (← router object)
  | "delete_router_assoc" => return .routerDeleted (← router object)
  | "create_port_assoc" => return .portCreated (← port object)
  | "update_port_assoc" => return .portUpdated (← port old) (← port object)
  | "delete_port_assoc" => return .portDeleted (← port object)
  | _ => none

/-- The encoding of tables: every VPN with its associations. -/
def Tables.toJson (t : Tables) : Json :=
  .arr <| t.listVpns.map fun vpn => .obj [
    ("bgpvpn", vpn.toJson),
    ("net_assocs",
      (Reply.networks (Rows.ownedBy vpn.id t.networks)).toJson),
    ("router_assocs", (Reply.routers (Rows.ownedBy vpn.id t.routers)).toJson),
    ("port_assocs", (Reply.ports (Rows.ownedBy vpn.id t.ports)).toJson)]

end VpnAttach
