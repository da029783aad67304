import VpnAttach.Address.Json
import VpnAttach.Json.Record
import VpnAttach.Vpn.Association
import VpnAttach.Vpn.Basic

/-!
# VPNs and associations as JSON

The encoders write members in the order of the fields; values that were not
given are left out, apart from the tenant of an association request, which is
written as `null`.
-/

namespace VpnAttach

open Json

/-! ## VPNs -/

/-- A kind, as its short name. -/
def VpnKind.toJson (kind : VpnKind) : Json :=
  .str kind.name

/-- The kind a name stands for. -/
def VpnKind.ofJson? (dialect : Dialect) (json : Json) : Option VpnKind :=
  json.name? dialect >>= VpnKind.ofName?

/-- Route targets, as an array. -/
def RouteTarget.listToJson (targets : List RouteTarget) : Json :=
  .arr (targets.map RouteTarget.toJson)

namespace Vpn

/-- The encoding of a VPN. -/
def toJson (vpn : Vpn) : Json :=
  .obj [
    ("id", .str vpn.id),
    ("tenant_id", .str vpn.tenant),
    ("name", .str vpn.name),
    ("type", vpn.kind.toJson),
    ("route_targets", RouteTarget.listToJson vpn.routeTargets),
    ("import_targets", RouteTarget.listToJson vpn.importTargets),
    ("export_targets", RouteTarget.listToJson vpn.exportTargets),
    ("route_distinguishers", strings vpn.routeDistinguishers),
    ("networks", strings vpn.networks),
    ("routers", strings vpn.routers),
    ("ports", strings vpn.ports)]

/-- The members of a VPN. -/
def memberNames : List String :=
  ["id", "tenant_id", "name", "type", "route_targets", "import_targets",
   "export_targets", "route_distinguishers", "networks", "routers", "ports"]

/-- Decodes a VPN. -/
def ofJson? (dialect : Dialect) (json : Json) : Option Vpn := do
  let [id, tenant, name, kind, targets, imports, exports, distinguishers,
    networks, routers, ports] ← json.record? dialect memberNames | none
  return {
    id := ← required string? id
    tenant := ← required string? tenant
    name := ← withDefault "" string? name
    kind := ← withDefault .l3 (VpnKind.ofJson? dialect) kind
    routeTargets := ← withDefault [] (list? RouteTarget.ofJson?) targets
    importTargets := ← withDefault [] (list? RouteTarget.ofJson?) imports
    exportTargets := ← withDefault [] (list? RouteTarget.ofJson?) exports
    routeDistinguishers := ← withDefault [] (list? string?) distinguishers
    networks := ← withDefault [] (list? string?) networks
    routers := ← withDefault [] (list? string?) routers
    ports := ← withDefault [] (list? string?) ports }

end Vpn

namespace VpnRequest

/-- The encoding of a request. -/
def toJson (request : VpnRequest) : Json :=
  .obj (memberIf "id" .str request.id ++ [
    ("tenant_id", .str request.tenant),
    ("name", .str request.name),
    ("type", request.kind.toJson),
    ("route_targets", RouteTarget.listToJson request.routeTargets),
    ("import_targets", RouteTarget.listToJson request.importTargets),
    ("export_targets", RouteTarget.listToJson request.exportTargets),
    ("route_distinguishers", strings request.routeDistinguishers)])

/-- The members of a request. -/
def memberNames : List String :=
  ["id", "tenant_id", "name", "type", "route_targets", "import_targets",
   "export_targets", "route_distinguishers"]

/-- Decodes a request. -/
def ofJson? (dialect : Dialect) (json : Json) : Option VpnRequest := do
  let [id, tenant, name, kind, targets, imports, exports, distinguishers] ←
    json.record? dialect memberNames | none
  return {
    id := ← ifGiven string? id
    tenant := ← required string? tenant
    name := ← withDefault "" string? name
    kind := ← withDefault .l3 (VpnKind.ofJson? dialect) kind
    routeTargets := ← withDefault [] (list? RouteTarget.ofJson?) targets
    importTargets := ← withDefault [] (list? RouteTarget.ofJson?) imports
    exportTargets := ← withDefault [] (list? RouteTarget.ofJson?) exports
    routeDistinguishers := ← withDefault [] (list? string?) distinguishers }

end VpnRequest

namespace VpnUpdate

/-- The encoding of an update. -/
def toJson (changes : VpnUpdate) : Json :=
  .obj (memberIf "name" .str changes.name ++
    memberIf "route_targets" RouteTarget.listToJson changes.routeTargets ++
    memberIf "import_targets" RouteTarget.listToJson changes.importTargets ++
    memberIf "export_targets" RouteTarget.listToJson changes.exportTargets ++
    memberIf "route_distinguishers" strings changes.routeDistinguishers)

/-- The members of an update. -/
def memberNames : List String :=
  ["name", "route_targets", "import_targets", "export_targets",
   "route_distinguishers"]

/-- Decodes an update. -/
def ofJson? (dialect : Dialect) (json : Json) : Option VpnUpdate := do
  let [name, targets, imports, exports, distinguishers] ←
    json.record? dialect memberNames | none
  return {
    name := ← ifGiven string? name
    routeTargets := ← ifGiven (list? RouteTarget.ofJson?) targets
    importTargets := ← ifGiven (list? RouteTarget.ofJson?) imports
    exportTargets := ← ifGiven (list? RouteTarget.ofJson?) exports
    routeDistinguishers := ← ifGiven (list? string?) distinguishers }

end VpnUpdate

/-! ## Routes -/

namespace Route

/-- The encoding of a route. -/
def toJson : Route → Json
  | .static pfx pref =>
    .obj ([("type", .str "prefix"), ("prefix", pfx.toJson)] ++
      memberIf "local_pref" (fun n => .int n.toNat) pref)
  | .leak vpn pref =>
    .obj ([("type", .str "bgpvpn"), ("bgpvpn_id", .str vpn)] ++
      memberIf "local_pref" (fun n => .int n.toNat) pref)

/-- A local preference. -/
def prefOfJson? (json : Json) : Option UInt32 :=
  (json.natBelow? UInt32.size).map UInt32.ofNat

/-- Decodes a route. -/
def ofJson? (dialect : Dialect) (json : Json) : Option Route := do
  let (tag, body) ← json.tagged? "type"
  match ← tag.variant? dialect ["prefix", "bgpvpn"] with
  | "prefix" =>
    let [pfx, pref] ← body.record? .tagged ["prefix", "local_pref"] | none
    return .static (← required IpPrefix.ofJson? pfx) (← ifGiven prefOfJson? pref)
  | _ =>
    let [vpn, pref] ← body.record? .tagged ["bgpvpn_id", "local_pref"] | none
    return .leak (← required string? vpn) (← ifGiven prefOfJson? pref)

/-- Routes, as an array. -/
def listToJson (routes : List Route) : Json :=
  .arr (routes.map toJson)

end Route

/-! ## Associations -/

namespace Association

/-- The encoding of a network association. -/
def networkToJson (a : NetworkAssociation) : Json :=
  .obj [
    ("id", .str a.id),
    ("bgpvpn_id", .str a.owner),
    ("network_id", .str a.target),
    ("tenant_id", .str a.tenant)]

/-- Decodes a network association. -/
def networkOfJson? (dialect : Dialect) (json : Json) :
    Option NetworkAssociation := do
  let [id, owner, target, tenant] ← json.record? dialect
    ["id", "bgpvpn_id", "network_id", "tenant_id"] | none
  return {
    id := ← required string? id
    owner := ← required string? owner
    target := ← required string? target
    tenant := ← required string? tenant
    terms := () }

/-- The encoding of a router association. -/
def routerToJson (a : RouterAssociation) : Json :=
  .obj [
    ("id", .str a.id),
    ("bgpvpn_id", .str a.owner),
    ("router_id", .str a.target),
    ("tenant_id", .str a.tenant),
    ("advertise_extra_routes", .bool a.terms.advertiseExtraRoutes)]

/-- Decodes a router association. -/
def routerOfJson? (dialect : Dialect) (json : Json) :
    Option RouterAssociation := do
  let [id, owner, target, tenant, advertise] ← json.record? dialect
    ["id", "bgpvpn_id", "router_id", "tenant_id", "advertise_extra_routes"] | none
  return {
    id := ← required string? id
    owner := ← required string? owner
    target := ← required string? target
    tenant := ← required string? tenant
    terms := { advertiseExtraRoutes := ← withDefault true bool? advertise } }

/-- The encoding of a port association. -/
def portToJson (a : PortAssociation) : Json :=
  .obj [
    ("id", .str a.id),
    ("bgpvpn_id", .str a.owner),
    ("port_id", .str a.target),
    ("tenant_id", .str a.tenant),
    ("advertise_fixed_ips", .bool a.terms.advertiseFixedIps),
    ("routes", Route.listToJson a.terms.routes)]

/-- Decodes a port association. -/
def portOfJson? (dialect : Dialect) (json : Json) : Option PortAssociation := do
  let [id, owner, target, tenant, advertise, routes] ← json.record? dialect
    ["id", "bgpvpn_id", "port_id", "tenant_id", "advertise_fixed_ips", "routes"]
    | none
  return {
    id := ← required string? id
    owner := ← required string? owner
    target := ← required string? target
    tenant := ← required string? tenant
    terms := {
      advertiseFixedIps := ← withDefault true bool? advertise
      routes := ← withDefault [] (list? (Route.ofJson? dialect)) routes } }

end Association

namespace AssociationRequest

/-- The encoding of a request for a network association. -/
def networkToJson (r : NetworkAssociationRequest) : Json :=
  .obj (memberIf "id" .str r.id ++ [
    ("network_id", .str r.target),
    ("tenant_id", orNull .str r.tenant)])

/-- Decodes a request for a network association. -/
def networkOfJson? (dialect : Dialect) (json : Json) :
    Option NetworkAssociationRequest := do
  let [id, target, tenant] ← json.record? dialect
    ["id", "network_id", "tenant_id"] | none
  return {
    id := ← ifGiven string? id
    target := ← required string? target
    tenant := ← ifGiven string? tenant
    terms := () }

/-- The encoding of a request for a router association. -/
def routerToJson (r : RouterAssociationRequest) : Json :=
  .obj (memberIf "id" .str r.id ++ [
    ("router_id", .str r.target),
    ("tenant_id", orNull .str r.tenant),
    ("advertise_extra_routes", .bool r.terms.advertiseExtraRoutes)])

/-- Decodes a request for a router association. -/
def routerOfJson? (dialect : Dialect) (json : Json) :
    Option RouterAssociationRequest := do
  let [id, target, tenant, advertise] ← json.record? dialect
    ["id", "router_id", "tenant_id", "advertise_extra_routes"] | none
  return {
    id := ← ifGiven string? id
    target := ← required string? target
    tenant := ← ifGiven string? tenant
    terms := { advertiseExtraRoutes := ← withDefault true bool? advertise } }

/-- The encoding of a request for a port association. -/
def portToJson (r : PortAssociationRequest) : Json :=
  .obj (memberIf "id" .str r.id ++ [
    ("port_id", .str r.target),
    ("tenant_id", orNull .str r.tenant),
    ("advertise_fixed_ips", .bool r.terms.advertiseFixedIps),
    ("routes", Route.listToJson r.terms.routes)])

/-- Decodes a request for a port association. -/
def portOfJson? (dialect : Dialect) (json : Json) :
    Option PortAssociationRequest := do
  let [id, target, tenant, advertise, routes] ← json.record? dialect
    ["id", "port_id", "tenant_id", "advertise_fixed_ips", "routes"] | none
  return {
    id := ← ifGiven string? id
    target := ← required string? target
    tenant := ← ifGiven string? tenant
    terms := {
      advertiseFixedIps := ← withDefault true bool? advertise
      routes := ← withDefault [] (list? (Route.ofJson? dialect)) routes } }

end AssociationRequest

/-- The encoding of new terms of a router association. -/
def RouterTermsUpdate.toJson (changes : RouterTermsUpdate) : Json :=
  .obj (memberIf "advertise_extra_routes" .bool changes.advertiseExtraRoutes)

/-- Decodes new terms of a router association. -/
def RouterTermsUpdate.ofJson? (dialect : Dialect) (json : Json) :
    Option RouterTermsUpdate := do
  let [advertise] ← json.record? dialect ["advertise_extra_routes"] | none
  return { advertiseExtraRoutes := ← ifGiven bool? advertise }

/-- The encoding of new terms of a port association. -/
def PortTermsUpdate.toJson (changes : PortTermsUpdate) : Json :=
  .obj (memberIf "advertise_fixed_ips" .bool changes.advertiseFixedIps ++
    memberIf "routes" Route.listToJson changes.routes)

/-- Decodes new terms of a port association. -/
def PortTermsUpdate.ofJson? (dialect : Dialect) (json : Json) :
    Option PortTermsUpdate := do
  let [advertise, routes] ← json.record? dialect
    ["advertise_fixed_ips", "routes"] | none
  return {
    advertiseFixedIps := ← ifGiven bool? advertise
    routes := ← ifGiven (list? (Route.ofJson? dialect)) routes }

end VpnAttach
