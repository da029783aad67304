import VpnAttach.Payload.Basic
import VpnAttach.Vpn.Json

/-!
# Payloads and notifications as JSON

The target lists of a payload stand next to its own members, under the wire
keys of the VPN kinds.  Decoding takes every member that is not one of the
payload's own for target lists.
-/

namespace VpnAttach

open Json

namespace TargetLists

/-- The encoding of target lists. -/
def toJson (lists : TargetLists) : Json :=
  .obj [("import_rt", strings lists.imports), ("export_rt", strings lists.exports)]

/-- Decodes target lists. -/
def ofJson? (dialect : Dialect) (json : Json) : Option TargetLists := do
  let [imports, exports] ← json.record? dialect ["import_rt", "export_rt"] | none
  return {
    imports := ← required (list? string?) imports
    exports := ← required (list? string?) exports }

end TargetLists

namespace TargetMap

/-- The members that stand for target lists. -/
def toMembers (targets : TargetMap) : List (String × Json) :=
  targets.map fun (key, lists) => (key, lists.toJson)

/-- The encoding of target lists on their own. -/
def toJson (targets : TargetMap) : Json :=
  .obj targets.toMembers

/-- The target lists that members stand for; all of them have to be such. -/
def ofMembers? (members : List (String × Json)) : Option TargetMap :=
  if heldMembers members then
    (members.mapM fun member : String × Json =>
      (TargetLists.ofJson? .tagged member.2).map (member.1, ·)).map Sorted.ofList
  else none

end TargetMap

namespace VpnPayload

/-- The encoding of a VPN payload. -/
def toJson (payload : VpnPayload) : Json :=
  .obj ([("id", .str payload.id), ("network_id", .str payload.network)] ++
    payload.targets.toMembers)

/-- Decodes a VPN payload. -/
def ofJson? (json : Json) : Option VpnPayload := do
  let ([id, network], rest) ← json.membersAndRest? ["id", "network_id"] | none
  return {
    id := ← required string? id
    network := ← required string? network
    targets := ← TargetMap.ofMembers? rest }

end VpnPayload

namespace StaticRoute

/-- The encoding of a static route. -/
def toJson (route : StaticRoute) : Json :=
  .obj (("prefix", route.pfx.toJson) ::
    memberIf "local_pref" (fun n => .int n.toNat) route.localPref)

/-- Decodes a static route. -/
def ofJson? (dialect : Dialect) (json : Json) : Option StaticRoute := do
  let [pfx, pref] ← json.record? dialect ["prefix", "local_pref"] | none
  return {
    pfx := ← required IpPrefix.ofJson? pfx
    localPref := ← ifGiven Route.prefOfJson? pref }

end StaticRoute

namespace Readvertise

/-- The encoding of targets between which routes are advertised again. -/
def toJson (readvertise : Readvertise) : Json :=
  .obj [
    ("from_rt", strings readvertise.sources),
    ("to_rt", strings readvertise.destinations)]

/-- Decodes targets between which routes are advertised again. -/
def ofJson? (dialect : Dialect) (json : Json) : Option Readvertise := do
  let [sources, destinations] ← json.record? dialect ["from_rt", "to_rt"] | none
  return {
    sources := ← required (list? string?) sources
    destinations := ← required (list? string?) destinations }

end Readvertise

namespace PortPayload

/-- The encoding of a port payload.  Parts that say nothing are left out. -/
def toJson (payload : PortPayload) : Json :=
  .obj ([("id", .str payload.id), ("network_id", .str payload.network)] ++
    memberIf "mac_address" MacAddress.toJson payload.mac ++
    memberIf "ip_address" Ip.toJson payload.ip ++
    memberIf "gateway_ip" Ip.toJson payload.gateway ++
    memberIf "advertise_fixed_ips" .bool payload.advertiseFixedIps ++
    (if payload.staticRoutes.isEmpty then []
      else [("static_routes", .arr (payload.staticRoutes.map StaticRoute.toJson))]) ++
    memberIf "readvertise" Readvertise.toJson payload.readvertise ++
    payload.targets.toMembers)

/-- The members of a port payload, apart from target lists. -/
def memberNames : List String :=
  ["id", "network_id", "mac_address", "ip_address", "gateway_ip",
   "advertise_fixed_ips", "static_routes", "readvertise"]

/-- Decodes a port payload. -/
def ofJson? (dialect : Dialect) (json : Json) : Option PortPayload := do
  let ([id, network, mac, ip, gateway, advertise, routes, readvertise], rest) ←
    json.membersAndRest? memberNames | none
  return {
    id := ← required string? id
    network := ← required string? network
    mac := ← ifGiven MacAddress.ofJson? mac
    ip := ← ifGiven Ip.ofJson? ip
    gateway := ← ifGiven Ip.ofJson? gateway
    advertiseFixedIps := ← ifGiven bool? advertise
    staticRoutes := ← withDefault [] (list? (StaticRoute.ofJson? dialect)) routes
    readvertise := ← ifGiven (Readvertise.ofJson? dialect) readvertise
    targets := ← TargetMap.ofMembers? rest }

end PortPayload

namespace Notification

/-- The encoding of a notification. -/
def toJson : Notification → Json
  | .update vpn => .obj [("op", .str "update"), ("bgpvpn", vpn.toJson)]
  | .delete vpn => .obj [("op", .str "delete"), ("bgpvpn", vpn.toJson)]
  | .attach port host =>
    .obj [("op", .str "attach"), ("port", port.toJson), ("host", .str host)]
  | .detach port host =>
    .obj [("op", .str "detach"), ("port", port.toJson), ("host", .str host)]

/-- Decodes a notification. -/
def ofJson? (json : Json) : Option Notification := do
  let (tag, body) ← json.tagged? "op"
  match ← tag.variant? .plain ["update", "delete", "attach", "detach"] with
  | "update" =>
    let [vpn] ← body.record? .tagged ["bgpvpn"] | none
    return .update (← required VpnPayload.ofJson? vpn)
  | "delete" =>
    let [vpn] ← body.record? .tagged ["bgpvpn"] | none
    return .delete (← required VpnPayload.ofJson? vpn)
  | "attach" =>
    let [port, host] ← body.record? .tagged ["port", "host"] | none
    return .attach (← required (PortPayload.ofJson? .tagged) port)
      (← required string? host)
  | _ =>
    let [port, host] ← body.record? .tagged ["port", "host"] | none
    return .detach (← required (PortPayload.ofJson? .tagged) port)
      (← required string? host)

end Notification
end VpnAttach
