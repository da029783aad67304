import VpnAttach.Address.Json
import VpnAttach.Json.Record
import VpnAttach.Topology.Basic

/-!
# Topology objects as JSON
-/

namespace VpnAttach

open Json

/-- A status, as its name. -/
def PortStatus.toJson (status : PortStatus) : Json :=
  .str status.name

/-- The status a name stands for. -/
def PortStatus.ofJson? (dialect : Dialect) (json : Json) : Option PortStatus :=
  json.name? dialect >>= PortStatus.ofName?

namespace FixedIp

/-- The encoding of an address of a port. -/
def toJson (ip : FixedIp) : Json :=
  .obj [("subnet_id", .str ip.subnet), ("ip_address", ip.address.toJson)]

/-- Decodes an address of a port. -/
def ofJson? (dialect : Dialect) (json : Json) : Option FixedIp := do
  let [subnet, address] ← json.record? dialect ["subnet_id", "ip_address"] | none
  return {
    subnet := ← required string? subnet
    address := ← required Ip.ofJson? address }

end FixedIp

namespace Port

/-- The encoding of a port. -/
def toJson (port : Port) : Json :=
  .obj [
    ("id", .str port.id),
    ("network_id", .str port.network),
    ("mac_address", port.mac.toJson),
    ("fixed_ips", .arr (port.fixedIps.map FixedIp.toJson)),
    ("device_owner", .str port.deviceOwner),
    ("status", port.status.toJson),
    ("host_id", .str port.host),
    ("admin_state_up", .bool port.adminStateUp)]

/-- The members of a port. -/
def memberNames : List String :=
  ["id", "network_id", "mac_address", "fixed_ips", "device_owner", "status",
   "host_id", "admin_state_up"]

/-- Decodes a port. -/
def ofJson? (dialect : Dialect) (json : Json) : Option Port := do
  let [id, network, mac, fixedIps, deviceOwner, status, host, adminStateUp] ←
    json.record? dialect memberNames | none
  return {
    id := ← required string? id
    network := ← required string? network
    mac := ← required MacAddress.ofJson? mac
    fixedIps := ← withDefault [] (list? (FixedIp.ofJson? dialect)) fixedIps
    deviceOwner := ← withDefault "" string? deviceOwner
    status := ← withDefault .down (PortStatus.ofJson? dialect) status
    host := ← withDefault "" string? host
    adminStateUp := ← withDefault true bool? adminStateUp }

end Port

namespace Subnet

/-- The encoding of a subnet. -/
def toJson (subnet : Subnet) : Json :=
  .obj [
    ("id", .str subnet.id),
    ("network_id", .str subnet.network),
    ("cidr", subnet.cidr.toJson),
    ("gateway_ip", orNull Ip.toJson subnet.gateway)]

/-- Decodes a subnet. -/
def ofJson? (dialect : Dialect) (json : Json) : Option Subnet := do
  let [id, network, cidr, gateway] ← json.record? dialect
    ["id", "network_id", "cidr", "gateway_ip"] | none
  return {
    id := ← required string? id
    network := ← required string? network
    cidr := ← required IpPrefix.ofJson? cidr
    gateway := ← ifGiven Ip.ofJson? gateway }

end Subnet

namespace Network

/-- The encoding of a network. -/
def toJson (network : Network) : Json :=
  .obj [
    ("id", .str network.id),
    ("tenant_id", .str network.tenant),
    ("router:external", .bool network.external)]

/-- Decodes a network. -/
def ofJson? (dialect : Dialect) (json : Json) : Option Network := do
  let [id, tenant, external] ← json.record? dialect
    ["id", "tenant_id", "router:external"] | none
  return {
    id := ← required string? id
    tenant := ← withDefault "" string? tenant
    external := ← withDefault false bool? external }

end Network
end VpnAttach
