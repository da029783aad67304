import VpnAttach.Command.Basic
import VpnAttach.Json.Reader
import VpnAttach.Topology.Json
import VpnAttach.Vpn.Json

/-!
# Commands as JSON

A command is a tagged record: the member `command` has its name, and the other
members are those of the command.
-/

namespace VpnAttach

open Json

namespace Mutation

/-- The members of a mutation. -/
def toMembers : Mutation → List (String × Json)
  | .createVpn request => [("bgpvpn", request.toJson)]
  | .updateVpn id changes => [("id", .str id), ("changes", changes.toJson)]
  | .deleteVpn id => [("id", .str id)]
  | .createNetwork owner request =>
    [("bgpvpn_id", .str owner),
     ("association", AssociationRequest.networkToJson request)]
  | .createRouter owner request =>
    [("bgpvpn_id", .str owner),
     ("association", AssociationRequest.routerToJson request)]
  | .createPort owner request =>
    [("bgpvpn_id", .str owner),
     ("association", AssociationRequest.portToJson request)]
  | .updateRouter owner id changes =>
    [("bgpvpn_id", .str owner), ("id", .str id), ("changes", changes.toJson)]
  | .updatePort owner id changes =>
    [("bgpvpn_id", .str owner), ("id", .str id), ("changes", changes.toJson)]
  | .deleteNetwork owner id | .deleteRouter owner id | .deletePort owner id =>
    [("bgpvpn_id", .str owner), ("id", .str id)]

end Mutation

namespace Command

/-- The members of a command, apart from its name. -/
def toMembers : Command → List (String × Json)
  | .mutate m => m.toMembers
  | .showVpn id => [("id", .str id)]
  | .listVpns => []
  | .addNetwork network => [("network", network.toJson)]
  | .addSubnet subnet => [("subnet", subnet.toJson)]
  | .createPort port | .updatePort port => [("port", port.toJson)]
  | .setPortStatus port status =>
    [("port_id", .str port), ("status", status.toJson)]
  | .deletePort port => [("port_id", .str port)]
  | .addInterface router network | .removeInterface router network =>
    [("router_id", .str router), ("network_id", .str network)]

/-- The encoding of a command. -/
def toJson (command : Command) : Json :=
  .obj (("command", .str command.name) :: command.toMembers)

/-- The body of a command with one member. -/
def one? (key : String) (decode : Json → Option α) (build : α → Command)
    (body : Json) : Option Command := do
  let [value] ← body.record? .tagged [key] | none
  return build (← required decode value)

/-- The body of a command with a name and one more member. -/
def two? (first second : String) (decode : Json → Option α)
    (build : String → α → Command) (body : Json) : Option Command := do
  let [name, value] ← body.record? .tagged [first, second] | none
  return build (← required string? name) (← required decode value)

/-- The body of a command that changes the terms of an association. -/
def terms? (decode : Json → Option α) (build : String → String → α → Mutation)
    (body : Json) : Option Command := do
  let [owner, id, changes] ←
    body.record? .tagged ["bgpvpn_id", "id", "changes"] | none
  return .mutate <|
    build (← required string? owner) (← required string? id)
      (← required decode changes)

/-- The body of a command that addresses an association. -/
def association? (build : String → String → Mutation) : Json → Option Command :=
  two? "bgpvpn_id" "id" string? fun owner id => .mutate (build owner id)

/-- The body of a command that asks for an association. -/
def associate? (decode : Json → Option α) (build : String → α → Mutation) :
    Json → Option Command :=
  two? "bgpvpn_id" "association" decode fun owner request =>
    .mutate (build owner request)

/-- Decodes the body of the command with the given name. -/
def ofBody? (name : String) (body : Json) : Option Command :=
  match name with
  | "create_bgpvpn" =>
    one? "bgpvpn" (VpnRequest.ofJson? .tagged) (.mutate ∘ .createVpn) body
  | "update_bgpvpn" =>
    two? "id" "changes" (VpnUpdate.ofJson? .tagged)
      (fun id changes => .mutate (.updateVpn id changes)) body
  | "delete_bgpvpn" => one? "id" string? (.mutate ∘ .deleteVpn) body
  | "show_bgpvpn" => one? "id" string? .showVpn body
  | "list_bgpvpns" => if body.isBare then some .listVpns else none
  | "create_net_assoc" =>
    associate? (AssociationRequest.networkOfJson? .tagged) .createNetwork body
  | "delete_net_assoc" => association? .deleteNetwork body
  | "create_router_assoc" =>
    associate? (AssociationRequest.routerOfJson? .tagged) .createRouter body
  | "update_router_assoc" =>
    terms? (RouterTermsUpdate.ofJson? .tagged) .updateRouter body
  | "delete_router_assoc" => association? .deleteRouter body
  | "create_port_assoc" =>
    associate? (AssociationRequest.portOfJson? .tagged) .createPort body
  | "update_port_assoc" =>
    terms? (PortTermsUpdate.ofJson? .tagged) .updatePort body
  | "delete_port_assoc" => association? .deletePort body
  | "add_network" =>
    one? "network" (Network.ofJson? .tagged) .addNetwork body
  | "add_subnet" => one? "subnet" (Subnet.ofJson? .tagged) .addSubnet body
  | "create_port" => one? "port" (Port.ofJson? .tagged) .createPort body
  | "update_port" => one? "port" (Port.ofJson? .tagged) .updatePort body
  | "set_port_status" =>
    two? "port_id" "status" (PortStatus.ofJson? .tagged) .setPortStatus body
  | "delete_port" => one? "port_id" string? .deletePort body
  | "add_router_interface" =>
    two? "router_id" "network_id" string? .addInterface body
  | "remove_router_interface" =>
    two? "router_id" "network_id" string? .removeInterface body
  | _ => none

/-- Decodes a command. -/
def ofJson? (json : Json) : Option Command := do
  let (tag, body) ← json.tagged? "command"
  ofBody? (← tag.string?) body

/-- The command written by a text. -/
def ofString? (s : String) : Option Command :=
  Json.ofString? s >>= ofJson?

end Command

end VpnAttach
