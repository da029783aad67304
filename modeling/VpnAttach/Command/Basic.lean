import VpnAttach.Lifecycle
import VpnAttach.Topology.State

/-!
# Commands

What the system can be asked to do: to change or show the stored VPNs and
associations, and to take note of changes of the topology.
-/

namespace VpnAttach

/-- A command. -/
inductive Command where
  /-- Changes one stored object. -/
  | mutate (mutation : Mutation)
  | showVpn (id : String)
  | listVpns
  | addNetwork (network : Network)
  | addSubnet (subnet : Subnet)
  /-- A port is there; it may be known already. -/
  | createPort (port : Port)
  /-- A port has changed; it may be unknown so far. -/
  | updatePort (port : Port)
  | setPortStatus (port : String) (status : PortStatus)
  | deletePort (port : String)
  /-- A router is to be plugged into a network. -/
  | addInterface (router network : String)
  | removeInterface (router network : String)
  deriving DecidableEq

/-- The name of a command. -/
def Command.name : Command → String
  | .mutate m => m.action
  | .showVpn _ => "show_bgpvpn"
  | .listVpns => "list_bgpvpns"
  | .addNetwork _ => "add_network"
  | .addSubnet _ => "add_subnet"
  | .createPort _ => "create_port"
  | .updatePort _ => "update_port"
  | .setPortStatus _ _ => "set_port_status"
  | .deletePort _ => "delete_port"
  | .addInterface _ _ => "add_router_interface"
  | .removeInterface _ _ => "remove_router_interface"

end VpnAttach
