import VpnAttach.Vpn.Basic

/-!
# Policy

The settings that the rules depend on: whose ports are left alone, which route
targets the agent gets, and how many routers a VPN may have.
-/

namespace VpnAttach

/-- The settings of the rules. -/
structure Policy where
  /-- Ports whose device owner starts like this belong to the network service
  itself. -/
  ownerPrefix : String := "network:"
  /-- Device owners of the network service whose ports are notified anyway. -/
  probeOwners : List String := ["network:probe", "compute:probe"]
  /-- The kinds of VPN whose route targets are sent to the agent. -/
  emitted : List VpnKind := [.l3]
  /-- How many router associations a VPN may have. -/
  routerLimit : Nat := 1
  deriving DecidableEq

/-- Whether a port with this device owner belongs to the network service and
is not a probe. -/
def Policy.ownsPort (policy : Policy) (deviceOwner : String) : Bool :=
  policy.ownerPrefix.toList.isPrefixOf deviceOwner.toList &&
    !policy.probeOwners.contains deviceOwner

end VpnAttach
