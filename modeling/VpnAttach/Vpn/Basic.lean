import VpnAttach.Address.RouteTarget

/-!
# VPNs

A VPN (a BGPVPN object) belongs to a tenant, is of one kind for its whole
life, and carries the route targets its routes are imported from and exported
to.  The lists of networks, routers and ports are not its own: they are
derived from its associations, in the order these were created.
-/

namespace VpnAttach

/-- The kind of service a VPN provides. -/
inductive VpnKind where
  /-- Attachment at layer two (Ethernet). -/
  | l2
  /-- Attachment at layer three (IP). -/
  | l3
  deriving DecidableEq

namespace VpnKind

/-- The short name. -/
def name : VpnKind → String
  | .l2 => "l2"
  | .l3 => "l3"

/-- The key under which the agent expects route targets of this kind. -/
def wireKey : VpnKind → String
  | .l2 => "l2vpn"
  | .l3 => "l3vpn"

/-- Every kind, in the order of their names. -/
def all : List VpnKind :=
  [.l2, .l3]

/-- The kind with a given short name. -/
def ofName? (s : String) : Option VpnKind :=
  all.find? (·.name == s)

/-- The kind named by a text. -/
def ofString (s : String) : Except TextFault VpnKind :=
  match ofName? s with
  | some kind => .ok kind
  | none => .error (.vpnKind s)

end VpnKind

/-- A VPN together with the objects its associations point to. -/
structure Vpn where
  id : String
  tenant : String
  name : String := ""
  kind : VpnKind := .l3
  routeTargets : List RouteTarget := []
  importTargets : List RouteTarget := []
  exportTargets : List RouteTarget := []
  routeDistinguishers : List String := []
  networks : List String := []
  routers : List String := []
  ports : List String := []
  deriving DecidableEq

/-- A request for a new VPN; without an id one is allocated. -/
structure VpnRequest where
  id : Option String := none
  tenant : String
  name : String := ""
  kind : VpnKind := .l3
  routeTargets : List RouteTarget := []
  importTargets : List RouteTarget := []
  exportTargets : List RouteTarget := []
  routeDistinguishers : List String := []
  deriving DecidableEq

/-- The VPN asked for, under the given id and without associations. -/
def VpnRequest.toVpn (request : VpnRequest) (id : String) : Vpn where
  id := id
  tenant := request.tenant
  name := request.name
  kind := request.kind
  routeTargets := request.routeTargets
  importTargets := request.importTargets
  exportTargets := request.exportTargets
  routeDistinguishers := request.routeDistinguishers

/-- New values for some attributes of a VPN.  Kind and tenant are not among
them: they are fixed when the VPN is created. -/
structure VpnUpdate where
  name : Option String := none
  routeTargets : Option (List RouteTarget) := none
  importTargets : Option (List RouteTarget) := none
  exportTargets : Option (List RouteTarget) := none
  routeDistinguishers : Option (List String) := none
  deriving DecidableEq

/-- The VPN with the given values in place of its own. -/
def VpnUpdate.apply (changes : VpnUpdate) (vpn : Vpn) : Vpn :=
  { vpn with
    name := changes.name.getD vpn.name
    routeTargets := changes.routeTargets.getD vpn.routeTargets
    importTargets := changes.importTargets.getD vpn.importTargets
    exportTargets := changes.exportTargets.getD vpn.exportTargets
    routeDistinguishers :=
      changes.routeDistinguishers.getD vpn.routeDistinguishers }

end VpnAttach
