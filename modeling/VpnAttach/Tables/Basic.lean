import VpnAttach.Distinct
import VpnAttach.Tables.Rows

/-!
# Tables

The stored VPNs and their associations, each in creation order.  A stored VPN
has empty lists of networks, routers and ports; reading it fills them in from
the association tables.  Every write either succeeds as a whole or leaves the
tables as they were.
-/

namespace VpnAttach

/-- The stored VPNs and associations. -/
structure Tables where
  vpns : List Vpn := []
  networks : List NetworkAssociation := []
  routers : List RouterAssociation := []
  ports : List PortAssociation := []
  deriving DecidableEq

namespace Tables

/-! ## Reading -/

/-- The row of a VPN, with empty lists of associated objects. -/
def row? (t : Tables) (id : String) : Option Vpn :=
  t.vpns.find? (·.id == id)

/-- The row of a VPN that has to exist. -/
def row (t : Tables) (id : String) : Except Refusal Vpn :=
  match t.row? id with
  | some vpn => .ok vpn
  | none => .error (.notFound "bgpvpn" id)

/-- A VPN with the objects its associations point to. -/
def fill (t : Tables) (vpn : Vpn) : Vpn :=
  { vpn with
    networks := Rows.targetsOf vpn.id t.networks
    routers := Rows.targetsOf vpn.id t.routers
    ports := Rows.targetsOf vpn.id t.ports }

/-- The VPN with an id, if there is one. -/
def vpn? (t : Tables) (id : String) : Option Vpn :=
  (t.row? id).map t.fill

/-- The VPN with an id. -/
def getVpn (t : Tables) (id : String) : Except Refusal Vpn :=
  (t.row id).map t.fill

/-- Every VPN, in creation order. -/
def listVpns (t : Tables) : List Vpn :=
  t.vpns.map t.fill

/-- The VPNs with the given ids, each once, in the order of first mention; ids
without a VPN are passed over. -/
def vpnsWithIds (t : Tables) (ids : List String) : List Vpn :=
  (distinct ids).filterMap t.vpn?

/-- The VPNs associated with a network. -/
def vpnsOnNetwork (t : Tables) (network : String) : List Vpn :=
  t.vpnsWithIds ((Rows.onTarget network t.networks).map (·.owner))

/-- The VPNs associated with a router. -/
def vpnsOnRouter (t : Tables) (router : String) : List Vpn :=
  t.vpnsWithIds ((Rows.onTarget router t.routers).map (·.owner))

/-- The VPNs associated with a port. -/
def vpnsOnPort (t : Tables) (port : String) : List Vpn :=
  t.vpnsWithIds ((Rows.onTarget port t.ports).map (·.owner))

/-- The associations of all VPNs with a port. -/
def associationsOnPort (t : Tables) (port : String) : List PortAssociation :=
  Rows.onTarget port t.ports

/-- An association of a VPN with a network. -/
def getNetwork (t : Tables) (owner id : String) :
    Except Refusal NetworkAssociation := do
  let _ ← t.row owner
  Rows.find .network owner id t.networks

/-- An association of a VPN with a router. -/
def getRouter (t : Tables) (owner id : String) :
    Except Refusal RouterAssociation := do
  let _ ← t.row owner
  Rows.find .router owner id t.routers

/-- An association of a VPN with a port. -/
def getPort (t : Tables) (owner id : String) :
    Except Refusal PortAssociation := do
  let _ ← t.row owner
  Rows.find .port owner id t.ports

/-- The associations of a VPN with networks. -/
def listNetworks (t : Tables) (owner : String) :
    Except Refusal (List NetworkAssociation) := do
  let _ ← t.row owner
  return Rows.ownedBy owner t.networks

/-- The associations of a VPN with routers. -/
def listRouters (t : Tables) (owner : String) :
    Except Refusal (List RouterAssociation) := do
  let _ ← t.row owner
  return Rows.ownedBy owner t.routers

/-- The associations of a VPN with ports. -/
def listPorts (t : Tables) (owner : String) :
    Except Refusal (List PortAssociation) := do
  let _ ← t.row owner
  return Rows.ownedBy owner t.ports

/-! ## Writing

A creation takes the id to use if the request has none, and returns the new
object with the new tables. -/

/-- Adds a VPN. -/
def createVpn (t : Tables) (fresh : String) (request : VpnRequest) :
    Except Refusal (Vpn × Tables) := do
  let id ← Rows.chooseId (t.vpns.map (·.id)) "bgpvpn" fresh request.id
  let vpn := request.toVpn id
  return (vpn, { t with vpns := t.vpns ++ [vpn] })

/-- Gives the first of the VPNs with an id new attributes. -/
def updateRow (id : String) (changes : VpnUpdate) : List Vpn → List Vpn
  | [] => []
  | vpn :: vpns =>
    if vpn.id = id then changes.apply vpn :: vpns
    else vpn :: updateRow id changes vpns

/-- Gives a VPN new attributes. -/
def updateVpn (t : Tables) (id : String) (changes : VpnUpdate) :
    Except Refusal (Vpn × Tables) := do
  let vpn ← t.row id
  return (t.fill (changes.apply vpn),
    { t with vpns := updateRow id changes t.vpns })

/-- Removes a VPN and all of its associations.  Returns the VPN as it was. -/
def deleteVpn (t : Tables) (id : String) : Except Refusal (Vpn × Tables) := do
  let vpn ← t.getVpn id
  return (vpn, {
    vpns := t.vpns.filter (·.id != id)
    networks := Rows.removeOwned id t.networks
    routers := Rows.removeOwned id t.routers
    ports := Rows.removeOwned id t.ports })

/-- Associates a VPN with a network. -/
def createNetwork (t : Tables) (fresh owner : String)
    (request : NetworkAssociationRequest) :
    Except Refusal (NetworkAssociation × Tables) := do
  let a ← Rows.make .network (← t.row owner) fresh request t.networks
  return (a, { t with networks := t.networks ++ [a] })

/-- Ends an association with a network. -/
def deleteNetwork (t : Tables) (owner id : String) :
    Except Refusal (NetworkAssociation × Tables) := do
  let a ← t.getNetwork owner id
  return (a, { t with networks := Rows.remove owner id t.networks })

/-- Associates a VPN with a router. -/
def createRouter (t : Tables) (fresh owner : String)
    (request : RouterAssociationRequest) :
    Except Refusal (RouterAssociation × Tables) := do
  let a ← Rows.make .router (← t.row owner) fresh request t.routers
  return (a, { t with routers := t.routers ++ [a] })

/-- Changes the terms of an association with a router. -/
def updateRouter (t : Tables) (owner id : String) (changes : RouterTermsUpdate) :
    Except Refusal (RouterAssociation × Tables) := do
  let a ← t.getRouter owner id
  return ({ a with terms := changes.apply a.terms },
    { t with routers := Rows.modify owner id changes.apply t.routers })

/-- Ends an association with a router. -/
def deleteRouter (t : Tables) (owner id : String) :
    Except Refusal (RouterAssociation × Tables) := do
  let a ← t.getRouter owner id
  return (a, { t with routers := Rows.remove owner id t.routers })

/-- Associates a VPN with a port. -/
def createPort (t : Tables) (fresh owner : String)
    (request : PortAssociationRequest) :
    Except Refusal (PortAssociation × Tables) := do
  let a ← Rows.make .port (← t.row owner) fresh request t.ports
  return (a, { t with ports := t.ports ++ [a] })

/-- Changes the terms of an association with a port. -/
def updatePort (t : Tables) (owner id : String) (changes : PortTermsUpdate) :
    Except Refusal (PortAssociation × Tables) := do
  let a ← t.getPort owner id
  return ({ a with terms := changes.apply a.terms },
    { t with ports := Rows.modify owner id changes.apply t.ports })

/-- Ends an association with a port. -/
def deletePort (t : Tables) (owner id : String) :
    Except Refusal (PortAssociation × Tables) := do
  let a ← t.getPort owner id
  return (a, { t with ports := Rows.remove owner id t.ports })

end Tables
end VpnAttach
