import VpnAttach.Reach
import VpnAttach.Tables.Mutation

/-!
# Admission

Which changes are accepted.  Route distinguishers are not supported.  A
network and a router that is plugged into it may not be associated with two
different layer-three VPNs.  Router associations are for layer-three VPNs only
and limited in number.  A port has to exist, and a route that refers to a VPN
has to refer to one of the kind and tenant of the association's own VPN.
-/

namespace VpnAttach.Rules

/-- A VPN may not have route distinguishers. -/
def checkDistinguishers (vpn : Vpn) : Except Refusal Unit :=
  if vpn.routeDistinguishers.isEmpty then .ok ()
  else .error (.unsupported .routeDistinguishers)

/-- A layer-three VPN among `vpns` other than the one with the given id. -/
def otherLayerThree (id : String) (vpns : List Vpn) : Option Vpn :=
  vpns.find? fun vpn => vpn.kind == .l3 && vpn.id != id

/-- Fails with the first conflict, if there is one. -/
def failWith : Option Conflict → Except Refusal Unit
  | none => .ok ()
  | some conflict => .error (.conflict conflict)

/-- A network association. -/
def checkNetwork (topology : Topology) (tables : Tables)
    (a : NetworkAssociation) : Except Refusal Unit := do
  if topology.isExternal a.target then
    throw (.unsupported .externalNetwork)
  let owner ← tables.getVpn a.owner
  if owner.kind = .l3 then
    failWith <| (topology.routersOf a.target).findSome? fun router =>
      (otherLayerThree owner.id (tables.vpnsOnRouter router)).map fun other =>
        .networkBehindRouter a.target router other.id

/-- A router association, which is in the tables already. -/
def checkRouter (policy : Policy) (topology : Topology) (tables : Tables)
    (a : RouterAssociation) : Except Refusal Unit := do
  let owner ← tables.getVpn a.owner
  if owner.kind ≠ .l3 then
    throw (.unsupported .routerOnLayerTwo)
  if policy.routerLimit < owner.routers.length then
    throw (.unsupported (.moreRouters policy.routerLimit))
  failWith <| (topology.networksOf a.target).findSome? fun network =>
    (otherLayerThree owner.id (tables.vpnsOnNetwork network)).map fun other =>
      .routerOnNetwork a.target network other.id

/-- What is wrong with a route of an association of `owner`. -/
def routeFault? (tables : Tables) (owner : Vpn) : Route → Option RouteFault
  | .static _ _ => none
  | .leak id _ =>
    match tables.vpn? id with
    | none => some (.missing id)
    | some vpn =>
      if vpn.kind ≠ owner.kind then
        some (.otherKind vpn.id vpn.kind owner.id owner.kind)
      else if vpn.tenant ≠ owner.tenant then some (.otherTenant vpn.id)
      else none

/-- The routes of a port association. -/
def checkRoutes (tables : Tables) (a : PortAssociation) : Except Refusal Unit := do
  let owner ← tables.getVpn a.owner
  match a.terms.routes.findSome? (routeFault? tables owner) with
  | none => return ()
  | some fault => throw (.invalidRoute fault)

/-- A new port association. -/
def checkPort (topology : Topology) (tables : Tables) (a : PortAssociation) :
    Except Refusal Unit := do
  if (topology.port? a.target).isNone then
    throw (.notFound "port" a.target)
  checkRoutes tables a

/-- Checks a change against the pending tables. -/
def check (policy : Policy) (topology : Topology) (tables : Tables) :
    Change → Except Refusal Unit
  | .vpnCreated vpn => checkDistinguishers vpn
  | .vpnUpdated _ vpn => checkDistinguishers vpn
  | .networkCreated a => checkNetwork topology tables a
  | .routerCreated a => checkRouter policy topology tables a
  | .portCreated a => checkPort topology tables a
  | .portUpdated _ a => checkRoutes tables a
  | _ => .ok ()

end VpnAttach.Rules
