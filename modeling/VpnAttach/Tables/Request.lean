import VpnAttach.Tables.Mutation

/-!
# What mutations ask for

A creation gives the values of a new object, an update those that are to be different
afterwards.  `Mutation.AsksFor` says value by value which object is the one that was
asked for; what an update does not give stays as it is in the tables.
-/

namespace VpnAttach

variable {τ : Type}

/-- The VPN has the values that are requested, and no associations. -/
structure VpnRequest.Gives (request : VpnRequest) (fresh : String) (vpn : Vpn) : Prop where
  id : vpn.id = request.id.getD fresh
  tenant : vpn.tenant = request.tenant
  name : vpn.name = request.name
  kind : vpn.kind = request.kind
  routeTargets : vpn.routeTargets = request.routeTargets
  importTargets : vpn.importTargets = request.importTargets
  exportTargets : vpn.exportTargets = request.exportTargets
  routeDistinguishers : vpn.routeDistinguishers = request.routeDistinguishers
  networks : vpn.networks = []
  routers : vpn.routers = []
  ports : vpn.ports = []

/-- `new` has the values that are given, and for the rest those of `old`. -/
structure VpnUpdate.Gives (changes : VpnUpdate) (old new : Vpn) : Prop where
  id : new.id = old.id
  tenant : new.tenant = old.tenant
  name : new.name = changes.name.getD old.name
  kind : new.kind = old.kind
  routeTargets : new.routeTargets = changes.routeTargets.getD old.routeTargets
  importTargets : new.importTargets = changes.importTargets.getD old.importTargets
  exportTargets : new.exportTargets = changes.exportTargets.getD old.exportTargets
  routeDistinguishers :
    new.routeDistinguishers = changes.routeDistinguishers.getD old.routeDistinguishers
  networks : new.networks = old.networks
  routers : new.routers = old.routers
  ports : new.ports = old.ports

/-- The association is the one requested of the VPN `owner`, which belongs to `tenant`. -/
structure AssociationRequest.Gives (request : AssociationRequest τ)
    (fresh owner tenant : String) (a : Association τ) : Prop where
  id : a.id = request.id.getD fresh
  owner : a.owner = owner
  target : a.target = request.target
  tenant : a.tenant = request.tenant.getD tenant
  terms : a.terms = request.terms

/-- Two associations are the same apart from their terms. -/
structure Association.SameButTerms (old new : Association τ) : Prop where
  id : new.id = old.id
  owner : new.owner = old.owner
  target : new.target = old.target
  tenant : new.tenant = old.tenant

/-- `new` is the association `old` on the terms that are given. -/
structure RouterTermsUpdate.Gives (changes : RouterTermsUpdate) (old new : RouterAssociation) :
    Prop extends old.SameButTerms new where
  advertiseExtraRoutes : new.terms.advertiseExtraRoutes =
    changes.advertiseExtraRoutes.getD old.terms.advertiseExtraRoutes

/-- `new` is the association `old` on the terms that are given. -/
structure PortTermsUpdate.Gives (changes : PortTermsUpdate) (old new : PortAssociation) :
    Prop extends old.SameButTerms new where
  advertiseFixedIps : new.terms.advertiseFixedIps =
    changes.advertiseFixedIps.getD old.terms.advertiseFixedIps
  routes : new.terms.routes = changes.routes.getD old.terms.routes

/-- A mutation of some tables asks for an object; `fresh` is the id of one that is
created without an id. -/
inductive Mutation.AsksFor (fresh : String) (t : Tables) : Mutation → Reply → Prop where
  | createVpn {request : VpnRequest} {vpn : Vpn} (given : request.Gives fresh vpn) :
    AsksFor fresh t (.createVpn request) (.vpn vpn)
  | updateVpn {id : String} {changes : VpnUpdate} {old new : Vpn}
    (found : t.getVpn id = .ok old) (given : changes.Gives old new) :
    AsksFor fresh t (.updateVpn id changes) (.vpn new)
  | createNetwork {owner : String} {request : NetworkAssociationRequest} {vpn : Vpn}
    {a : NetworkAssociation} (found : t.getVpn owner = .ok vpn)
    (given : request.Gives fresh owner vpn.tenant a) :
    AsksFor fresh t (.createNetwork owner request) (.network a)
  | createRouter {owner : String} {request : RouterAssociationRequest} {vpn : Vpn}
    {a : RouterAssociation} (found : t.getVpn owner = .ok vpn)
    (given : request.Gives fresh owner vpn.tenant a) :
    AsksFor fresh t (.createRouter owner request) (.router a)
  | updateRouter {owner id : String} {changes : RouterTermsUpdate}
    {old new : RouterAssociation} (found : t.getRouter owner id = .ok old)
    (given : changes.Gives old new) :
    AsksFor fresh t (.updateRouter owner id changes) (.router new)
  | createPort {owner : String} {request : PortAssociationRequest} {vpn : Vpn}
    {a : PortAssociation} (found : t.getVpn owner = .ok vpn)
    (given : request.Gives fresh owner vpn.tenant a) :
    AsksFor fresh t (.createPort owner request) (.port a)
  | updatePort {owner id : String} {changes : PortTermsUpdate} {old new : PortAssociation}
    (found : t.getPort owner id = .ok old) (given : changes.Gives old new) :
    AsksFor fresh t (.updatePort owner id changes) (.port new)

end VpnAttach
