import VpnAttach.Tables.Basic

/-!
# Mutations of the tables

A `Mutation` is a request to create, update or delete one object.  Staging it
finds out what it would do, a `Change`, and which tables a check of the change
may look at: for a deletion the object is still in them, for a creation or an
update the new object is in them already.
-/

namespace VpnAttach

/-- A request to change one object.  Associations are addressed through the
VPN that owns them. -/
inductive Mutation where
  | createVpn (request : VpnRequest)
  | updateVpn (id : String) (changes : VpnUpdate)
  | deleteVpn (id : String)
  | createNetwork (owner : String) (request : NetworkAssociationRequest)
  | deleteNetwork (owner id : String)
  | createRouter (owner : String) (request : RouterAssociationRequest)
  | updateRouter (owner id : String) (changes : RouterTermsUpdate)
  | deleteRouter (owner id : String)
  | createPort (owner : String) (request : PortAssociationRequest)
  | updatePort (owner id : String) (changes : PortTermsUpdate)
  | deletePort (owner id : String)
  deriving DecidableEq

/-- What is done to an object. -/
inductive Deed where
  | create
  | update
  | delete
  deriving DecidableEq

/-- The type of object a mutation is about. -/
inductive ObjectType where
  | vpn
  | association (kind : Attachment)
  deriving DecidableEq

/-- The name of a type of object. -/
def ObjectType.name : ObjectType → String
  | .vpn => "bgpvpn"
  | .association kind => kind.typeName

namespace Mutation

/-- What a mutation does. -/
def deed : Mutation → Deed
  | .createVpn _ | .createNetwork _ _ | .createRouter _ _ | .createPort _ _ =>
    .create
  | .updateVpn _ _ | .updateRouter _ _ _ | .updatePort _ _ _ => .update
  | .deleteVpn _ | .deleteNetwork _ _ | .deleteRouter _ _ | .deletePort _ _ =>
    .delete

/-- The type of object a mutation is about. -/
def objectType : Mutation → ObjectType
  | .createVpn _ | .updateVpn _ _ | .deleteVpn _ => .vpn
  | .createNetwork _ _ | .deleteNetwork _ _ => .association .network
  | .createRouter _ _ | .updateRouter _ _ _ | .deleteRouter _ _ =>
    .association .router
  | .createPort _ _ | .updatePort _ _ _ | .deletePort _ _ => .association .port

/-- Whether a mutation creates an object without asking for an id. -/
def needsId : Mutation → Bool
  | .createVpn request => request.id.isNone
  | .createNetwork _ request => request.id.isNone
  | .createRouter _ request => request.id.isNone
  | .createPort _ request => request.id.isNone
  | _ => false

end Mutation

/-- What a mutation does to an object.  A deletion carries the object as it
was, a VPN with the objects its associations pointed to. -/
inductive Change where
  | vpnCreated (vpn : Vpn)
  | vpnUpdated (old new : Vpn)
  | vpnDeleted (vpn : Vpn)
  | networkCreated (a : NetworkAssociation)
  | networkDeleted (a : NetworkAssociation)
  | routerCreated (a : RouterAssociation)
  | routerUpdated (old new : RouterAssociation)
  | routerDeleted (a : RouterAssociation)
  | portCreated (a : PortAssociation)
  | portUpdated (old new : PortAssociation)
  | portDeleted (a : PortAssociation)
  deriving DecidableEq

/-- The id of the object a change is about. -/
def Change.objectId : Change → String
  | .vpnCreated vpn | .vpnUpdated vpn _ | .vpnDeleted vpn => vpn.id
  | .networkCreated a | .networkDeleted a => a.id
  | .routerCreated a | .routerUpdated a _ | .routerDeleted a => a.id
  | .portCreated a | .portUpdated a _ | .portDeleted a => a.id

/-- The objects that a request is answered with. -/
inductive Reply where
  /-- The request has no answer. -/
  | nothing
  | vpn (vpn : Vpn)
  | vpns (vpns : List Vpn)
  | network (a : NetworkAssociation)
  | networks (rows : List NetworkAssociation)
  | router (a : RouterAssociation)
  | routers (rows : List RouterAssociation)
  | port (a : PortAssociation)
  | ports (rows : List PortAssociation)
  deriving DecidableEq

/-- A creation or update is answered with the new object, a deletion with
nothing. -/
def Change.reply : Change → Reply
  | .vpnCreated vpn | .vpnUpdated _ vpn => .vpn vpn
  | .networkCreated a => .network a
  | .routerCreated a | .routerUpdated _ a => .router a
  | .portCreated a | .portUpdated _ a => .port a
  | .vpnDeleted _ | .networkDeleted _ | .routerDeleted _ | .portDeleted _ =>
    .nothing

/-- A change that is worked out but not committed.  `pending` are the tables a
check may look at, `committed` those after the change. -/
structure Staged where
  change : Change
  pending : Tables
  committed : Tables
  deriving DecidableEq

namespace Tables

/-- Works out a mutation; `fresh` is the id of an object that is created
without one. -/
def stage (t : Tables) (fresh : String) : Mutation → Except Refusal Staged
  | .createVpn request => do
    let (vpn, t) ← t.createVpn fresh request
    return ⟨.vpnCreated vpn, t, t⟩
  | .updateVpn id changes => do
    let old ← t.getVpn id
    let (new, t) ← t.updateVpn id changes
    return ⟨.vpnUpdated old new, t, t⟩
  | .deleteVpn id => do
    let (vpn, after) ← t.deleteVpn id
    return ⟨.vpnDeleted vpn, t, after⟩
  | .createNetwork owner request => do
    let (a, t) ← t.createNetwork fresh owner request
    return ⟨.networkCreated a, t, t⟩
  | .deleteNetwork owner id => do
    let (a, after) ← t.deleteNetwork owner id
    return ⟨.networkDeleted a, t, after⟩
  | .createRouter owner request => do
    let (a, t) ← t.createRouter fresh owner request
    return ⟨.routerCreated a, t, t⟩
  | .updateRouter owner id changes => do
    let old ← t.getRouter owner id
    let (new, t) ← t.updateRouter owner id changes
    return ⟨.routerUpdated old new, t, t⟩
  | .deleteRouter owner id => do
    let (a, after) ← t.deleteRouter owner id
    return ⟨.routerDeleted a, t, after⟩
  | .createPort owner request => do
    let (a, t) ← t.createPort fresh owner request
    return ⟨.portCreated a, t, t⟩
  | .updatePort owner id changes => do
    let old ← t.getPort owner id
    let (new, t) ← t.updatePort owner id changes
    return ⟨.portUpdated old new, t, t⟩
  | .deletePort owner id => do
    let (a, after) ← t.deletePort owner id
    return ⟨.portDeleted a, t, after⟩

end Tables
end VpnAttach
