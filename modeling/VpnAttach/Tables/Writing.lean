import VpnAttach.Tables.Mutation
import VpnAttach.Tables.Transaction

/-!
# Writing in place

The operations that change the tables, as they go about it step by step: an
operation looks things up first and writes afterwards, and nothing undoes what
it has written if it fails after all.

The three association tables are written to in the same ways.  A `Part` says
which of them is meant.
-/

namespace VpnAttach

/-- An operation that writes to the tables as it goes. -/
abbrev Writing (α : Type) :=
  EStateM Refusal Tables α

/-- One of the association tables. -/
structure Part (τ : Type) where
  kind : Attachment
  rows : Tables → List (Association τ)
  /-- The tables with other rows in this one. -/
  put : List (Association τ) → Tables → Tables

namespace Part

/-- The associations with networks. -/
def networks : Part Unit :=
  ⟨.network, (·.networks), fun rows t => { t with networks := rows }⟩

/-- The associations with routers. -/
def routers : Part RouterTerms :=
  ⟨.router, (·.routers), fun rows t => { t with routers := rows }⟩

/-- The associations with ports. -/
def ports : Part PortTerms :=
  ⟨.port, (·.ports), fun rows t => { t with ports := rows }⟩

/-- An association of a VPN. -/
def get {τ : Type} (part : Part τ) (owner id : String) (t : Tables) :
    Except Refusal (Association τ) := do
  let _ ← t.row owner
  Rows.find part.kind owner id (part.rows t)

end Part

namespace Writing

variable {α τ : Type}

/-- Looks something up that has to be there. -/
def lookUp (find : Tables → Except Refusal α) : Writing α := do
  match find (← get) with
  | .ok found => return found
  | .error refusal => throw refusal

/-- Adds a VPN. -/
def createVpn (fresh : String) (request : VpnRequest) : Writing Vpn := do
  let id ← lookUp fun t => Rows.chooseId (t.vpns.map (·.id)) "bgpvpn" fresh request.id
  let vpn := request.toVpn id
  modify fun t => { t with vpns := t.vpns ++ [vpn] }
  return vpn

/-- Gives a VPN new attributes. -/
def updateVpn (id : String) (changes : VpnUpdate) : Writing Vpn := do
  let vpn ← lookUp (·.row id)
  modify fun t => { t with vpns := Tables.updateRow id changes t.vpns }
  return (← get).fill (changes.apply vpn)

/-- Removes a VPN, and then its associations from one table after the other. -/
def deleteVpn (id : String) : Writing Vpn := do
  let vpn ← lookUp (·.getVpn id)
  modify fun t => { t with vpns := t.vpns.filter (·.id != id) }
  modify fun t => { t with networks := Rows.removeOwned id t.networks }
  modify fun t => { t with routers := Rows.removeOwned id t.routers }
  modify fun t => { t with ports := Rows.removeOwned id t.ports }
  return vpn

/-- Associates a VPN with an object. -/
def associate (part : Part τ) (fresh owner : String) (request : AssociationRequest τ) :
    Writing (Association τ) := do
  let vpn ← lookUp (·.row owner)
  let a ← lookUp fun t => Rows.make part.kind vpn fresh request (part.rows t)
  modify fun t => part.put (part.rows t ++ [a]) t
  return a

/-- Changes the terms of an association. -/
def amend (part : Part τ) (owner id : String) (change : τ → τ) :
    Writing (Association τ) := do
  let a ← lookUp (part.get owner id)
  modify fun t => part.put (Rows.modify owner id change (part.rows t)) t
  return { a with terms := change a.terms }

/-- Ends an association. -/
def dissociate (part : Part τ) (owner id : String) : Writing (Association τ) := do
  let a ← lookUp (part.get owner id)
  modify fun t => part.put (Rows.remove owner id (part.rows t)) t
  return a

/-- Associates a VPN with a network. -/
def createNetwork (fresh owner : String) (request : NetworkAssociationRequest) :
    Writing NetworkAssociation :=
  associate .networks fresh owner request

/-- Ends an association with a network. -/
def deleteNetwork (owner id : String) : Writing NetworkAssociation :=
  dissociate .networks owner id

/-- Associates a VPN with a router. -/
def createRouter (fresh owner : String) (request : RouterAssociationRequest) :
    Writing RouterAssociation :=
  associate .routers fresh owner request

/-- Changes the terms of an association with a router. -/
def updateRouter (owner id : String) (changes : RouterTermsUpdate) :
    Writing RouterAssociation :=
  amend .routers owner id changes.apply

/-- Ends an association with a router. -/
def deleteRouter (owner id : String) : Writing RouterAssociation :=
  dissociate .routers owner id

/-- Associates a VPN with a port. -/
def createPort (fresh owner : String) (request : PortAssociationRequest) :
    Writing PortAssociation :=
  associate .ports fresh owner request

/-- Changes the terms of an association with a port. -/
def updatePort (owner id : String) (changes : PortTermsUpdate) :
    Writing PortAssociation :=
  amend .ports owner id changes.apply

/-- Ends an association with a port. -/
def deletePort (owner id : String) : Writing PortAssociation :=
  dissociate .ports owner id

/-! ## Mutations -/

/-- Carries out a mutation in place; `fresh` is the id of an object that is created
without one.  Returns the new object, or the one that was removed. -/
def write (fresh : String) : Mutation → Writing Reply
  | .createVpn request => .vpn <$> createVpn fresh request
  | .updateVpn id changes => .vpn <$> updateVpn id changes
  | .deleteVpn id => .vpn <$> deleteVpn id
  | .createNetwork owner request => .network <$> createNetwork fresh owner request
  | .deleteNetwork owner id => .network <$> deleteNetwork owner id
  | .createRouter owner request => .router <$> createRouter fresh owner request
  | .updateRouter owner id changes => .router <$> updateRouter owner id changes
  | .deleteRouter owner id => .router <$> deleteRouter owner id
  | .createPort owner request => .port <$> createPort fresh owner request
  | .updatePort owner id changes => .port <$> updatePort owner id changes
  | .deletePort owner id => .port <$> deletePort owner id

/-- The tables after an operation, whether it succeeds or fails. -/
def after (op : Writing α) (t : Tables) : Tables :=
  match op.run t with
  | .ok _ t' | .error _ t' => t'

end Writing

/-- Carries out mutations one after the other, each with the id that it may draw.
One that fails does not keep the others from being tried. -/
def Tables.writeAll (t : Tables) (writes : List (String × Mutation)) : Tables :=
  writes.foldl (fun t w => (Writing.write w.1 w.2).after t) t

/-! ## Checked mutations -/

/-- An operation on the tables during which changes are checked.  The checks have a
state of their own. -/
abbrev CheckedWriting (σ α : Type) :=
  EStateM Refusal (Tables × σ) α

namespace Writing

variable {α σ : Type} (check : Tables → Change → σ → Except Refusal Unit × σ)

/-- An operation that leaves the checks alone. -/
def unchecked (op : Writing α) : CheckedWriting σ α := fun (t, s) =>
  match op.run t with
  | .ok a t' => .ok a (t', s)
  | .error refusal t' => .error refusal (t', s)

/-- Has a change checked, in view of the tables as they are now. -/
def approve (change : Change) : CheckedWriting σ Change := fun (t, s) =>
  match check t change s with
  | (.ok (), s') => .ok change (t, s')
  | (.error refusal, s') => .error refusal (t, s')

/-- A new object is checked after it was written. -/
def creating (op : Writing α) (change : α → Change) : CheckedWriting σ Change := do
  approve check (change (← unchecked op))

/-- So is an object that was changed. -/
def updating (find : Tables → Except Refusal α) (op : Writing α)
    (change : α → α → Change) : CheckedWriting σ Change := do
  let old ← unchecked (lookUp find)
  approve check (change old (← unchecked op))

/-- An object that is to be removed is checked before. -/
def deleting (find : Tables → Except Refusal α) (op : Writing α) (change : α → Change) :
    CheckedWriting σ Change := do
  let _ ← approve check (change (← unchecked (lookUp find)))
  return change (← unchecked op)

/-- Carries out a mutation in place and has it checked. -/
def attempt (fresh : String) : Mutation → CheckedWriting σ Change
  | .createVpn request => creating check (createVpn fresh request) .vpnCreated
  | .updateVpn id changes =>
    updating check (·.getVpn id) (updateVpn id changes) .vpnUpdated
  | .deleteVpn id => deleting check (·.getVpn id) (deleteVpn id) .vpnDeleted
  | .createNetwork owner request =>
    creating check (createNetwork fresh owner request) .networkCreated
  | .deleteNetwork owner id =>
    deleting check (·.getNetwork owner id) (deleteNetwork owner id) .networkDeleted
  | .createRouter owner request =>
    creating check (createRouter fresh owner request) .routerCreated
  | .updateRouter owner id changes =>
    updating check (·.getRouter owner id) (updateRouter owner id changes) .routerUpdated
  | .deleteRouter owner id =>
    deleting check (·.getRouter owner id) (deleteRouter owner id) .routerDeleted
  | .createPort owner request =>
    creating check (createPort fresh owner request) .portCreated
  | .updatePort owner id changes =>
    updating check (·.getPort owner id) (updatePort owner id changes) .portUpdated
  | .deletePort owner id =>
    deleting check (·.getPort owner id) (deletePort owner id) .portDeleted

/-- Runs an operation on a copy of the tables, which takes their place if the
operation succeeds.  The state of the checks is kept in either case. -/
def transact (op : CheckedWriting σ α) (t : Tables) (s : σ) :
    Except Refusal α × Tables × σ :=
  let run := t.transaction fun t =>
    match op.run (t, s) with
    | .ok a (t', s') => .ok ((a, s'), t')
    | .error refusal (_, s') => .error (refusal, s')
  match run with
  | (.ok (a, s'), t') => (.ok a, t', s')
  | (.error (refusal, s'), t') => (.error refusal, t', s')

end Writing
end VpnAttach
