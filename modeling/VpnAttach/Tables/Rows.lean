import VpnAttach.Refusal

/-!
# Rows of an association table

The three association tables have the same operations, which are defined here
on a list of associations in creation order.  An association is found by its
owner and its id together.
-/

namespace VpnAttach.Rows

variable {τ : Type}

/-- The requested id, if no object has it, or else the fresh one. -/
def chooseId (taken : List String) (object fresh : String) :
    Option String → Except Refusal String
  | some id =>
    if id ∈ taken then .error (.conflict (.idTaken object id)) else .ok id
  | none => .ok fresh

/-- Whether an association is the one with the given owner and id. -/
def isAt (owner id : String) (a : Association τ) : Bool :=
  a.owner == owner && a.id == id

/-- The associations of a VPN. -/
def ownedBy (owner : String) (rows : List (Association τ)) :
    List (Association τ) :=
  rows.filter (·.owner == owner)

/-- The associations with a target. -/
def onTarget (target : String) (rows : List (Association τ)) :
    List (Association τ) :=
  rows.filter (·.target == target)

/-- The targets a VPN is associated with. -/
def targetsOf (owner : String) (rows : List (Association τ)) : List String :=
  (ownedBy owner rows).map (·.target)

/-- The association of a VPN with the given id. -/
def find (kind : Attachment) (owner id : String) (rows : List (Association τ)) :
    Except Refusal (Association τ) :=
  match rows.find? (isAt owner id) with
  | some a => .ok a
  | none => .error (.notFound kind.phrase id)

/-- The association that a request to a VPN asks for.  A VPN has at most one
association with a target, and an id is used once in a table. -/
def make (kind : Attachment) (vpn : Vpn) (fresh : String)
    (request : AssociationRequest τ) (rows : List (Association τ)) :
    Except Refusal (Association τ) := do
  if rows.any fun a => a.owner == vpn.id && a.target == request.target then
    throw (.conflict (.alreadyAssociated kind request.target vpn.id))
  let id ← chooseId (rows.map (·.id)) kind.phrase fresh request.id
  return {
    id := id
    owner := vpn.id
    target := request.target
    tenant := request.tenant.getD vpn.tenant
    terms := request.terms }

/-- Gives the first association with the owner and id new terms. -/
def modify (owner id : String) (change : τ → τ) :
    List (Association τ) → List (Association τ)
  | [] => []
  | a :: rows =>
    if isAt owner id a then { a with terms := change a.terms } :: rows
    else a :: modify owner id change rows

/-- Removes the first association with the owner and id. -/
def remove (owner id : String) (rows : List (Association τ)) :
    List (Association τ) :=
  rows.eraseP (isAt owner id)

/-- Removes all associations of a VPN. -/
def removeOwned (owner : String) (rows : List (Association τ)) :
    List (Association τ) :=
  rows.filter (·.owner != owner)

end VpnAttach.Rows
