import VpnAttach.Address.Prefix

/-!
# Associations

An association ties a VPN to a network, a router or a port.  The three kinds
have the same shape and differ in their terms: what is advertised through the
association.  Network associations have no terms of their own.
-/

namespace VpnAttach

/-- What a VPN can be associated with. -/
inductive Attachment where
  | network
  | router
  | port
  deriving DecidableEq

namespace Attachment

/-- The word for the object a VPN is associated with. -/
def noun : Attachment → String
  | .network => "network"
  | .router => "router"
  | .port => "port"

/-- The words for an association of this kind in messages. -/
def phrase (kind : Attachment) : String :=
  kind.noun ++ " association"

/-- The name of an association of this kind as a type of object. -/
def typeName (kind : Attachment) : String :=
  kind.noun ++ "_association"

end Attachment

/-- An association of the VPN `owner` with the object `target`. -/
structure Association (τ : Type) where
  id : String
  owner : String
  target : String
  tenant : String
  terms : τ
  deriving DecidableEq

/-- A request for a new association.  Without an id one is allocated, and
without a tenant that of the VPN is taken. -/
structure AssociationRequest (τ : Type) where
  id : Option String := none
  target : String
  tenant : Option String := none
  terms : τ
  deriving DecidableEq

/-- What a router association advertises. -/
structure RouterTerms where
  advertiseExtraRoutes : Bool := true
  deriving DecidableEq

/-- New values for the terms of a router association. -/
structure RouterTermsUpdate where
  advertiseExtraRoutes : Option Bool := none
  deriving DecidableEq

/-- The terms with the given values in place of their own. -/
def RouterTermsUpdate.apply (changes : RouterTermsUpdate) (terms : RouterTerms) :
    RouterTerms where
  advertiseExtraRoutes :=
    changes.advertiseExtraRoutes.getD terms.advertiseExtraRoutes

/-- An extra route advertised through a port. -/
inductive Route where
  /-- A prefix that is reachable through the port. -/
  | static (pfx : IpPrefix) (localPref : Option UInt32)
  /-- The routes of another VPN, advertised again. -/
  | leak (vpn : String) (localPref : Option UInt32)
  deriving DecidableEq

/-- What a port association advertises. -/
structure PortTerms where
  advertiseFixedIps : Bool := true
  routes : List Route := []
  deriving DecidableEq

/-- New values for the terms of a port association. -/
structure PortTermsUpdate where
  advertiseFixedIps : Option Bool := none
  routes : Option (List Route) := none
  deriving DecidableEq

/-- The terms with the given values in place of their own. -/
def PortTermsUpdate.apply (changes : PortTermsUpdate) (terms : PortTerms) :
    PortTerms where
  advertiseFixedIps := changes.advertiseFixedIps.getD terms.advertiseFixedIps
  routes := changes.routes.getD terms.routes

/-- An association with a network. -/
abbrev NetworkAssociation := Association Unit

/-- An association with a router. -/
abbrev RouterAssociation := Association RouterTerms

/-- An association with a port. -/
abbrev PortAssociation := Association PortTerms

/-- A request for an association with a network. -/
abbrev NetworkAssociationRequest := AssociationRequest Unit

/-- A request for an association with a router. -/
abbrev RouterAssociationRequest := AssociationRequest RouterTerms

/-- A request for an association with a port. -/
abbrev PortAssociationRequest := AssociationRequest PortTerms

end VpnAttach
