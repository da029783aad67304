import VpnAttach.Vpn.Association
import VpnAttach.Vpn.Basic

/-!
# Refusals

Why a request was refused.  Each of the four kinds of refusal has its causes;
`other` stands for a cause that the rules of this library do not have, such as
one of foreign hooks.  All wording stands in the `message` functions.
-/

namespace VpnAttach

/-- A uniqueness or exclusivity rule that would be broken. -/
inductive Conflict where
  /-- The requested id belongs to another object of the same type. -/
  | idTaken (object id : String)
  /-- The VPN is already associated with the target. -/
  | alreadyAssociated (kind : Attachment) (target vpn : String)
  /-- A network is connected to a router of another layer-three VPN. -/
  | networkBehindRouter (network router vpn : String)
  /-- A router is connected to a network of another layer-three VPN. -/
  | routerOnNetwork (router network vpn : String)
  /-- A router of one layer-three VPN would be plugged into a network of
  another. -/
  | interface (router routerVpn network networkVpn : String)
  | other (text : String)
  deriving DecidableEq

/-- The text of a conflict. -/
def Conflict.message : Conflict → String
  | .idTaken object id => object ++ " " ++ id ++ " already exists"
  | .alreadyAssociated kind target vpn =>
    kind.noun ++ " " ++ target ++ " is already associated to bgpvpn " ++ vpn
  | .networkBehindRouter network router vpn =>
    "network " ++ network ++ " is connected to router " ++ router ++
      " associated to l3 bgpvpn " ++ vpn
  | .routerOnNetwork router network vpn =>
    "router " ++ router ++ " is connected to network " ++ network ++
      " associated to l3 bgpvpn " ++ vpn
  | .interface router routerVpn network networkVpn =>
    "router " ++ router ++ " is associated to l3 bgpvpn " ++ routerVpn ++
      " and network " ++ network ++ " to l3 bgpvpn " ++ networkVpn
  | .other text => text

/-- Something that the rules do not provide for. -/
inductive Feature where
  | routeDistinguishers
  | externalNetwork
  | routerOnLayerTwo
  | moreRouters (limit : Nat)
  | other (text : String)
  deriving DecidableEq

/-- The name of a feature. -/
def Feature.message : Feature → String
  | .routeDistinguishers => "route distinguishers"
  | .externalNetwork => "association of an external network"
  | .routerOnLayerTwo => "router association on an l2 bgpvpn"
  | .moreRouters limit =>
    "more than " ++ toString limit ++ " router association(s) per bgpvpn"
  | .other text => text

/-- What is wrong with a route of a port association. -/
inductive RouteFault where
  | missing (vpn : String)
  | otherKind (vpn : String) (kind : VpnKind) (owner : String)
    (ownerKind : VpnKind)
  | otherTenant (vpn : String)
  | other (text : String)
  deriving DecidableEq

/-- The text of a route fault. -/
def RouteFault.message : RouteFault → String
  | .missing vpn => "bgpvpn " ++ vpn ++ " does not exist"
  | .otherKind vpn kind owner ownerKind =>
    "bgpvpn " ++ vpn ++ " is of type " ++ kind.name ++
      ", association bgpvpn " ++ owner ++ " is of type " ++ ownerKind.name
  | .otherTenant vpn => "bgpvpn " ++ vpn ++ " belongs to another tenant"
  | .other text => text

/-- Why a request was refused. -/
inductive Refusal where
  /-- There is no object of that type with that id. -/
  | notFound (object id : String)
  | conflict (cause : Conflict)
  | unsupported (feature : Feature)
  | invalidRoute (fault : RouteFault)
  deriving DecidableEq

namespace Refusal

/-- The text of a refusal. -/
def message : Refusal → String
  | .notFound object id => object ++ " " ++ id ++ " could not be found"
  | .conflict cause => "Conflict: " ++ cause.message
  | .unsupported feature =>
    feature.message ++ " is not supported by the bagpipe driver"
  | .invalidRoute fault => "Invalid route: " ++ fault.message

/-- The short name of the kind of refusal. -/
def kind : Refusal → String
  | .notFound _ _ => "not_found"
  | .conflict _ => "conflict"
  | .unsupported _ => "unsupported_feature"
  | .invalidRoute _ => "route_validation"

/-- Whether an object was missing. -/
def isNotFound : Refusal → Bool
  | .notFound _ _ => true
  | _ => false

end Refusal
end VpnAttach
