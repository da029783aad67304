import VpnAttach.Address.Mac
import VpnAttach.Address.Prefix
import VpnAttach.Address.RouteTarget
import VpnAttach.Json.Basic

/-!
# Addresses as JSON

Every address is written as a string with its canonical text, a route target
with the text it has.
-/

namespace VpnAttach

/-- A MAC address, as its text. -/
def MacAddress.toJson (mac : MacAddress) : Json :=
  .str mac.text

/-- The MAC address a string names. -/
def MacAddress.ofJson? : Json → Option MacAddress
  | .str s => (MacAddress.ofString s).toOption
  | _ => none

/-- An IP address, as its text. -/
def Ip.toJson (ip : Ip) : Json :=
  .str ip.text

/-- The IP address a string names. -/
def Ip.ofJson? : Json → Option Ip
  | .str s => Ip.ofString? s
  | _ => none

/-- An IP prefix, as its text. -/
def IpPrefix.toJson (p : IpPrefix) : Json :=
  .str p.text

/-- The IP prefix a string names. -/
def IpPrefix.ofJson? : Json → Option IpPrefix
  | .str s => (IpPrefix.ofString s).toOption
  | _ => none

/-- A route target, as it was written. -/
def RouteTarget.toJson (target : RouteTarget) : Json :=
  .str target.text

/-- The route target a string names. -/
def RouteTarget.ofJson? : Json → Option RouteTarget
  | .str s => (RouteTarget.ofString s).toOption
  | _ => none

end VpnAttach
