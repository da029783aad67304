/-!
# Faults of address texts

Why a text was refused as an address or as one of the small enumerations.
`TextFault.message` is the only place where the wording stands.
-/

namespace VpnAttach

/-- Why a text does not name a value of the expected kind. -/
inductive TextFault where
  | mac (text : String)
  | ipPrefix (text : String)
  /-- The address and the number were readable, but the number is larger than
  the width of the address. -/
  | prefixLength (length limit : Nat)
  | routeTarget (text : String)
  | vpnKind (text : String)
  | portStatus (text : String)
  deriving DecidableEq

/-- The text shown for a fault. -/
def TextFault.message : TextFault → String
  | .mac text => "invalid MAC address format: " ++ text
  | .ipPrefix text => "invalid IP prefix format: " ++ text
  | .prefixLength length limit =>
    "invalid IP prefix format: prefix length " ++ toString length ++
      " exceeds maximum " ++ toString limit ++ " for address type"
  | .routeTarget text =>
    "invalid route target: " ++ text ++ " (expected ASN:NN)"
  | .vpnKind text => "invalid VPN type: " ++ text ++ " (must be l2 or l3)"
  | .portStatus text => "invalid port status: " ++ text

end VpnAttach
