import VpnAttach.Address.Mac
import VpnAttach.Address.Prefix

/-!
# Topology objects

Networks, subnets and ports, as the orchestration layer describes them.
-/

namespace VpnAttach

/-- The operational status of a port. -/
inductive PortStatus where
  | active
  | down
  | build
  | error
  deriving DecidableEq

namespace PortStatus

/-- The name in capital letters. -/
def name : PortStatus → String
  | .active => "ACTIVE"
  | .down => "DOWN"
  | .build => "BUILD"
  | .error => "ERROR"

/-- Every status, in the order of declaration. -/
def all : List PortStatus :=
  [.active, .down, .build, .error]

/-- Whether the port is in service. -/
def isActive (status : PortStatus) : Bool :=
  status == .active

/-- The status with exactly the given name. -/
def ofName? (s : String) : Option PortStatus :=
  all.find? (·.name == s)

/-- The capital form of a letter.  Outside ASCII only the dotless `ı` and the
long `ſ` have an ASCII capital; other letters cannot occur in a name, so they
stay as they are. -/
def capital (c : Char) : Char :=
  if c = 'ı' then 'I' else if c = 'ſ' then 'S' else c.toUpper

/-- The status named by a text, in capital or small letters. -/
def ofString (s : String) : Except TextFault PortStatus :=
  match ofName? (String.ofList (s.toList.map capital)) with
  | some status => .ok status
  | none => .error (.portStatus s)

end PortStatus

/-- An address of a port on one of its network's subnets. -/
structure FixedIp where
  subnet : String
  address : Ip
  deriving DecidableEq

/-- A virtual port.  Notifications about it go to the agent on `host`. -/
structure Port where
  id : String
  network : String
  mac : MacAddress
  fixedIps : List FixedIp := []
  deviceOwner : String := ""
  status : PortStatus := .down
  host : String := ""
  adminStateUp : Bool := true
  deriving DecidableEq

/-- The first address of the port.  Only this one is advertised. -/
def Port.primaryIp? (port : Port) : Option FixedIp :=
  port.fixedIps.head?

/-- A range of addresses on a network. -/
structure Subnet where
  id : String
  network : String
  cidr : IpPrefix
  gateway : Option Ip := none
  deriving DecidableEq

/-- A virtual network.  An external network faces the provider. -/
structure Network where
  id : String
  tenant : String := ""
  external : Bool := false
  deriving DecidableEq

end VpnAttach
