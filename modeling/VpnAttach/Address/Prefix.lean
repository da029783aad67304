import VpnAttach.Address.Fault
import VpnAttach.Address.Ip

/-!
# IP prefixes

An address with a prefix length, in CIDR notation.  The length is a decimal
byte behind the last slash, and is at most the width of the address.
-/

namespace VpnAttach

/-- An IP prefix. -/
structure IpPrefix where
  address : Ip
  length : Nat
  length_le : length ≤ address.width
  deriving DecidableEq

namespace IpPrefix

/-- The prefix of the given length, if the address is that wide. -/
def make (address : Ip) (length : Nat) : Except TextFault IpPrefix :=
  if h : length ≤ address.width then .ok ⟨address, length, h⟩
  else .error (.prefixLength length address.width)

/-- The prefix named by a text. -/
def ofString (s : String) : Except TextFault IpPrefix :=
  match Text.splitLast '/' s.toList with
  | none => .error (.ipPrefix s)
  | some (front, back) =>
    match Ip.ofChars? front, Numeral.byte? 10 back with
    | some address, some length => make address length.toNat
    | _, _ => .error (.ipPrefix s)

/-- Address, slash and length, as characters. -/
def toChars (p : IpPrefix) : List Char :=
  p.address.toChars ++ '/' :: Numeral.decimal p.length

/-- The canonical text. -/
def text (p : IpPrefix) : String :=
  String.ofList p.toChars

end IpPrefix
end VpnAttach
