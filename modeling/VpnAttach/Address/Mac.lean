import VpnAttach.Address.Fault
import VpnAttach.Text.Numeral
import VpnAttach.Text.Split

/-!
# MAC addresses

Six octets, written in two-character groups.  A text with a colon in it is
separated by colons, any other by hyphens; each group is read as a
hexadecimal byte, so that a plus sign may stand for a leading zero.  The
canonical text is in lower case and has colons.
-/

namespace VpnAttach

/-- A 48-bit Ethernet address. -/
structure MacAddress where
  o1 : UInt8
  o2 : UInt8
  o3 : UInt8
  o4 : UInt8
  o5 : UInt8
  o6 : UInt8
  deriving DecidableEq

namespace MacAddress

/-- A group of two characters, as a hexadecimal byte. -/
def group? : List Char → Option UInt8
  | [a, b] => Numeral.byte? 16 [a, b]
  | _ => none

/-- Reads six groups with the same separator between them. -/
def ofChars? (cs : List Char) : Option MacAddress :=
  let sep := if ':' ∈ cs then ':' else '-'
  match Text.splitOn sep cs with
  | [a, b, c, d, e, f] => do
    return ⟨← group? a, ← group? b, ← group? c, ← group? d, ← group? e, ← group? f⟩
  | _ => none

/-- The address named by a text. -/
def ofString (s : String) : Except TextFault MacAddress :=
  match ofChars? s.toList with
  | some mac => .ok mac
  | none => .error (.mac s)

/-- The octets, first to last. -/
def octets (m : MacAddress) : List UInt8 :=
  [m.o1, m.o2, m.o3, m.o4, m.o5, m.o6]

/-- Two lower-case hexadecimal digits. -/
def octetChars (b : UInt8) : List Char :=
  Numeral.padZeros 2 (Numeral.hexadecimal b.toNat)

/-- The canonical text, as characters. -/
def toChars (m : MacAddress) : List Char :=
  Text.join [':'] (m.octets.map octetChars)

/-- The canonical text. -/
def text (m : MacAddress) : String :=
  String.ofList m.toChars

end MacAddress
end VpnAttach
