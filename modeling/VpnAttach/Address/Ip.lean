import VpnAttach.Text.Numeral
import VpnAttach.Text.Split

/-!
# IP addresses

IPv4 addresses are four decimal octets without superfluous zeros.  IPv6
addresses are eight hexadecimal groups, of which the last two may be written
as an IPv4 address and one run of zeros may be left out between two colons.
The canonical IPv6 text leaves out the first of the longest runs of at least
two zero groups, and writes an IPv4-mapped address with its dotted part.
-/

namespace VpnAttach

/-- An IPv4 address. -/
structure Ipv4 where
  a : UInt8
  b : UInt8
  c : UInt8
  d : UInt8
  deriving DecidableEq

namespace Ipv4

/-- One to three decimal digits below 256, without a superfluous zero. -/
def octet? (cs : List Char) : Option UInt8 :=
  if cs.length ≤ 3 ∧ (cs.head? = some '0' → cs.length = 1) then
    match Numeral.value? 10 cs with
    | some n => if n < 256 then some (UInt8.ofNat n) else none
    | none => none
  else none

/-- The address written by `cs`. -/
def ofChars? (cs : List Char) : Option Ipv4 :=
  match Text.splitOn '.' cs with
  | [a, b, c, d] => do return ⟨← octet? a, ← octet? b, ← octet? c, ← octet? d⟩
  | _ => none

/-- The octets in decimal, with dots between them. -/
def toChars (ip : Ipv4) : List Char :=
  Text.join ['.'] ([ip.a, ip.b, ip.c, ip.d].map fun o => Numeral.decimal o.toNat)

/-- The address as two groups of sixteen bits. -/
def groups (ip : Ipv4) : List UInt16 :=
  [UInt16.ofNat (ip.a.toNat * 256 + ip.b.toNat),
   UInt16.ofNat (ip.c.toNat * 256 + ip.d.toNat)]

/-- The address whose two groups of sixteen bits are given. -/
def ofGroups (high low : UInt16) : Ipv4 :=
  ⟨UInt8.ofNat (high.toNat / 256), UInt8.ofNat (high.toNat % 256),
   UInt8.ofNat (low.toNat / 256), UInt8.ofNat (low.toNat % 256)⟩

end Ipv4

/-- An IPv6 address: eight groups, first to last. -/
structure Ipv6 where
  groups : List UInt16
  length_groups : groups.length = 8
  deriving DecidableEq

namespace Ipv6

/-- The address with the given groups, if there are eight. -/
def ofGroups? (groups : List UInt16) : Option Ipv6 :=
  if h : groups.length = 8 then some ⟨groups, h⟩ else none

/-- One group: one to four hexadecimal digits. -/
def group? (cs : List Char) : Option UInt16 :=
  if cs.length ≤ 4 then (Numeral.value? 16 cs).map UInt16.ofNat else none

/-- The groups before a gap. -/
def headGroups? (cs : List Char) : Option (List UInt16) :=
  if cs.isEmpty then some [] else (Text.splitOn ':' cs).mapM group?

/-- Groups of which the last may be a dotted IPv4 address. -/
def groupsOfParts? : List (List Char) → Option (List UInt16)
  | [] => some []
  | [part] =>
    match Ipv4.ofChars? part with
    | some ip => some ip.groups
    | none => (group? part).map ([·])
  | part :: parts => do return (← group? part) :: (← groupsOfParts? parts)

/-- The groups up to the end of the text. -/
def tailGroups? (cs : List Char) : Option (List UInt16) :=
  if cs.isEmpty then some [] else groupsOfParts? (Text.splitOn ':' cs)

/-- What stands before and after the first pair of colons. -/
def cutGap : List Char → Option (List Char × List Char)
  | [] => none
  | ':' :: ':' :: rest => some ([], rest)
  | c :: rest => (cutGap rest).map fun (before, after) => (c :: before, after)

/-- The address written by `cs`.  A gap stands for at least one zero group. -/
def ofChars? (cs : List Char) : Option Ipv6 :=
  match cutGap cs with
  | none => do ofGroups? (← tailGroups? cs)
  | some (before, after) => do
    let front ← headGroups? before
    let back ← tailGroups? after
    if front.length + back.length < 8 then
      let zeros := List.replicate (8 - front.length - back.length) 0
      ofGroups? (front ++ zeros ++ back)
    else none

/-- How many zero groups the list starts with. -/
def leadingZeros (groups : List UInt16) : Nat :=
  (groups.takeWhile (· == 0)).length

/-- Where the first of the longest runs of zero groups starts, and how long
it is. -/
def longestZeros : List UInt16 → Nat × Nat
  | [] => (0, 0)
  | group :: groups =>
    let here := leadingZeros (group :: groups)
    let later := longestZeros groups
    if later.2 ≤ here then (0, here) else (later.1 + 1, later.2)

/-- Groups in hexadecimal, with colons between them. -/
def joinGroups (groups : List UInt16) : List Char :=
  Text.join [':'] (groups.map fun g => Numeral.hexadecimal g.toNat)

/-- The canonical text, as characters. -/
def toChars (ip : Ipv6) : List Char :=
  match ip.groups with
  | [0, 0, 0, 0, 0, 0xffff, high, low] =>
    "::ffff:".toList ++ (Ipv4.ofGroups high low).toChars
  | groups =>
    let (start, length) := longestZeros groups
    if 2 ≤ length then
      joinGroups (groups.take start) ++ [':', ':'] ++
        joinGroups (groups.drop (start + length))
    else joinGroups groups

end Ipv6

/-- An address of either family. -/
inductive Ip where
  | v4 (address : Ipv4)
  | v6 (address : Ipv6)
  deriving DecidableEq

namespace Ip

/-- How many bits an address has. -/
def width : Ip → Nat
  | .v4 _ => 32
  | .v6 _ => 128

/-- Whether the address is of the older family. -/
def isV4 : Ip → Bool
  | .v4 _ => true
  | .v6 _ => false

/-- The address written by `cs`. -/
def ofChars? (cs : List Char) : Option Ip :=
  match Ipv4.ofChars? cs with
  | some ip => some (.v4 ip)
  | none => (Ipv6.ofChars? cs).map .v6

/-- The address named by a text. -/
def ofString? (s : String) : Option Ip :=
  ofChars? s.toList

/-- The canonical text, as characters. -/
def toChars : Ip → List Char
  | .v4 ip => ip.toChars
  | .v6 ip => ip.toChars

/-- The canonical text. -/
def text (ip : Ip) : String :=
  String.ofList ip.toChars

end Ip
end VpnAttach
