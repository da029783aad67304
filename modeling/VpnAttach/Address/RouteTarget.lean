import VpnAttach.Address.Fault
import VpnAttach.Address.Ip

/-!
# Route targets

A route target is an administrator and an assigned number with a colon
between them.  The administrator is an autonomous system number or an IPv4
address.  Of the two numbers one has to fit in two octets and the other in
four; behind an IPv4 address the assigned number has two octets.  A route
target keeps the text it was written with, so that it reaches the agent as
the tenant wrote it.
-/

namespace VpnAttach

namespace RouteTarget

/-- A number of one to ten decimal digits. -/
def number? (cs : List Char) : Option Nat :=
  if cs.length ≤ 10 then Numeral.value? 10 cs else none

/-- Whether an autonomous system number and an assigned number fit in the six
octets of a route target. -/
def Fits (asn assigned : Nat) : Prop :=
  (asn < UInt16.size ∧ assigned < UInt32.size) ∨
    (asn < UInt32.size ∧ assigned < UInt16.size)

instance (asn assigned : Nat) : Decidable (Fits asn assigned) :=
  inferInstanceAs (Decidable (_ ∨ _))

/-- Whether `cs` is the text of a route target. -/
def isText (cs : List Char) : Bool :=
  match Text.splitOn ':' cs with
  | [administrator, assigned] =>
    match number? assigned with
    | none => false
    | some n =>
      match number? administrator with
      | some asn => decide (Fits asn n)
      | none => (Ipv4.ofChars? administrator).isSome && decide (n < UInt16.size)
  | _ => false

end RouteTarget

/-- A route target, as it was written. -/
structure RouteTarget where
  text : String
  isText_text : RouteTarget.isText text.toList = true
  deriving DecidableEq

/-- The route target named by a text. -/
def RouteTarget.ofString (s : String) : Except TextFault RouteTarget :=
  if h : RouteTarget.isText s.toList = true then .ok ⟨s, h⟩
  else .error (.routeTarget s)

end VpnAttach
