import VpnAttach.Address.Json
import VpnAttach.Proofs.Address.Mac
import VpnAttach.Proofs.Address.Prefix
import VpnAttach.Proofs.Json.Record

/-!
# Addresses are read back

Every address is read back from its encoding, a route target with the text it
was written in.
-/

namespace VpnAttach

open Json

theorem MacAddress.readsBack : ReadsBack MacAddress.toJson MacAddress.ofJson? :=
  .ofText rfl fun mac => by rw [ofJson?, ofString_text, Except.toOption]

theorem Ip.readsBack : ReadsBack Ip.toJson Ip.ofJson? :=
  .ofText rfl fun ip => by
    rw [Ip.ofJson?, Ip.ofString?, Ip.text, String.toList_ofList, Ip.ofChars?_toChars]

theorem IpPrefix.readsBack : ReadsBack IpPrefix.toJson IpPrefix.ofJson? :=
  .ofText rfl fun pfx => by rw [ofJson?, ofString_text, Except.toOption]

theorem RouteTarget.readsBack : ReadsBack RouteTarget.toJson RouteTarget.ofJson? :=
  .ofText rfl fun target => by
    rw [ofJson?, ofString, dif_pos target.isText_text, Except.toOption]

end VpnAttach
