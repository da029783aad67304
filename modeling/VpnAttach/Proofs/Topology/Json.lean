import VpnAttach.Proofs.Address.Json
import VpnAttach.Topology.Json

/-!
# Topology objects are read back

Outside configuration documents every port, subnet and network is read back
from its encoding.
-/

namespace VpnAttach

open Json

variable {dialect : Dialect}

theorem PortStatus.readsBack (dialect : Dialect) :
    ReadsBack PortStatus.toJson (PortStatus.ofJson? dialect) :=
  .ofText rfl fun status => by cases status <;> rfl

theorem FixedIp.readsBack (hdialect : dialect ≠ .document) :
    ReadsBack toJson (ofJson? dialect) where
  held ip := by simp [toJson, Ip.readsBack.held]
  null := rfl
  reads harrange ip := by
    rw [toJson, ofJson?, (harrange.obj _).record? hdialect]
    · simp [lookup_cons_ite, ReadsBack.str.required harrange, Ip.readsBack.required harrange]
    · simp

theorem Port.readsBack (hdialect : dialect ≠ .document) :
    ReadsBack toJson (ofJson? dialect) where
  held port := by
    simp [toJson, MacAddress.readsBack.held, (FixedIp.readsBack hdialect).list.held,
      (PortStatus.readsBack dialect).held]
  null := rfl
  reads harrange port := by
    have hkeys : memberNames.Nodup := by decide
    rw [toJson, ofJson?, (harrange.obj _).record? hdialect]
    · simp [memberNames, lookup_cons_ite, ReadsBack.str.required harrange,
        MacAddress.readsBack.required harrange,
        (FixedIp.readsBack hdialect).list.withDefault harrange,
        ReadsBack.str.withDefault harrange, (PortStatus.readsBack dialect).withDefault harrange,
        ReadsBack.bool.withDefault harrange]
    · exact hkeys

theorem Subnet.readsBack (hdialect : dialect ≠ .document) :
    ReadsBack toJson (ofJson? dialect) where
  held subnet := by simp [toJson, IpPrefix.readsBack.held, Ip.readsBack.held_orNull]
  null := rfl
  reads harrange subnet := by
    rw [toJson, ofJson?, (harrange.obj _).record? hdialect]
    · simp [lookup_cons_ite, ReadsBack.str.required harrange, IpPrefix.readsBack.required harrange,
        Ip.readsBack.ifGiven_orNull harrange]
    · simp

theorem Network.readsBack (hdialect : dialect ≠ .document) :
    ReadsBack toJson (ofJson? dialect) where
  held network := by simp [toJson]
  null := rfl
  reads harrange network := by
    rw [toJson, ofJson?, (harrange.obj _).record? hdialect]
    · simp [lookup_cons_ite, ReadsBack.str.required harrange, ReadsBack.str.withDefault harrange,
        ReadsBack.bool.withDefault harrange]
    · simp

end VpnAttach
