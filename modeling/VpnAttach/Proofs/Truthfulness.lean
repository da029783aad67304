import VpnAttach.Proofs.Service.Effects
import VpnAttach.Proofs.Service.Runs
import VpnAttach.Scenario.Samples

/-!
# What the agent is told is true

A notification is made from whatever is at hand: a VPN that was staged or one
that is read again after the commit, networks that were listed before or looked
up now, a port as it was reported.  `Notification.Truthful` says what an update
or an attachment claims about a state.  No part of a plan misleads the agent in
this respect, so whatever a command sends is true of the state that the command
leads to.
-/

namespace VpnAttach

variable {policy : Policy} {topology : Topology} {t : Tables} {id network : String}
  {vpn : Vpn} {port : Port}

namespace Notification

/-- A notification is true of a state.  An update is about a stored VPN and a
network with an active port which the VPN reaches, and shows the VPN as it is
stored.  An attachment is about an active port that is not ignored and that some
VPN reaches, goes to the host of the port, and shows all VPNs that reach it. -/
def Truthful (policy : Policy) (topology : Topology) (t : Tables) : Notification → Prop
  | .update payload =>
    ∃ vpn, t.getVpn payload.id = .ok vpn ∧
      topology.hasActivePort payload.network = true ∧
      vpn ∈ vpnsOfNetwork topology t payload.network ∧
      payload = VpnPayload.make policy.emitted vpn payload.network
  | .attach payload host =>
    ∃ port, topology.port? payload.id = some port ∧ port.status = .active ∧
      ignoresPort policy topology port = false ∧ host = port.host ∧
      vpnsOfPort topology t port ≠ [] ∧
      payload = Rules.attachPayload policy topology t port (vpnsOfPort topology t port)
  | .delete _ | .detach _ _ => True

/-- A notification says something of a state that is not true. -/
def Misleads (policy : Policy) (topology : Topology) (t : Tables) (n : Notification) :
    Prop :=
  ¬n.Truthful policy topology t

theorem not_misleads_update (hvpn : t.vpn? vpn.id = some vpn)
    (hreaches : Reaches topology t vpn.id network)
    (hactive : topology.hasActivePort network = true) :
    ¬Misleads policy topology t (.update (VpnPayload.make policy.emitted vpn network)) := by
  refine not_not.2 ⟨vpn, Tables.getVpn_eq_ok.2 hvpn, hactive, ?_, rfl⟩
  exact mem_vpnsOfNetwork.2 ⟨hreaches, hvpn⟩

theorem not_misleads_attach (hport : topology.port? port.id = some port)
    (hheeded : Rules.Heeded policy topology port)
    (hreached : vpnsOfPort topology t port ≠ []) :
    ¬Misleads policy topology t (.attach (Rules.attachPayload policy topology t port
      (vpnsOfPort topology t port)) port.host) :=
  not_not.2 ⟨port, hport, eq_of_beq hheeded.2, hheeded.1, rfl, hreached, rfl⟩

@[simp] theorem not_misleads_delete {payload : VpnPayload} :
    ¬Misleads policy topology t (.delete payload) :=
  not_not.2 trivial

@[simp] theorem not_misleads_detach {payload : PortPayload} {host : String} :
    ¬Misleads policy topology t (.detach payload host) :=
  not_not.2 trivial

end Notification

open Notification (Misleads not_misleads_update not_misleads_attach not_misleads_detach)

/-! ## Parts of plans -/

namespace Rules

variable {networks : List String} {owner : String}

theorem not_misleads_pushUpdates (hvpn : t.vpn? vpn.id = some vpn)
    (hreaches : ∀ network ∈ networks, Reaches topology t vpn.id network) :
    ¬Sends (pushUpdates policy topology vpn networks) (Misleads policy topology t) := by
  intro h
  obtain ⟨network, hmem, hactive, hmisleads⟩ := sends_pushUpdates.1 h
  exact not_misleads_update hvpn (hreaches network hmem) hactive hmisleads

theorem not_misleads_pushDeletes :
    ¬Sends (pushDeletes policy topology vpn networks) (Misleads policy topology t) := by
  simp [sends_pushDeletes]

theorem not_misleads_refreshPort :
    ¬Sends (refreshPort policy topology t id) (Misleads policy topology t) := by
  intro h
  obtain ⟨port, hport, hheeded, ⟨-, hmisleads⟩ | ⟨hreached, hmisleads⟩⟩ :=
    sends_refreshPort.1 h
  · exact not_misleads_detach hmisleads
  · obtain rfl := Topology.id_of_port? hport
    exact not_misleads_attach hport hheeded hreached hmisleads

/-- The owner of an association is updated where it reaches. -/
theorem not_misleads_aboutOwner
    (hreaches : ∀ network ∈ networks, Reaches topology t owner network) :
    ¬Sends (aboutOwner t owner fun vpn => [pushUpdates policy topology vpn networks]).sent
      (Misleads policy topology t) := by
  intro hsent
  obtain ⟨vpn, hvpn, h⟩ := sends_aboutOwner.1 hsent
  obtain rfl := Tables.id_of_vpn? hvpn
  exact not_misleads_pushUpdates hvpn hreaches (sends_sent_singleton.1 h)

/-- Where a VPN is withdrawn it is updated only if it still reaches. -/
theorem not_misleads_aboutOwner_withdraw (ht : t.Owned) :
    ¬Sends (aboutOwner t owner fun vpn => withdraw policy topology t vpn networks).sent
      (Misleads policy topology t) := by
  intro hsent
  obtain ⟨vpn, hvpn, h⟩ := sends_aboutOwner.1 hsent
  obtain rfl := Tables.id_of_vpn? hvpn
  obtain ⟨network, -, hactive, ⟨-, hmisleads⟩ | ⟨hstill, hmisleads⟩⟩ := sends_withdraw.1 h
  · exact Notification.not_misleads_delete hmisleads
  · exact not_misleads_update hvpn ((stillReaches_iff ht).1 hstill) hactive hmisleads

/-! ## Events -/

theorem not_misleads_attachPort (hport : topology.port? port.id = some port)
    (hheeded : Heeded policy topology port) :
    ¬Sends (attachPort policy topology t port) (Misleads policy topology t) := by
  intro h
  obtain ⟨hreached, hmisleads⟩ := sends_attachPort.1 h
  exact not_misleads_attach hport hheeded hreached hmisleads

/-- Detaching a port says nothing of the state, whenever it is done. -/
theorem not_misleads_detachPort {seen : Topology} :
    ¬Sends (detachPort seen t port) (Misleads policy topology t) := by
  simp [sends_detachPort]

theorem not_misleads_portCreated (hport : topology.port? port.id = some port) :
    ¬Sends (eventPlan policy topology t (.portCreated port)).sent
      (Misleads policy topology t) := by
  intro h
  obtain ⟨hheeded, h⟩ := sends_portCreated.1 h
  exact not_misleads_attachPort hport hheeded h

theorem not_misleads_portUpdated {previous : Port}
    (hport : topology.port? port.id = some port) :
    ¬Sends (eventPlan policy topology t (.portUpdated port previous)).sent
      (Misleads policy topology t) := by
  intro h
  obtain ⟨-, hignored, ⟨hactive, h⟩ | ⟨-, h⟩⟩ := sends_portUpdated.1 h
  · exact not_misleads_attachPort hport ⟨hignored, by rw [hactive]; rfl⟩ h
  · exact not_misleads_detachPort h

/-- All VPNs around a new interface reach its network. -/
theorem not_misleads_interfaceAdded {router : String}
    (hplugged : ⟨router, network⟩ ∈ topology.interfaces) :
    ¬Sends (eventPlan policy topology t (.interfaceAdded router network)).sent
      (Misleads policy topology t) := by
  intro h
  obtain ⟨hactive, vpn, hvpn, hmisleads⟩ := sends_interfaceAdded.1 h
  obtain ⟨hjoined, hstored⟩ := mem_interfaceVpns.1 hvpn
  have hreaches : Reaches topology t vpn.id network := by
    rw [reaches_iff]
    exact hjoined.symm.imp_right fun hrouter => ⟨router, hrouter, hplugged⟩
  exact not_misleads_update hstored hreaches hactive hmisleads

/-- The VPNs that are updated when an interface is gone reach its network directly. -/
theorem not_misleads_interfaceRemoved {router : String} :
    ¬Sends (eventPlan policy topology t (.interfaceRemoved router network)).sent
      (Misleads policy topology t) := by
  intro h
  obtain ⟨hactive, ⟨_, -, -, hmisleads⟩ | ⟨vpn, hvpn, hmisleads⟩⟩ :=
    sends_interfaceRemoved.1 h
  · exact Notification.not_misleads_delete hmisleads
  · obtain ⟨hdirect, hstored⟩ := Tables.mem_vpnsOnNetwork.1 hvpn
    exact not_misleads_update hstored (reaches_iff.2 (Or.inl hdirect)) hactive hmisleads

end Rules

/-! ## Mutations -/

/-- What is announced of a mutation is true of the committed tables. -/
theorem Tables.Stages.not_misleads {fresh : String} {m : Mutation} {staged : Staged}
    (hm : t.Stages fresh m staged) (ht : t.Owned) :
    ¬Sends (Rules.plan policy topology staged.committed staged.change).sent
      (Misleads policy topology staged.committed) := by
  have howned := hm.owned ht
  cases hm with
  | createVpn _ => exact Rules.not_sends_plan_vpnCreated _
  | @updateVpn id changes row hrow =>
    -- An update is announced with the new values, which are in the tables by then.
    obtain rfl := Tables.id_of_row? hrow
    simp only [Rules.plan]
    split
    · rw [sends_sent_singleton]
      refine Rules.not_misleads_pushUpdates ?_ ?_
      · exact Tables.vpn?_of_row? (Tables.row?_updateVpn hrow)
      · intro network hmem
        exact mem_networksOf_fill.1 hmem
    · exact not_sends_sent_nil
  | deleteVpn _ =>
    rw [Rules.plan, sends_sent_cons, sends_sent_map]
    intro h
    rcases h with h | ⟨_, -, h⟩
    · exact Rules.not_misleads_pushDeletes h
    · exact Rules.not_misleads_refreshPort h
  | @createNetwork _ _ _ a _ _ =>
    refine Rules.not_misleads_aboutOwner fun network hmem => ?_
    obtain rfl := List.mem_singleton.1 hmem
    exact reaches_iff.2 (Or.inl (Rows.joined_append.2 (Or.inr ⟨rfl, rfl⟩)))
  | deleteNetwork _ _ => exact Rules.not_misleads_aboutOwner_withdraw howned
  | @createRouter _ _ _ a _ _ =>
    refine Rules.not_misleads_aboutOwner fun network hmem => ?_
    refine reaches_iff.2 (Or.inr ⟨a.target, ?_, Topology.mem_networksOf.1 hmem⟩)
    exact Rows.joined_append.2 (Or.inr ⟨rfl, rfl⟩)
  | @updateRouter _ _ _ _ a _ ha =>
    simp only [Rules.plan]
    split
    · refine Rules.not_misleads_aboutOwner fun network hmem => ?_
      refine reaches_iff.2 (Or.inr ⟨a.target, ?_, Topology.mem_networksOf.1 hmem⟩)
      exact Rows.joined_modify.2 ⟨a, (Rows.mem_of_find? ha).1, rfl, rfl⟩
    · exact not_sends_sent_nil
  | deleteRouter _ _ => exact Rules.not_misleads_aboutOwner_withdraw howned
  | createPort _ _ =>
    rw [Rules.plan, sends_sent_singleton]
    exact Rules.not_misleads_refreshPort
  | updatePort _ _ =>
    simp only [Rules.plan]
    split
    · exact not_sends_sent_nil
    · rw [sends_sent_singleton]
      exact Rules.not_misleads_refreshPort
  | deletePort _ _ =>
    rw [Rules.plan, sends_sent_singleton]
    exact Rules.not_misleads_refreshPort

/-! ## Commands -/

namespace Service

variable {setup : Setup} {s : Service} {c : Command} {tables : Tables}
  {sent : List Notification}

/-- A port that was taken note of is told of as it is known now. -/
theorem not_misleads_portEvent (policy : Policy) (s : Service) (port : Port) :
    ¬Sends (Rules.eventPlan policy (s.topology.putPort port) s.tables
      (s.portEvent port)).sent
      (Misleads policy (s.topology.putPort port) s.tables) := by
  have hport := Topology.port?_putPort s.topology port
  unfold portEvent
  split
  · exact Rules.not_misleads_portUpdated hport
  · exact Rules.not_misleads_portCreated hport

/-- No accepted command misleads the agent about the state it leads to. -/
theorem Accepts.not_misleads (h : Accepts setup s c tables topology sent)
    (howned : s.tables.Owned) : ¬Sends sent (Misleads setup.policy topology tables) := by
  cases h with
  | mutate hstages _ => exact hstages.not_misleads howned
  | createPort port => exact not_misleads_portEvent setup.policy s port
  | updatePort port => exact not_misleads_portEvent setup.policy s port
  | setPortStatus status _ => exact not_misleads_portEvent setup.policy s _
  | deletePort _ =>
    intro hsent
    obtain ⟨_, -, -, hsent⟩ := Rules.sends_portDeleted.1 hsent
    exact Rules.not_misleads_detachPort hsent
  | plug _ _ =>
    exact Rules.not_misleads_interfaceAdded (Topology.mem_interfaces_plug.2 (Or.inr rfl))
  | unplug _ => exact Rules.not_misleads_interfaceRemoved
  | _ => exact not_sends_nil

/-- Whatever a command sends after any run is true of the state it leads to. -/
theorem truthful_sentBy (setup : Setup) (commands : List Command) (c : Command) :
    let s := applyAll setup {} commands
    let s' := (s.apply setup c).service
    ∀ n ∈ s.sentBy setup c, n.Truthful setup.policy s'.topology s'.tables := by
  intro s s' n hn
  rcases apply_cases setup s c with hkept | haccepts
  · rw [sentBy, hkept, List.drop_length] at hn
    cases hn
  · have howned : s.tables.Owned := owned_applyAll setup commands
    refine not_not.1 fun hmisleads => ?_
    exact haccepts.not_misleads howned ⟨n, hn, hmisleads⟩

theorem isText_vpnTarget : RouteTarget.isText "64512:5".toList = true := by
  decide

/-- An active port on a network, and a VPN with a target. -/
def portAndVpn : List Command := [
  .createPort (Scenario.activePort "port" "net"),
  .mutate (.createVpn (Scenario.vpn .l3 "vpn" [⟨"64512:5", isText_vpnTarget⟩]))]

/-- Here associations with the network and with the port have something to tell. -/
theorem truthful_sentBy_portAndVpn :
    let s := applyAll .plain {} portAndVpn
    let onNetwork := Command.mutate
      (.createNetwork "vpn" (Scenario.association "a" "net" ()))
    let onPort := Command.mutate
      (.createPort "vpn" (Scenario.association "a" "port" {}))
    (∃ payload, .update payload ∈ s.sentBy .plain onNetwork ∧
      (Notification.update payload).Truthful Setup.plain.policy s.topology
        (s.apply .plain onNetwork).service.tables) ∧
    ∃ payload host, .attach payload host ∈ s.sentBy .plain onPort ∧
      (Notification.attach payload host).Truthful Setup.plain.policy s.topology
        (s.apply .plain onPort).service.tables := by
  intro s onNetwork onPort
  have hupdate : .update ⟨"vpn", "net", [("l3vpn", ⟨["64512:5"], ["64512:5"]⟩)]⟩ ∈
      s.sentBy .plain onNetwork := by decide
  obtain ⟨payload, host, hattach⟩ : ∃ payload host,
      .attach payload host ∈ s.sentBy .plain onPort := ⟨_, _, List.mem_singleton_self _⟩
  exact ⟨⟨_, hupdate, truthful_sentBy .plain portAndVpn onNetwork _ hupdate⟩,
    _, _, hattach, truthful_sentBy .plain portAndVpn onPort _ hattach⟩

end Service
end VpnAttach
