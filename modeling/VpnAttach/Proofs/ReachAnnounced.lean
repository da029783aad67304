import VpnAttach.Proofs.Service.Effects
import VpnAttach.Proofs.Service.Runs
import VpnAttach.Scenario.Samples

/-!
# Changes of reach are announced

When a VPN begins to reach a port, the agent is told to update the VPN on the
port's network or to attach the port; when it ceases to, the agent is told to
delete the VPN there or to attach or detach the port.  Mutations and interfaces
are looked at one after the other: each can change the reach of one VPN or
around one router only, and sends what is needed there.
-/

namespace VpnAttach

open Notification (IsUpdate IsDelete IsAttach IsDetach)

variable {policy : Policy} {topology : Topology} {t : Tables} {id : String} {port : Port}
  {sent : List Notification}

/-- The agent is told that a VPN has come to a port. -/
def ToldOfArrival (sent : List Notification) (id : String) (port : Port) : Prop :=
  Sends sent (IsUpdate id port.network) ∨ Sends sent (IsAttach port.id)

/-- The agent is told that a VPN has left a port. -/
def ToldOfDeparture (sent : List Notification) (id : String) (port : Port) : Prop :=
  Sends sent (IsDelete id port.network) ∨ Sends sent (IsAttach port.id) ∨
    Sends sent (IsDetach port.id)

instance : Decidable (ToldOfArrival sent id port) :=
  inferInstanceAs (Decidable (_ ∨ _))

instance : Decidable (ToldOfDeparture sent id port) :=
  inferInstanceAs (Decidable (_ ∨ _ ∨ _))

/-! ## Mutations -/

namespace Tables.Stages

variable {fresh : String} {m : Mutation} {staged : Staged}

/-- A mutation that brings a VPN to a port says so. -/
theorem told_of_arrival (hm : t.Stages fresh m staged) (ht : t.Owned)
    (hport : topology.port? port.id = some port)
    (hheeded : Rules.Heeded policy topology port)
    (hbefore : ¬ReachesPort topology t id port)
    (hafter : ReachesPort topology staged.committed id port) :
    ToldOfArrival (Rules.plan policy topology staged.committed staged.change).sent id
      port := by
  have howned := hm.owned ht
  have hactive := Topology.hasActivePort_of_port? hport hheeded.2
  have hstored := howned.stored_of_reachesPort hafter
  have hkept (hnetworks : Rows.Joined staged.committed.networks id port.network →
        Rows.Joined t.networks id port.network)
      (hrouters : ∀ router, Rows.Joined staged.committed.routers id router →
        Rows.Joined t.routers id router)
      (hports : Rows.Joined staged.committed.ports id port.id →
        Rows.Joined t.ports id port.id) : False :=
    hbefore (hafter.mono hnetworks hrouters hports fun _ hi => hi)
  cases hm with
  | @createNetwork _ _ _ a _ _ =>
    have hnew : a.owner = id ∧ a.target = port.network := not_not.1 fun hother =>
      hkept (fun h => (Rows.joined_append.1 h).resolve_right hother) (fun _ h => h)
        fun h => h
    obtain ⟨rfl, htarget⟩ := hnew
    exact Or.inl ((Rules.updates_aboutOwner hstored).2
      ⟨rfl, List.mem_singleton.2 htarget.symm, hactive⟩)
  | @createRouter _ _ _ a _ _ =>
    obtain ⟨router, hrouter, hplugged, hnew⟩ :=
      hafter.exists_router hbefore (fun h => h) fun h => h
    have hold : ¬Rows.Joined t.routers id router := fun hold => hnew ⟨hold, hplugged⟩
    obtain ⟨rfl, rfl⟩ := (Rows.joined_append.1 hrouter).resolve_left hold
    exact Or.inl ((Rules.updates_aboutOwner hstored).2
      ⟨rfl, Topology.mem_networksOf.2 hplugged, hactive⟩)
  | @createPort _ _ _ a _ _ =>
    have hnew : a.owner = id ∧ a.target = port.id := not_not.1 fun hother =>
      hkept (fun h => h) (fun _ h => h)
        fun h => (Rows.joined_append.1 h).resolve_right hother
    refine Or.inr (sends_sent_cons.2 (Or.inl ?_))
    rw [hnew.2]
    exact Rules.attaches_refreshPort howned hport hheeded hafter
  | deleteVpn _ =>
    exact (hkept (fun h => (Rows.joined_removeOwned.1 h).2)
      (fun _ h => (Rows.joined_removeOwned.1 h).2)
      fun h => (Rows.joined_removeOwned.1 h).2).elim
  | deleteNetwork _ _ =>
    exact (hkept (fun h => h.of_remove) (fun _ h => h) fun h => h).elim
  | deleteRouter _ _ =>
    exact (hkept (fun h => h) (fun _ h => h.of_remove) fun h => h).elim
  | deletePort _ _ =>
    exact (hkept (fun h => h) (fun _ h => h) fun h => h.of_remove).elim
  | updateRouter _ _ =>
    exact (hkept (fun h => h) (fun _ h => Rows.joined_modify.1 h) fun h => h).elim
  | updatePort _ _ =>
    exact (hkept (fun h => h) (fun _ h => h) fun h => Rows.joined_modify.1 h).elim
  | _ => exact (hkept (fun h => h) (fun _ h => h) fun h => h).elim

/-- A mutation that takes a VPN from a port says so. -/
theorem told_of_departure (hm : t.Stages fresh m staged) (ht : t.Owned)
    (hport : topology.port? port.id = some port)
    (hheeded : Rules.Heeded policy topology port)
    (hbefore : ReachesPort topology t id port)
    (hafter : ¬ReachesPort topology staged.committed id port) :
    ToldOfDeparture (Rules.plan policy topology staged.committed staged.change).sent id
      port := by
  have howned := hm.owned ht
  have hactive := Topology.hasActivePort_of_port? hport hheeded.2
  have hkept (hnetworks : Rows.Joined t.networks id port.network →
        Rows.Joined staged.committed.networks id port.network)
      (hrouters : ∀ router, Rows.Joined t.routers id router →
        Rows.Joined staged.committed.routers id router)
      (hports : Rows.Joined t.ports id port.id →
        Rows.Joined staged.committed.ports id port.id) : False :=
    hafter (hbefore.mono hnetworks hrouters hports fun _ hi => hi)
  cases hm with
  | @deleteVpn deleted row hrow =>
    have hid : row.id = id := by
      rw [id_of_row? hrow]
      refine not_not.1 fun hother => ?_
      have hne : id ≠ deleted := fun h => hother h.symm
      exact hkept (fun h => Rows.joined_removeOwned.2 ⟨hne, h⟩)
        (fun _ h => Rows.joined_removeOwned.2 ⟨hne, h⟩)
        fun h => Rows.joined_removeOwned.2 ⟨hne, h⟩
    rw [Rules.plan]
    rcases hbefore with hreaches | hjoined
    · refine Or.inl (sends_sent_cons.2 (Or.inl (Rules.deletes_pushDeletes.2 ?_)))
      exact ⟨hid, mem_networksOf_fill.2 (hid ▸ hreaches), hactive⟩
    · have hmem : port.id ∈ (t.fill row).ports := Rows.mem_targetsOf.2 (hid ▸ hjoined)
      refine Or.inr ((Rules.told_refreshPort (t := t.without deleted) hport hheeded).imp
        (fun h => ?_) fun h => ?_)
      · exact sends_sent_cons.2 (Or.inr (sends_sent_map.2 ⟨port.id, hmem, h⟩))
      · exact sends_sent_cons.2 (Or.inr (sends_sent_map.2 ⟨port.id, hmem, h⟩))
  | @deleteNetwork owner rowId _ a _ ha =>
    have hstored : a.owner ∈
        vpnIds { t with networks := Rows.remove owner rowId t.networks } :=
      ht.networks a (Rows.mem_of_find? ha).1
    have hold : a.owner = id ∧ a.target = port.network := not_not.1 fun hother =>
      hkept (fun h => (h.remove ha).resolve_right hother) (fun _ h => h) fun h => h
    obtain ⟨rfl, htarget⟩ := hold
    exact Or.inl ((Rules.deletes_aboutOwner_withdraw howned hstored).2
      ⟨rfl, List.mem_singleton.2 htarget.symm, hactive, fun h => hafter (Or.inl h)⟩)
  | @deleteRouter owner rowId _ a _ ha =>
    have hstored : a.owner ∈ vpnIds { t with routers := Rows.remove owner rowId t.routers } :=
      ht.routers a (Rows.mem_of_find? ha).1
    obtain ⟨router, hrouter, hplugged, hgone⟩ :=
      hbefore.exists_router hafter (fun h => h) fun h => h
    obtain ⟨rfl, rfl⟩ := (hrouter.remove ha).resolve_left fun hleft => hgone ⟨hleft, hplugged⟩
    exact Or.inl ((Rules.deletes_aboutOwner_withdraw howned hstored).2
      ⟨rfl, Topology.mem_networksOf.2 hplugged, hactive, fun h => hafter (Or.inl h)⟩)
  | @deletePort _ _ _ a _ ha =>
    have hold : a.owner = id ∧ a.target = port.id := not_not.1 fun hother =>
      hkept (fun h => h) (fun _ h => h) fun h => (h.remove ha).resolve_right hother
    rw [Rules.plan, hold.2]
    refine Or.inr ?_
    rw [sends_sent_cons, sends_sent_cons]
    exact (Rules.told_refreshPort hport hheeded).imp Or.inl Or.inl
  | createNetwork _ _ =>
    exact (hkept (fun h => Rows.joined_append.2 (Or.inl h)) (fun _ h => h) fun h => h).elim
  | createRouter _ _ =>
    exact (hkept (fun h => h) (fun _ h => Rows.joined_append.2 (Or.inl h)) fun h => h).elim
  | createPort _ _ =>
    exact (hkept (fun h => h) (fun _ h => h) fun h => Rows.joined_append.2 (Or.inl h)).elim
  | updateRouter _ _ =>
    exact (hkept (fun h => h) (fun _ h => Rows.joined_modify.2 h) fun h => h).elim
  | updatePort _ _ =>
    exact (hkept (fun h => h) (fun _ h => h) fun h => Rows.joined_modify.2 h).elim
  | _ => exact (hkept (fun h => h) (fun _ h => h) fun h => h).elim

end Tables.Stages

/-! ## Commands -/

namespace Service

variable {setup : Setup} {s : Service} {c : Command} {tables : Tables}

/-- Plugging a router in brings the VPNs of the router, and says so. -/
theorem told_of_plug {router network : String} (ht : t.Owned)
    (hport : (topology.plug router network).port? port.id = some port)
    (hactive : port.status.isActive = true)
    (hbefore : ¬ReachesPort topology t id port)
    (hafter : ReachesPort (topology.plug router network) t id port) :
    Sends (Rules.eventPlan policy (topology.plug router network) t
      (.interfaceAdded router network)).sent (IsUpdate id port.network) := by
  obtain ⟨other, hrouter, hplugged, hnew⟩ :=
    hafter.exists_router hbefore (fun h => h) fun h => h
  have hold : ⟨other, port.network⟩ ∉ topology.interfaces := fun hold => hnew ⟨hrouter, hold⟩
  obtain ⟨rfl, rfl⟩ :=
    Interface.mk.inj ((Topology.mem_interfaces_plug.1 hplugged).resolve_left hold)
  have hmem : id ∈ (Rules.interfaceVpns t other port.network).map (·.id) := by
    rw [Rules.interfaceVpns, mem_map_distinctBy, List.map_append, List.mem_append]
    refine Or.inl (Tables.mem_map_id_vpnsWithIds.2 ⟨?_, ht.stored_of_reachesPort hafter⟩)
    exact Rows.mem_map_owner_onTarget.2 hrouter
  obtain ⟨vpn, hvpn, hid⟩ := List.mem_map.1 hmem
  exact Rules.sends_interfaceAdded.2
    ⟨Topology.hasActivePort_of_port? hport hactive, vpn, hvpn, hid, rfl⟩

/-- Unplugging a router takes VPNs of the router away, and says so. -/
theorem told_of_unplug {router network : String} (ht : t.Owned)
    (hport : (topology.unplug router network).port? port.id = some port)
    (hactive : port.status.isActive = true)
    (hbefore : ReachesPort topology t id port)
    (hafter : ¬ReachesPort (topology.unplug router network) t id port) :
    Sends (Rules.eventPlan policy (topology.unplug router network) t
      (.interfaceRemoved router network)).sent (IsDelete id port.network) := by
  have hdirect : ¬Rows.Joined t.networks id port.network :=
    fun h => hafter (Or.inl (reaches_iff.2 (Or.inl h)))
  obtain ⟨other, hrouter, hplugged, hgone⟩ :=
    hbefore.exists_router hafter (fun h => h) fun h => h
  have hunplugged : (⟨other, port.network⟩ : Interface) = ⟨router, network⟩ :=
    not_not.1 fun hkept =>
      hgone ⟨hrouter, Topology.mem_interfaces_unplug.2 ⟨hplugged, hkept⟩⟩
  obtain ⟨rfl, rfl⟩ := Interface.mk.inj hunplugged
  exact (Rules.deletes_interfaceRemoved ht).2
    ⟨rfl, Topology.hasActivePort_of_port? hport hactive, hrouter, hdirect⟩

/-- An accepted command announces every change of reach at a heeded port. -/
theorem Accepts.told_of_reach {sent : List Notification}
    (h : Accepts setup s c tables topology sent) (hs : s.tables.Owned)
    (hport : topology.port? port.id = some port)
    (hheeded : Rules.Heeded setup.policy topology port) :
    (ReachesPort topology tables id port → ¬ReachesPort s.topology s.tables id port →
      ToldOfArrival sent id port) ∧
    (ReachesPort s.topology s.tables id port → ¬ReachesPort topology tables id port →
      ToldOfDeparture sent id port) := by
  rcases h.reach_cases with ⟨m, staged, rfl, hstages, -, rfl, rfl, rfl⟩ |
    ⟨router, network, rfl, rfl, rfl, rfl⟩ |
    ⟨router, network, rfl, rfl, -, rfl, rfl⟩ | ⟨-, hports⟩
  · exact ⟨fun hafter hbefore => hstages.told_of_arrival hs hport hheeded hbefore hafter,
      fun hbefore hafter => hstages.told_of_departure hs hport hheeded hbefore hafter⟩
  · refine ⟨fun hafter hbefore => Or.inl (told_of_plug hs hport hheeded.2 hbefore hafter),
      fun hbefore hafter => (hafter ?_).elim⟩
    refine hbefore.mono (fun h => h) (fun _ h => h) (fun h => h) fun _ hi => ?_
    exact Topology.mem_interfaces_plug.2 (Or.inl hi)
  · refine ⟨fun hafter hbefore => (hbefore ?_).elim,
      fun hbefore hafter => Or.inl (told_of_unplug hs hport hheeded.2 hbefore hafter)⟩
    refine hafter.mono (fun h => h) (fun _ h => h) (fun h => h) fun _ hi => ?_
    exact (Topology.mem_interfaces_unplug.1 hi).1
  · obtain ⟨rfl, hinterfaces, -⟩ := hports
    have hsame : ReachesPort topology s.tables id port ↔
        ReachesPort s.topology s.tables id port := by
      simp only [ReachesPort, reaches_iff, hinterfaces]
    exact ⟨fun hafter hbefore => (hbefore (hsame.1 hafter)).elim,
      fun hbefore hafter => (hafter (hsame.2 hbefore)).elim⟩

/-- Every change of reach at an active port that is not ignored is announced,
whatever command brings it about. -/
theorem reach_announced (setup : Setup) (commands : List Command) (c : Command)
    (hok : ((applyAll setup {} commands).apply setup c).answer.isOk = true) :
    let s := applyAll setup {} commands
    let s' := (s.apply setup c).service
    let before (port : Port) := (vpnsOfPort s.topology s.tables port).map (·.id)
    let after (port : Port) := (vpnsOfPort s'.topology s'.tables port).map (·.id)
    ∀ port, s'.topology.port? port.id = some port → port.status = .active →
      ignoresPort setup.policy s'.topology port = false →
      (∀ id ∈ after port, id ∉ before port →
        ToldOfArrival (s.sentBy setup c) id port) ∧
      (∀ id ∈ before port, id ∉ after port →
        ToldOfDeparture (s.sentBy setup c) id port) := by
  have haccepts := accepts_of_isOk hok
  have howned := owned_applyAll setup commands
  have howned' := haccepts.owned howned
  intro s s' before after port hport hactive hignored
  have hheeded : Rules.Heeded setup.policy s'.topology port :=
    ⟨hignored, by rw [hactive]; rfl⟩
  refine ⟨fun id hafter hbefore => ?_, fun id hbefore hafter => ?_⟩
  · exact (haccepts.told_of_reach howned hport hheeded).1
      (howned'.mem_vpnsOfPort.1 hafter) fun h => hbefore (howned.mem_vpnsOfPort.2 h)
  · exact (haccepts.told_of_reach howned hport hheeded).2
      (howned.mem_vpnsOfPort.1 hbefore) fun h => hafter (howned'.mem_vpnsOfPort.2 h)

/-- An active port, and a VPN that does not reach it. -/
def apart : List Command := [
  .createPort (Scenario.activePort "port" "net"),
  .mutate (.createVpn (Scenario.vpn .l3 "vpn" []))]

theorem reach_announced_apart :
    let s := applyAll .plain {} apart
    let c := Command.mutate (.createNetwork "vpn" (Scenario.association "a" "net" ()))
    (s.apply .plain c).answer.isOk = true ∧
      ToldOfArrival (s.sentBy .plain c) "vpn" (Scenario.activePort "port" "net") := by
  intro s c
  have hok : (s.apply .plain c).answer.isOk = true := by decide
  have htold := reach_announced .plain apart c hok (Scenario.activePort "port" "net")
    rfl rfl (by decide)
  exact ⟨hok, htold.1 "vpn" (by decide) (by decide)⟩

end Service
end VpnAttach
