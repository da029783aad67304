import VpnAttach.Proofs.Service.Effects
import VpnAttach.Proofs.Service.Runs
import VpnAttach.Scenario.Samples

/-!
# Withdrawal

A VPN may reach a network in several ways: through a network association, and
behind each router that it is associated with.  Ending one way should update
the VPN on the network while another way is left, and delete it otherwise.

Mutations do so, since `Rules.withdraw` works out the reach anew.  Unplugging a
router does not: it only asks for network associations, so a VPN which is left
behind another router of the network is deleted there.  The main result says
that this is the only such case, and that it takes a policy that allows a VPN
more than one router.
-/

namespace VpnAttach

open Notification (IsUpdate IsDelete)

variable {policy : Policy} {topology : Topology} {t : Tables} {id network : String}

/-- A way in which a VPN may reach a network. -/
inductive Way where
  | direct
  | behind (router : String)
  deriving DecidableEq

/-- A way leads from a VPN to a network. -/
def Way.Leads (topology : Topology) (t : Tables) (id network : String) : Way → Prop
  | .direct => Rows.Joined t.networks id network
  | .behind router =>
    Rows.Joined t.routers id router ∧ ⟨router, network⟩ ∈ topology.interfaces

theorem reaches_iff_exists_leads :
    Reaches topology t id network ↔ ∃ way : Way, way.Leads topology t id network := by
  rw [reaches_iff]
  constructor
  · intro hcases
    rcases hcases with hdirect | ⟨router, hbehind⟩
    · exact ⟨.direct, hdirect⟩
    · exact ⟨.behind router, hbehind⟩
  · intro hway
    rcases hway with ⟨_ | router, hleads⟩
    · exact Or.inl hleads
    · exact Or.inr ⟨router, hleads⟩

/-! ## Mutations -/

/-- A mutation deletes a VPN only on networks that it does not reach any more. -/
theorem Tables.Stages.not_reaches_of_delete {fresh : String} {m : Mutation}
    {staged : Staged} (hm : t.Stages fresh m staged) (ht : t.Owned)
    (h : Sends (Rules.plan policy topology staged.committed staged.change).sent
      (IsDelete id network)) :
    ¬Reaches topology staged.committed id network := by
  have howned := hm.owned ht
  cases hm with
  | createVpn _ => simp [Rules.plan] at h
  | updateVpn _ =>
    simp only [Rules.plan] at h
    split at h <;> simp at h
  | deleteVpn hrow =>
    simp only [Rules.plan, sends_sent_cons, sends_sent_map, Rules.deletes_pushDeletes,
      Rules.not_deletes_refreshPort, and_false, exists_false, or_false] at h
    obtain ⟨rfl, -, -⟩ := h
    rw [Tables.fill_id, Tables.id_of_row? hrow]
    exact not_reaches_without
  | createNetwork _ _ => simp [Rules.plan, Rules.sends_aboutOwner] at h
  | deleteNetwork _ _ =>
    simp only [Rules.plan, Rules.sends_aboutOwner, Rules.deletes_withdraw howned] at h
    obtain ⟨_, _, _, _, _, hgone⟩ := h
    exact hgone
  | createRouter _ _ => simp [Rules.plan, Rules.sends_aboutOwner] at h
  | updateRouter _ _ =>
    simp only [Rules.plan] at h
    split at h <;> simp [Rules.sends_aboutOwner] at h
  | deleteRouter _ _ =>
    simp only [Rules.plan, Rules.sends_aboutOwner, Rules.deletes_withdraw howned] at h
    obtain ⟨_, _, _, _, _, hgone⟩ := h
    exact hgone
  | createPort _ _ => simp [Rules.plan] at h
  | updatePort _ _ =>
    simp only [Rules.plan] at h
    split at h <;> simp at h
  | deletePort _ _ => simp [Rules.plan] at h

theorem Way.Leads.mono {t' : Tables} {topology' : Topology} {way : Way}
    (h : way.Leads topology t id network)
    (hnetworks : Rows.Joined t.networks id network → Rows.Joined t'.networks id network)
    (hrouters : ∀ router, Rows.Joined t.routers id router → Rows.Joined t'.routers id router)
    (hinterfaces : ∀ i ∈ topology.interfaces, i ∈ topology'.interfaces) :
    way.Leads topology' t' id network := by
  cases way with
  | direct => exact hnetworks h
  | behind router => exact ⟨hrouters router h.1, hinterfaces _ h.2⟩

/-- A mutation that takes one of several ways from a VPN updates it. -/
theorem Tables.Stages.updates_of_way_lost {fresh : String} {m : Mutation}
    {staged : Staged} {way : Way} (hm : t.Stages fresh m staged) (ht : t.Owned)
    (hbefore : way.Leads topology t id network)
    (hafter : ¬way.Leads topology staged.committed id network)
    (hreaches : Reaches topology staged.committed id network)
    (hactive : topology.hasActivePort network = true) :
    Sends (Rules.plan policy topology staged.committed staged.change).sent
      (IsUpdate id network) := by
  have howned := hm.owned ht
  have hkept (hnetworks : Rows.Joined t.networks id network →
        Rows.Joined staged.committed.networks id network)
      (hrouters : ∀ router, Rows.Joined t.routers id router →
        Rows.Joined staged.committed.routers id router) : False :=
    hafter (hbefore.mono hnetworks hrouters fun _ hi => hi)
  cases hm with
  | @deleteVpn deleted _ _ =>
    -- What is still reached is not the deleted VPN, so its rows are kept.
    have hother : id ≠ deleted := by
      intro hsame
      obtain rfl := hsame
      exact not_reaches_without hreaches
    exact (hkept (fun h => Rows.joined_removeOwned.2 ⟨hother, h⟩)
      fun _ h => Rows.joined_removeOwned.2 ⟨hother, h⟩).elim
  | createNetwork _ _ =>
    exact (hkept (fun h => Rows.joined_append.2 (Or.inl h)) fun _ h => h).elim
  | @deleteNetwork _ _ _ a _ ha =>
    have hgone : a.owner = id ∧ a.target = network := by
      refine not_not.1 fun hother => hkept (fun h => ?_) fun _ h => h
      exact (h.remove ha).resolve_right hother
    obtain ⟨rfl, rfl⟩ := hgone
    exact (Rules.updates_aboutOwner_withdraw howned (howned.stored_of_reaches hreaches)).2
      ⟨rfl, List.mem_singleton_self _, hactive, hreaches⟩
  | createRouter _ _ =>
    exact (hkept (fun h => h) fun _ h => Rows.joined_append.2 (Or.inl h)).elim
  | updateRouter _ _ =>
    exact (hkept (fun h => h) fun _ h => Rows.joined_modify.2 h).elim
  | @deleteRouter _ _ _ a _ ha =>
    have hgone : a.owner = id ∧ way = .behind a.target := by
      refine not_not.1 fun hother => ?_
      cases way with
      | direct => exact hafter hbefore
      | behind router =>
        refine hafter ⟨(hbefore.1.remove ha).resolve_right ?_, hbefore.2⟩
        intro h
        obtain ⟨rfl, rfl⟩ := h
        exact hother ⟨rfl, rfl⟩
    obtain ⟨rfl, rfl⟩ := hgone
    exact (Rules.updates_aboutOwner_withdraw howned (howned.stored_of_reaches hreaches)).2
      ⟨rfl, Topology.mem_networksOf.2 hbefore.2, hactive, hreaches⟩
  | _ => exact (hkept (fun h => h) fun _ h => h).elim

/-! ## Commands -/

namespace Service

variable {setup : Setup} {s : Service} {c : Command} {tables : Tables}
  {sent : List Notification}

/-- A command unplugs a router from a network, and the VPN is left there behind
another router but not directly. -/
def LeavesOtherRouter (s : Service) (c : Command) (id network : String) : Prop :=
  ∃ router other, c = .removeInterface router network ∧ other ≠ router ∧
    Way.Leads s.topology s.tables id network (.behind router) ∧
    Way.Leads s.topology s.tables id network (.behind other) ∧
    ¬Way.Leads s.topology s.tables id network .direct

/-- Two routers of one VPN take a policy that allows for them. -/
theorem not_leavesOtherRouter (hwithin : RoutersWithin 1 s.tables.routers) :
    ¬LeavesOtherRouter s c id network := by
  intro h
  obtain ⟨router, other, -, hne, ⟨hrouter, -⟩, ⟨hother, -⟩, -⟩ := h
  have hlength := hwithin id
  have hmem := Rows.mem_targetsOf.2 hrouter
  have hmem' := Rows.mem_targetsOf.2 hother
  match htargets : Rows.targetsOf id s.tables.routers with
  | [] => simp [htargets] at hmem
  | [target] =>
    rw [htargets, List.mem_singleton] at hmem hmem'
    exact hne (hmem'.trans hmem.symm)
  | _ :: _ :: _ => simp [htargets] at hlength

/-- Unplugging a router takes the ways behind it. -/
theorem leads_unplug {router unplugged : String} {way : Way} :
    way.Leads (topology.unplug router unplugged) t id network ↔
      way.Leads topology t id network ∧
        ¬(way = .behind router ∧ network = unplugged) := by
  cases way with
  | direct => simp [Way.Leads]
  | behind other =>
    simp only [Way.Leads, Topology.mem_interfaces_unplug, Interface.mk.injEq, ne_eq,
      Way.behind.injEq, and_assoc]

/-- A VPN that still reaches a network is deleted there exactly if it is left
behind another router. -/
theorem Accepts.delete_while_reached_iff
    (h : Accepts setup s c tables topology sent) (howned : s.tables.Owned) :
    (Sends sent (IsDelete id network) ∧ Reaches topology tables id network) ↔
      s.topology.hasActivePort network = true ∧ LeavesOtherRouter s c id network := by
  have hno (hc : ∀ router network, c ≠ .removeInterface router network)
      (hdelete : Sends sent (IsDelete id network) → ¬Reaches topology tables id network) :
      (Sends sent (IsDelete id network) ∧ Reaches topology tables id network) ↔
        s.topology.hasActivePort network = true ∧ LeavesOtherRouter s c id network :=
    ⟨fun ⟨hsent, hreaches⟩ => (hdelete hsent hreaches).elim,
      fun ⟨_, router, _, hcommand, _⟩ => (hc router network hcommand).elim⟩
  rcases h.reach_cases with ⟨m, staged, rfl, hstages, -, rfl, rfl, rfl⟩ |
    ⟨router, plugged, rfl, rfl, rfl, rfl⟩ |
    ⟨router, unplugged, rfl, rfl, hplugged, rfl, rfl⟩ | ⟨hc, hports⟩
  · exact hno (fun _ _ => nofun) (hstages.not_reaches_of_delete howned)
  · refine hno (fun _ _ => nofun) fun hsent => ?_
    simp [Rules.sends_interfaceAdded] at hsent
  · rw [Rules.deletes_interfaceRemoved howned, reaches_iff_exists_leads]
    simp only [leads_unplug]
    constructor
    · intro h
      obtain ⟨⟨rfl, hactive, hrouter, hdirect⟩, way, hleads, hway⟩ := h
      cases way with
      | direct => exact (hdirect hleads).elim
      | behind other =>
        refine ⟨hactive, router, other, rfl, fun hother => hway ⟨by rw [hother], rfl⟩,
          ⟨hrouter, Topology.isPlugged_eq_true.1 hplugged⟩, hleads, hdirect⟩
    · intro h
      obtain ⟨hactive, _, other, hcommand, hne, hrouter, hother, hdirect⟩ := h
      cases hcommand
      exact ⟨⟨rfl, hactive, hrouter.1, hdirect⟩, .behind other, hother,
        fun ⟨hway, _⟩ => hne (Way.behind.inj hway)⟩
  · refine hno hc fun hsent => ?_
    rcases hports.told _ hsent with ⟨_, _, h⟩ | ⟨_, _, h⟩ <;> exact h.elim

/-- When a VPN loses one of several ways, it is updated exactly if it is not
left behind another router. -/
theorem Accepts.update_of_way_lost_iff {way : Way}
    (h : Accepts setup s c tables topology sent) (howned : s.tables.Owned)
    (hbefore : way.Leads s.topology s.tables id network)
    (hafter : ¬way.Leads topology tables id network)
    (hreaches : Reaches topology tables id network)
    (hactive : topology.hasActivePort network = true) :
    Sends sent (IsUpdate id network) ↔ ¬LeavesOtherRouter s c id network := by
  have hyes (hc : ∀ router network, c ≠ .removeInterface router network)
      (hupdate : Sends sent (IsUpdate id network)) :
      Sends sent (IsUpdate id network) ↔ ¬LeavesOtherRouter s c id network :=
    ⟨fun _ ⟨router, _, hcommand, _⟩ => hc router network hcommand, fun _ => hupdate⟩
  rcases h.reach_cases with ⟨m, staged, rfl, hstages, -, rfl, rfl, rfl⟩ |
    ⟨router, plugged, rfl, rfl, rfl, rfl⟩ |
    ⟨router, unplugged, rfl, rfl, hplugged, rfl, rfl⟩ | ⟨hc, hports⟩
  · exact hyes (fun _ _ => nofun)
      (hstages.updates_of_way_lost howned hbefore hafter hreaches hactive)
  · refine (hafter (hbefore.mono (fun h => h) (fun _ h => h) fun _ hi => ?_)).elim
    exact Topology.mem_interfaces_plug.2 (Or.inl hi)
  · have hlost : way = .behind router ∧ network = unplugged := by
      rw [leads_unplug] at hafter
      exact not_not.1 fun hway => hafter ⟨hbefore, hway⟩
    obtain ⟨rfl, rfl⟩ := hlost
    rw [Rules.updates_interfaceRemoved howned]
    obtain ⟨other, hother⟩ := reaches_iff_exists_leads.1 hreaches
    rw [leads_unplug] at hother
    constructor
    · intro hupdated hleaves
      obtain ⟨-, -, hdirect⟩ := hupdated
      obtain ⟨_, _, _, _, _, _, hnot⟩ := hleaves
      exact hnot hdirect
    · intro hleaves
      refine ⟨rfl, hactive, not_not.1 fun hdirect => hleaves ?_⟩
      cases other with
      | direct => exact (hdirect hother.1).elim
      | behind other =>
        exact ⟨router, other, rfl, fun hsame => hother.2 ⟨by rw [hsame], rfl⟩, hbefore,
          hother.1, hdirect⟩
  · obtain ⟨rfl, hinterfaces, -⟩ := hports
    refine (hafter (hbefore.mono (fun h => h) (fun _ h => h) fun _ hi => ?_)).elim
    rw [hinterfaces]
    exact hi

/-- A VPN that still reaches a network is deleted there exactly if an active
port is on the network and the VPN is left behind another router.  In all
other cases in which it loses one of several ways it is updated.  No such case
occurs under a policy that allows a VPN one router. -/
theorem withdrawal_iff (setup : Setup) (commands : List Command) (c : Command)
    (hok : ((applyAll setup {} commands).apply setup c).answer.isOk = true) :
    let s := applyAll setup {} commands
    let s' := (s.apply setup c).service
    let around (network : String) :=
      (vpnsOfNetwork s'.topology s'.tables network).map (·.id)
    (∀ id network,
      (Sends (s.sentBy setup c) (IsDelete id network) ∧ id ∈ around network) ↔
        s.topology.hasActivePort network = true ∧ LeavesOtherRouter s c id network) ∧
    (∀ id network (way : Way), way.Leads s.topology s.tables id network →
      ¬way.Leads s'.topology s'.tables id network → id ∈ around network →
      s'.topology.hasActivePort network = true →
      (Sends (s.sentBy setup c) (IsUpdate id network) ↔
        ¬LeavesOtherRouter s c id network)) ∧
    (setup.policy.routerLimit ≤ 1 → ∀ id network, ¬LeavesOtherRouter s c id network) := by
  have haccepts := accepts_of_isOk hok
  have howned := owned_applyAll setup commands
  have howned' := haccepts.owned howned
  have hwithin := routersWithin_applyAll setup commands
  refine ⟨fun id network => ?_, fun id network way hbefore hafter haround hactive => ?_,
    fun hlimit id network => not_leavesOtherRouter (hwithin.mono hlimit)⟩
  · rw [howned'.mem_vpnsOfNetwork]
    exact haccepts.delete_while_reached_iff howned
  · rw [howned'.mem_vpnsOfNetwork] at haround
    exact haccepts.update_of_way_lost_iff howned hbefore hafter haround hactive

/-- A policy that allows a VPN two routers. -/
def twoRouters : Setup where
  policy := { routerLimit := 2 }
  ids := Ids.after 0

/-- A VPN behind two routers of a network with an active port. -/
def behindTwoRouters : List Command := [
  .createPort (Scenario.activePort "port" "net"),
  .addInterface "r1" "net",
  .addInterface "r2" "net",
  .mutate (.createVpn (Scenario.vpn .l3 "vpn" [])),
  .mutate (.createRouter "vpn" (Scenario.association "a1" "r1" {})),
  .mutate (.createRouter "vpn" (Scenario.association "a2" "r2" {}))]

/-- Unplugging one of the routers deletes the VPN, which is still there. -/
theorem deleted_behindTwoRouters :
    let s := applyAll twoRouters {} behindTwoRouters
    let c := Command.removeInterface "r1" "net"
    let s' := (s.apply twoRouters c).service
    Reachable twoRouters s ∧ (s.apply twoRouters c).answer.isOk = true ∧
      Sends (s.sentBy twoRouters c) (IsDelete "vpn" "net") ∧
      "vpn" ∈ (vpnsOfNetwork s'.topology s'.tables "net").map (·.id) ∧
      ¬Sends (s.sentBy twoRouters c) (IsUpdate "vpn" "net") :=
  ⟨Reachable.start.applyAll (by decide), by decide, by decide, by decide, by decide⟩

theorem withdrawal_iff_behindTwoRouters :
    let s := applyAll twoRouters {} behindTwoRouters
    let c := Command.removeInterface "r1" "net"
    (s.apply twoRouters c).answer.isOk = true ∧
      LeavesOtherRouter s c "vpn" "net" := by
  intro s c
  have hok : (s.apply twoRouters c).answer.isOk = true := by decide
  have hiff := (withdrawal_iff twoRouters behindTwoRouters c hok).1
  exact ⟨hok, ((hiff "vpn" "net").1 ⟨by decide, by decide⟩).2⟩

end Service
end VpnAttach
