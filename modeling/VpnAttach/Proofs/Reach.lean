import VpnAttach.Proofs.Tables.Soundness
import VpnAttach.Proofs.Topology
import VpnAttach.Reach

/-!
# Laws of reach

The lists that the rules work with are `vpnsWithIds` of lists of owners, and
an owner is in such a list if its VPN reaches the network (`mem_ownersAround`).
Where every owner is stored, the ids of `vpnsOfNetwork` are exactly the VPNs
that reach the network, and those of `vpnsOfPort` exactly the VPNs that reach
the port.
-/

namespace VpnAttach

variable {topology : Topology} {t : Tables} {id network : String} {port : Port}

/-! ## Networks -/

/-- Reach in terms of the rows of the association tables. -/
theorem reaches_iff :
    Reaches topology t id network ↔
      Rows.Joined t.networks id network ∨
        ∃ router, Rows.Joined t.routers id router ∧
          ⟨router, network⟩ ∈ topology.interfaces := by
  constructor
  · intro hcases
    rcases hcases with ⟨a, hstored, howner, htarget⟩ | ⟨a, hstored, howner, hplugged⟩
    · exact Or.inl ⟨a, hstored, howner, htarget⟩
    · exact Or.inr ⟨a.target, ⟨a, hstored, howner, rfl⟩, hplugged⟩
  · intro hcases
    rcases hcases with ⟨a, hstored, howner, htarget⟩ | ⟨_, ⟨a, hstored, howner, rfl⟩, hplugged⟩
    · exact .direct a hstored howner htarget
    · exact .router a hstored howner hplugged

/-- Reach grows with the associations and the interfaces. -/
theorem Reaches.mono {topology' : Topology} {t' : Tables}
    (h : Reaches topology t id network)
    (hnetworks : Rows.Joined t.networks id network → Rows.Joined t'.networks id network)
    (hrouters : ∀ router, Rows.Joined t.routers id router → Rows.Joined t'.routers id router)
    (hinterfaces : ∀ i ∈ topology.interfaces, i ∈ topology'.interfaces) :
    Reaches topology' t' id network := by
  rw [reaches_iff] at h ⊢
  rcases h with hdirect | ⟨router, hrouter, hplugged⟩
  · exact Or.inl (hnetworks hdirect)
  · exact Or.inr ⟨router, hrouters router hrouter, hinterfaces _ hplugged⟩

/-- A deleted VPN reaches nothing. -/
theorem not_reaches_without : ¬Reaches topology (t.without id) id network := by
  rw [reaches_iff]
  simp

/-- The owners of the associations with a network, then with its routers. -/
def ownersAround (topology : Topology) (t : Tables) (network : String) : List String :=
  (Rows.onTarget network t.networks).map (·.owner) ++
    (topology.routersOf network).flatMap fun router =>
      (Rows.onTarget router t.routers).map (·.owner)

theorem mem_ownersAround :
    id ∈ ownersAround topology t network ↔ Reaches topology t id network := by
  rw [reaches_iff, ownersAround, List.mem_append, Rows.mem_map_owner_onTarget,
    List.mem_flatMap]
  refine or_congr_right (exists_congr fun router => ?_)
  rw [Rows.mem_map_owner_onTarget, Topology.mem_routersOf, and_comm]

theorem vpnsOfNetwork_eq :
    vpnsOfNetwork topology t network = t.vpnsWithIds (ownersAround topology t network) :=
  Tables.distinctBy_vpnsWithIds_flatMap _ _ _

/-- The VPNs of a network are those that reach it, as they are stored. -/
theorem mem_vpnsOfNetwork {vpn : Vpn} :
    vpn ∈ vpnsOfNetwork topology t network ↔
      Reaches topology t vpn.id network ∧ t.vpn? vpn.id = some vpn := by
  rw [vpnsOfNetwork_eq, Tables.mem_vpnsWithIds, mem_ownersAround]

theorem mem_map_id_vpnsOfNetwork :
    id ∈ (vpnsOfNetwork topology t network).map (·.id) ↔
      Reaches topology t id network ∧ id ∈ t.vpnIds := by
  rw [vpnsOfNetwork_eq, Tables.mem_map_id_vpnsWithIds, mem_ownersAround]

/-- The networks of a stored VPN are those that it reaches. -/
theorem mem_networksOf_fill {row : Vpn} :
    network ∈ networksOf topology (t.fill row) ↔ Reaches topology t row.id network := by
  rw [networksOf, mem_distinct, List.mem_append, List.mem_flatMap, reaches_iff]
  refine or_congr Rows.mem_targetsOf (exists_congr fun router => ?_)
  rw [Topology.mem_networksOf]
  exact and_congr_left' Rows.mem_targetsOf

theorem nodup_networksOf (topology : Topology) (vpn : Vpn) :
    (networksOf topology vpn).Nodup :=
  nodup_distinct _

theorem Tables.Owned.stored_of_reaches (h : t.Owned)
    (hreaches : Reaches topology t id network) : id ∈ t.vpnIds := by
  rcases hreaches with ⟨a, hstored, rfl, -⟩ | ⟨a, hstored, rfl, -⟩
  · exact h.networks a hstored
  · exact h.routers a hstored

/-- The VPNs of a network are those that reach it. -/
theorem Tables.Owned.mem_vpnsOfNetwork (h : t.Owned) :
    id ∈ (vpnsOfNetwork topology t network).map (·.id) ↔
      Reaches topology t id network := by
  rw [mem_map_id_vpnsOfNetwork]
  exact and_iff_left_of_imp h.stored_of_reaches

namespace Rules

theorem stillReaches_iff {vpn : Vpn} (h : t.Owned) :
    stillReaches topology t vpn network = true ↔ Reaches topology t vpn.id network := by
  rw [← h.mem_vpnsOfNetwork, stillReaches]
  simp

end Rules

/-! ## Ports -/

/-- The VPN with id `id` reaches a port. -/
def ReachesPort (topology : Topology) (t : Tables) (id : String) (port : Port) : Prop :=
  Reaches topology t id port.network ∨ Rows.Joined t.ports id port.id

theorem ReachesPort.mono {topology' : Topology} {t' : Tables}
    (h : ReachesPort topology t id port)
    (hnetworks : Rows.Joined t.networks id port.network →
      Rows.Joined t'.networks id port.network)
    (hrouters : ∀ router, Rows.Joined t.routers id router → Rows.Joined t'.routers id router)
    (hports : Rows.Joined t.ports id port.id → Rows.Joined t'.ports id port.id)
    (hinterfaces : ∀ i ∈ topology.interfaces, i ∈ topology'.interfaces) :
    ReachesPort topology' t' id port := by
  rcases h with hreaches | hjoined
  · exact Or.inl (hreaches.mono hnetworks hrouters hinterfaces)
  · exact Or.inr (hports hjoined)

theorem not_reachesPort_without : ¬ReachesPort topology (t.without id) id port := by
  intro hcases
  rcases hcases with hreaches | hjoined
  · exact not_reaches_without hreaches
  · exact (Rows.joined_removeOwned.1 hjoined).1 rfl

/-- Where two states differ in reach but not in the associations with the port
and its network, a router makes the difference. -/
theorem ReachesPort.exists_router {topology' : Topology} {t' : Tables}
    (h : ReachesPort topology t id port) (hnot : ¬ReachesPort topology' t' id port)
    (hnetworks : Rows.Joined t.networks id port.network →
      Rows.Joined t'.networks id port.network)
    (hports : Rows.Joined t.ports id port.id → Rows.Joined t'.ports id port.id) :
    ∃ router, Rows.Joined t.routers id router ∧ ⟨router, port.network⟩ ∈ topology.interfaces ∧
      ¬(Rows.Joined t'.routers id router ∧ ⟨router, port.network⟩ ∈ topology'.interfaces) := by
  rcases h with hreaches | hjoined
  · rcases reaches_iff.1 hreaches with hdirect | ⟨router, hrouter, hplugged⟩
    · exact (hnot (Or.inl (reaches_iff.2 (Or.inl (hnetworks hdirect))))).elim
    · refine ⟨router, hrouter, hplugged, fun hbehind => hnot (Or.inl ?_)⟩
      exact reaches_iff.2 (Or.inr ⟨router, hbehind⟩)
  · exact (hnot (Or.inr (hports hjoined))).elim

/-- The owners of the associations around a port's network, then with the port. -/
def portOwners (topology : Topology) (t : Tables) (port : Port) : List String :=
  ownersAround topology t port.network ++
    (Rows.onTarget port.id t.ports).map (·.owner)

theorem mem_portOwners :
    id ∈ portOwners topology t port ↔ ReachesPort topology t id port := by
  rw [portOwners, List.mem_append, mem_ownersAround, Rows.mem_map_owner_onTarget]
  rfl

theorem vpnsOfPort_eq :
    vpnsOfPort topology t port = t.vpnsWithIds (portOwners topology t port) := by
  rw [vpnsOfPort, vpnsOfNetwork_eq]
  exact Tables.distinctBy_vpnsWithIds_append _ _

theorem Tables.Owned.stored_of_reachesPort (h : t.Owned)
    (hreaches : ReachesPort topology t id port) : id ∈ t.vpnIds := by
  rcases hreaches with hreaches | ⟨a, hstored, rfl, -⟩
  · exact h.stored_of_reaches hreaches
  · exact h.ports a hstored

/-- The VPNs of a port are those that reach it. -/
theorem Tables.Owned.mem_vpnsOfPort (h : t.Owned) :
    id ∈ (vpnsOfPort topology t port).map (·.id) ↔ ReachesPort topology t id port := by
  rw [vpnsOfPort_eq, Tables.mem_map_id_vpnsWithIds, mem_portOwners]
  exact and_iff_left_of_imp h.stored_of_reachesPort

theorem Tables.Owned.vpnsOfPort_eq_nil (h : t.Owned) :
    vpnsOfPort topology t port = [] ↔ ∀ id, ¬ReachesPort topology t id port := by
  simp only [← h.mem_vpnsOfPort, ← List.eq_nil_iff_forall_not_mem, List.map_eq_nil_iff]

end VpnAttach
