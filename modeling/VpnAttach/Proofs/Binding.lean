import Mathlib.Data.Finset.Card
import VpnAttach.Proofs.Exclusivity

/-!
# Networks bound to one VPN

A network is bound to the layer-three VPNs that reach it.  Where exclusivity sets
an association of the network against those of its routers, it says nothing of two
routers on one network, nor of one router with two VPNs.  So an interface that the
guard lets pass may bind a network twice.

`RoutersAgree` names what is missing: the routers of the network are tied to the
same layer-three VPN as the new one.  The main result says that an interface leaves
the network bound to at most one VPN exactly if it was so before and the routers
agree.
-/

namespace VpnAttach

variable {topology : Topology} {t : Tables} {id router network : String}

/-- The layer-three VPNs that reach a network. -/
def boundTo (topology : Topology) (t : Tables) (network : String) : List Vpn :=
  Rules.layerThree (vpnsOfNetwork topology t network)

/-- The network is bound to the VPN with id `id`. -/
def Bound (topology : Topology) (t : Tables) (id network : String) : Prop :=
  t.IsLayerThree id ∧ Reaches topology t id network

/-! ## At most one VPN -/

theorem mem_map_id_boundTo :
    id ∈ (boundTo topology t network).map (·.id) ↔ Bound topology t id network := by
  simp only [boundTo, Rules.layerThree, List.mem_map, List.mem_filter, beq_iff_eq,
    mem_vpnsOfNetwork]
  constructor
  · intro h
    obtain ⟨vpn, ⟨⟨hreaches, hvpn⟩, hkind⟩, rfl⟩ := h
    exact ⟨Tables.isLayerThree_of_vpn? hvpn hkind, hreaches⟩
  · intro h
    obtain ⟨hlayer, hreaches⟩ := h
    obtain ⟨vpn, hvpn, hkind⟩ := hlayer.vpn?
    obtain rfl := Tables.id_of_vpn? hvpn
    exact ⟨vpn, ⟨⟨hreaches, hvpn⟩, hkind⟩, rfl⟩

theorem nodup_map_id_boundTo (topology : Topology) (t : Tables) (network : String) :
    ((boundTo topology t network).map (·.id)).Nodup := by
  have hall : ((vpnsOfNetwork topology t network).map (·.id)).Nodup :=
    nodup_map_distinctBy _ _
  exact hall.sublist (List.filter_sublist.map _)

/-- A list without repetitions has at most one item if all its items are equal. -/
theorem length_le_one_iff_of_nodup {ids : List String} (h : ids.Nodup) :
    ids.length ≤ 1 ↔ ∀ id ∈ ids, ∀ other ∈ ids, id = other := by
  rw [← List.toFinset_card_of_nodup h, Finset.card_le_one]
  simp only [List.mem_toFinset]

theorem length_boundTo_le_one :
    (boundTo topology t network).length ≤ 1 ↔
      ∀ id other, Bound topology t id network → Bound topology t other network →
        id = other := by
  have hlength : (boundTo topology t network).length =
      ((boundTo topology t network).map (·.id)).length := List.length_map _ |>.symm
  rw [hlength, length_le_one_iff_of_nodup (nodup_map_id_boundTo topology t network)]
  simp only [mem_map_id_boundTo]
  constructor
  · intro h id other hid hother
    exact h id hid other hother
  · intro h id hid other hother
    exact h id other hid hother

/-! ## A new interface -/

/-- The layer-three VPNs to which a router and the routers that are on a network
are tied are one and the same, as far as the router is tied to any. -/
def RoutersAgree (topology : Topology) (t : Tables) (router network : String) : Prop :=
  ∀ id, t.LayerThreeOn t.routers id router →
    ∀ on, on = router ∨ ⟨on, network⟩ ∈ topology.interfaces →
      ∀ other, t.LayerThreeOn t.routers other on → id = other

/-- A new interface binds its network to the VPNs of its router. -/
theorem bound_plug :
    Bound (topology.plug router network) t id network ↔
      Bound topology t id network ∨ t.LayerThreeOn t.routers id router := by
  simp only [Bound, reaches_iff, Tables.LayerThreeOn, Topology.mem_interfaces_plug,
    Interface.mk.injEq]
  constructor
  · intro h
    obtain ⟨hlayer, hdirect | ⟨on, hjoined, hplugged | ⟨rfl, -⟩⟩⟩ := h
    · exact Or.inl ⟨hlayer, Or.inl hdirect⟩
    · exact Or.inl ⟨hlayer, Or.inr ⟨on, hjoined, hplugged⟩⟩
    · exact Or.inr ⟨hlayer, hjoined⟩
  · intro h
    rcases h with ⟨hlayer, hdirect | ⟨on, hjoined, hplugged⟩⟩ | ⟨hlayer, hjoined⟩
    · exact ⟨hlayer, Or.inl hdirect⟩
    · exact ⟨hlayer, Or.inr ⟨on, hjoined, Or.inl hplugged⟩⟩
    · exact ⟨hlayer, Or.inr ⟨router, hjoined, Or.inr ⟨rfl, trivial⟩⟩⟩

/-- Where the guard passes, the VPNs of the router and those that the network was
bound to are the same if the routers agree. -/
theorem eq_of_routersAgree (hcheck : Rules.checkInterface t router network = .ok ())
    (hagree : RoutersAgree topology t router network) {other : String}
    (hrouter : t.LayerThreeOn t.routers id router)
    (hbound : Bound topology t other network) : id = other := by
  obtain ⟨hlayer, hreaches⟩ := hbound
  -- The guard looks at direct associations only; the rest is up to the routers.
  rcases reaches_iff.1 hreaches with hdirect | ⟨on, hjoined, hplugged⟩
  · have hguard := Rules.guards_checkInterface.ok_iff.1 hcheck
    exact hguard id other hrouter ⟨hlayer, hdirect⟩
  · exact hagree id hrouter on (Or.inr hplugged) other ⟨hlayer, hjoined⟩

/-- An interface that the guard lets pass leaves its network bound to at most one
VPN exactly if this was so before and the routers agree. -/
theorem length_boundTo_plug_le_one
    (hcheck : Rules.checkInterface t router network = .ok ()) :
    (boundTo (topology.plug router network) t network).length ≤ 1 ↔
      (boundTo topology t network).length ≤ 1 ∧ RoutersAgree topology t router network := by
  simp only [length_boundTo_le_one, bound_plug]
  constructor
  · intro h
    refine ⟨fun id other hid hother => h id other (Or.inl hid) (Or.inl hother), ?_⟩
    intro id hid on hon other hother
    have hbound : Bound topology t other network ∨ t.LayerThreeOn t.routers other router := by
      rcases hon with rfl | hplugged
      · exact Or.inr hother
      · exact Or.inl ⟨hother.1, reaches_iff.2 (Or.inr ⟨on, hother.2, hplugged⟩)⟩
    exact h id other (Or.inr hid) hbound
  · intro h id other hid hother
    obtain ⟨hbefore, hagree⟩ := h
    -- Each of the two VPNs was there before or comes with the router.
    rcases hid with hid | hid
    · rcases hother with hother | hother
      · exact hbefore id other hid hother
      · exact (eq_of_routersAgree hcheck hagree hother hid).symm
    · rcases hother with hother | hother
      · exact eq_of_routersAgree hcheck hagree hid hother
      · exact hagree id hid router (Or.inl rfl) other hother

/-! ## Commands -/

namespace Service

variable {setup : Setup} {s : Service}

/-- What an accepted interface comes to, whether or not it was there. -/
theorem Accepts.of_addInterface {tables : Tables} {sent : List Notification}
    (h : Accepts setup s (.addInterface router network) tables topology sent) :
    Rules.checkInterface s.tables router network = .ok () ∧
      tables = s.tables ∧ topology = s.topology.plug router network := by
  cases h with
  | plugAgain hcheck hplugged => exact ⟨hcheck, rfl, by rw [Topology.plug, if_pos hplugged]⟩
  | plug hcheck _ => exact ⟨hcheck, rfl, rfl⟩

/-- After a router was plugged into a network, the network is bound to at most one
layer-three VPN exactly if it was so before and the routers that are on it now are
not tied to different ones. -/
theorem boundOnce_addInterface_iff (setup : Setup) (s : Service) (router network : String)
    (hok : (s.apply setup (.addInterface router network)).answer.isOk = true) :
    let s' := (s.apply setup (.addInterface router network)).service
    (boundTo s'.topology s'.tables network).length ≤ 1 ↔
      (boundTo s.topology s.tables network).length ≤ 1 ∧
        RoutersAgree s.topology s.tables router network := by
  intro s'
  obtain ⟨hcheck, htables, htopology⟩ := (accepts_of_isOk hok).of_addInterface
  have hs : s'.tables = s.tables ∧ s'.topology = s.topology.plug router network :=
    ⟨htables, htopology⟩
  rw [hs.1, hs.2]
  exact length_boundTo_plug_le_one hcheck

/-- Two routers with a layer-three VPN each.  One of them is on a network. -/
def twoRouterVpns : List Command := [
  .addNetwork (Scenario.tenantNetwork "net"),
  .mutate (.createVpn (Scenario.vpn .l3 "v1" [])),
  .mutate (.createVpn (Scenario.vpn .l3 "v2" [])),
  .mutate (.createRouter "v1" (Scenario.association "a1" "r1" {})),
  .mutate (.createRouter "v2" (Scenario.association "a2" "r2" {})),
  .addInterface "r1" "net"]

/-- The other one may be plugged in as well, and then the network is bound twice. -/
theorem boundTwice_twoRouterVpns :
    let s := applyAll .plain {} twoRouterVpns
    let c := Command.addInterface "r2" "net"
    let s' := (s.apply .plain c).service
    Reachable .plain s ∧ (s.apply .plain c).answer.isOk = true ∧
      (boundTo s.topology s.tables "net").map (·.id) = ["v1"] ∧
      (boundTo s'.topology s'.tables "net").map (·.id) = ["v1", "v2"] :=
  ⟨Reachable.start.applyAll (by decide), by decide, by decide, by decide⟩

theorem boundOnce_addInterface_iff_twoRouterVpns :
    let s := applyAll .plain {} twoRouterVpns
    (s.apply .plain (.addInterface "r2" "net")).answer.isOk = true ∧
      ¬RoutersAgree s.topology s.tables "r2" "net" := by
  intro s
  have hok : (s.apply .plain (.addInterface "r2" "net")).answer.isOk = true := by decide
  have hiff := boundOnce_addInterface_iff .plain s "r2" "net" hok
  refine ⟨hok, fun hagree => ?_⟩
  have hbefore : (boundTo s.topology s.tables "net").length ≤ 1 := by decide
  have hafter := hiff.2 ⟨hbefore, hagree⟩
  exact absurd hafter (by decide)

end Service
end VpnAttach
