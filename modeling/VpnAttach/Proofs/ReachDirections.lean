import VpnAttach.Proofs.Reach
import VpnAttach.Proofs.Service.Runs
import VpnAttach.Scenario.Samples

/-!
# The two directions of reach

Updates and deletions go to the networks that a VPN reaches, ports are attached
to the VPNs that reach their network.  The first are collected from the objects
that are listed with the VPN, the second from the rows of the association
tables, and each of the two collections drops repetitions by itself.

Both follow the relation `Reaches`.  For the networks of a stored VPN this holds
in all tables; that no VPN is missing among those of a network takes tables in
which every association has an owner.
-/

namespace VpnAttach

variable {topology : Topology} {t : Tables} {id network : String} {vpn : Vpn}

/-- The networks of a VPN as it is read from the tables. -/
theorem mem_networksOf_getVpn (h : t.getVpn id = .ok vpn) :
    network ∈ networksOf topology vpn ↔ Reaches topology t id network := by
  obtain ⟨row, hrow, rfl⟩ := Option.map_eq_some_iff.1 (Tables.getVpn_eq_ok.1 h)
  rw [mem_networksOf_fill, Tables.id_of_row? hrow]

theorem nodup_map_id_vpnsOfNetwork (topology : Topology) (t : Tables) (network : String) :
    ((vpnsOfNetwork topology t network).map (·.id)).Nodup :=
  nodup_map_distinctBy _ _

namespace Service

/-- After every run, a VPN has a network among its own exactly if the network has
the VPN among its own, and both say that the VPN reaches the network.  Nothing is
listed twice, and the VPNs of a network are listed as they are stored. -/
theorem directions_agree (setup : Setup) (commands : List Command) :
    let s := applyAll setup {} commands
    let around (network : String) := vpnsOfNetwork s.topology s.tables network
    (∀ id vpn, s.tables.getVpn id = .ok vpn →
      (networksOf s.topology vpn).Nodup ∧
      ∀ network,
        (network ∈ networksOf s.topology vpn ↔ id ∈ (around network).map (·.id)) ∧
        (network ∈ networksOf s.topology vpn ↔
          Reaches s.topology s.tables id network)) ∧
    ∀ network,
      ((around network).map (·.id)).Nodup ∧
      (∀ id, id ∈ (around network).map (·.id) ↔
        Reaches s.topology s.tables id network) ∧
      ∀ vpn ∈ around network, s.tables.getVpn vpn.id = .ok vpn := by
  intro s around
  have howned : s.tables.Owned := owned_applyAll setup commands
  have haround (id network : String) : id ∈ (around network).map (·.id) ↔
      Reaches s.topology s.tables id network := howned.mem_vpnsOfNetwork
  constructor
  · intro id vpn hvpn
    refine ⟨nodup_networksOf s.topology vpn, fun network => ⟨?_, mem_networksOf_getVpn hvpn⟩⟩
    rw [haround]
    exact mem_networksOf_getVpn hvpn
  · intro network
    refine ⟨nodup_map_id_vpnsOfNetwork s.topology s.tables network,
      fun id => haround id network, fun vpn hvpn => ?_⟩
    exact Tables.getVpn_eq_ok.2 (mem_vpnsOfNetwork.1 hvpn).2

/-- A VPN that reaches one network both directly and behind a router, and another
network behind the router only. -/
def doublyTied : List Command := [
  .mutate (.createVpn (Scenario.vpn .l3 "vpn" [])),
  .addInterface "r" "n1",
  .addInterface "r" "n2",
  .mutate (.createRouter "vpn" (Scenario.association "a1" "r" {})),
  .mutate (.createNetwork "vpn" (Scenario.association "a2" "n1" ()))]

theorem directions_agree_doublyTied :
    let s := applyAll .plain {} doublyTied
    let vpn := s.tables.fill ((Scenario.vpn .l3 "vpn" []).toVpn "vpn")
    s.tables.getVpn "vpn" = .ok vpn ∧ networksOf s.topology vpn = ["n1", "n2"] ∧
      "vpn" ∈ (vpnsOfNetwork s.topology s.tables "n2").map (·.id) ∧
      Reaches s.topology s.tables "vpn" "n2" := by
  intro s vpn
  have hvpn : s.tables.getVpn "vpn" = .ok vpn := rfl
  have hnetworks : networksOf s.topology vpn = ["n1", "n2"] := by decide
  have hiff := ((directions_agree .plain doublyTied).1 "vpn" vpn hvpn).2 "n2"
  have hmem : "n2" ∈ networksOf s.topology vpn := by
    rw [hnetworks]
    decide
  exact ⟨hvpn, hnetworks, hiff.1.1 hmem, hiff.2.1 hmem⟩

end Service
end VpnAttach
