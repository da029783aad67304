import VpnAttach.Proofs.Tables.Staging
import VpnAttach.Rules.Admission

/-!
# What a check guarantees

A router association passes if its VPN is a layer-three VPN within the limit,
and a port association if its routes are valid: every VPN they refer to is
stored, and of the kind and tenant of the owner.
-/

namespace VpnAttach.Rules

variable {policy : Policy} {topology : Topology} {t : Tables}

/-- What is known of a router association that passed. -/
theorem checkRouter_ok {a : RouterAssociation}
    (h : checkRouter policy topology t a = .ok ()) :
    ∃ owner, t.row? a.owner = some owner ∧ owner.kind = .l3 ∧
      (Rows.targetsOf a.owner t.routers).length ≤ policy.routerLimit := by
  obtain ⟨vpn, hvpn, hrest⟩ := bind_eq_ok.1 h
  obtain ⟨row, hrow, rfl⟩ := Option.map_eq_some_iff.1 (Tables.getVpn_eq_ok.1 hvpn)
  refine ⟨row, hrow, ?_⟩
  by_cases hkind : (t.fill row).kind ≠ .l3
  · rw [if_pos hkind] at hrest
    cases hrest
  · by_cases hlimit : policy.routerLimit < (t.fill row).routers.length
    · rw [if_neg hkind, if_pos hlimit] at hrest
      cases hrest
    · refine ⟨not_not.1 hkind, ?_⟩
      have hrouters : (t.fill row).routers = Rows.targetsOf a.owner t.routers := by
        rw [← Tables.id_of_row? hrow]
        rfl
      rw [← hrouters]
      exact Nat.not_lt.1 hlimit

end VpnAttach.Rules

namespace VpnAttach

/-- The VPN that a route refers to is stored, and it is of the kind and the
tenant of `owner`. -/
def Route.Valid (t : Tables) (owner : Vpn) : Route → Prop
  | .static _ _ => True
  | .leak id _ =>
    ∃ vpn, t.row? id = some vpn ∧ vpn.kind = owner.kind ∧ vpn.tenant = owner.tenant

namespace Rules

variable {policy : Policy} {topology : Topology} {t : Tables}

/-- A route without fault is valid. -/
theorem valid_of_routeFault? {row : Vpn} {route : Route}
    (h : routeFault? t (t.fill row) route = none) : route.Valid t row := by
  cases route with
  | static pfx pref => exact trivial
  | leak id pref =>
    rw [routeFault?] at h
    cases hvpn : t.vpn? id with
    | none => rw [hvpn] at h; cases h
    | some vpn =>
      simp only [hvpn] at h
      split at h
      · cases h
      · rename_i hkind
        split at h
        · cases h
        · rename_i htenant
          obtain ⟨row', hrow', rfl⟩ := Option.map_eq_some_iff.1 hvpn
          exact ⟨row', hrow', not_not.1 hkind, not_not.1 htenant⟩

/-- The routes of a port association that passed are valid. -/
theorem checkRoutes_ok {a : PortAssociation} (h : checkRoutes t a = .ok ()) :
    ∃ owner, t.row? a.owner = some owner ∧
      ∀ route ∈ a.terms.routes, route.Valid t owner := by
  obtain ⟨vpn, hvpn, hrest⟩ := bind_eq_ok.1 h
  obtain ⟨row, hrow, rfl⟩ := Option.map_eq_some_iff.1 (Tables.getVpn_eq_ok.1 hvpn)
  refine ⟨row, hrow, fun route hroute => valid_of_routeFault? ?_⟩
  cases hfault : a.terms.routes.findSome? (routeFault? t (t.fill row)) with
  | some fault => rw [hfault] at hrest; cases hrest
  | none => exact List.findSome?_eq_none_iff.1 hfault route hroute

/-- The port of an association that passed is known, and the routes are valid. -/
theorem checkPort_ok {a : PortAssociation} (h : checkPort topology t a = .ok ()) :
    (topology.port? a.target).isSome ∧ checkRoutes t a = .ok () := by
  rw [checkPort] at h
  split at h
  · cases h
  · rename_i hport
    exact ⟨Option.isSome_iff_ne_none.2 (by simpa using hport), h⟩

end Rules
end VpnAttach
