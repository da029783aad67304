import Mathlib.Data.List.Basic
import VpnAttach.Payload.Basic

/-!
# Laws of payloads

What the targets of a payload are made of, what the payload of a VPN says
(`VpnContent`), and what the payload of a port depends on.  Of a VPN the agent is
shown no more than its id, its kind and its targets, and of the VPNs that routes
refer to no others matter.
-/

namespace VpnAttach

variable {emitted : List VpnKind} {vpn : Vpn} {target : String}

namespace TargetMap

/-- One VPN has lists of its own kind only. -/
theorem byKind_singleton (vpn : Vpn) (kind : VpnKind) :
    byKind [vpn] kind = if kind = vpn.kind then some (TargetLists.ofVpn vpn) else none := by
  simp only [byKind, List.foldl_cons, List.foldl_nil, gather, Option.getD_none]
  rfl

/-- One VPN has lists under its own wire key, if its kind is emitted. -/
theorem project_singleton (emitted : List VpnKind) (vpn : Vpn) :
    project emitted [vpn] =
      if vpn.kind ∈ emitted then [(vpn.kind.wireKey, TargetLists.ofVpn vpn)] else [] := by
  simp only [project, byKind_singleton]
  by_cases hemitted : vpn.kind ∈ emitted
  · cases hkind : vpn.kind <;> simp_all [VpnKind.all]
  · cases hkind : vpn.kind <;> simp_all [VpnKind.all]

theorem mem_allImports_project :
    target ∈ (project emitted [vpn]).allImports ↔
      vpn.kind ∈ emitted ∧ target ∈ (TargetLists.ofVpn vpn).imports := by
  rw [project_singleton]
  by_cases hemitted : vpn.kind ∈ emitted <;> simp [allImports, hemitted]

end TargetMap

/-! ## The payload of a VPN -/

/-- What the payload says of a VPN on a network. -/
structure VpnContent (emitted : List VpnKind) (vpn : Vpn) (network : String)
    (payload : VpnPayload) : Prop where
  id : payload.id = vpn.id
  network : payload.network = network
  /-- The targets are under the key of the VPN's kind, unless the kind is not emitted or
  there are none. -/
  targets : payload.targets =
    if vpn.kind ∈ emitted ∧
        ¬(vpn.routeTargets = [] ∧ vpn.importTargets = [] ∧ vpn.exportTargets = []) then
      [(vpn.kind.wireKey,
        { imports := (vpn.routeTargets ++ vpn.importTargets).map (·.text)
          exports := (vpn.routeTargets ++ vpn.exportTargets).map (·.text) })]
    else []

theorem TargetLists.isEmpty_ofVpn : (ofVpn vpn).isEmpty = true ↔
    vpn.routeTargets = [] ∧ vpn.importTargets = [] ∧ vpn.exportTargets = [] := by
  simp only [isEmpty, ofVpn, Bool.and_eq_true, List.isEmpty_iff, List.map_eq_nil_iff,
    List.append_eq_nil_iff]
  tauto

theorem vpnContent_make (emitted : List VpnKind) (vpn : Vpn) (network : String) :
    VpnContent emitted vpn network (.make emitted vpn network) where
  id := rfl
  network := rfl
  targets := by
    simp only [VpnPayload.make, TargetMap.project_singleton, ← TargetLists.isEmpty_ofVpn]
    by_cases hemitted : vpn.kind ∈ emitted
    · by_cases hempty : (TargetLists.ofVpn vpn).isEmpty = true
      · simp [TargetMap.dropEmpty, hemitted, hempty]
      · rw [if_pos hemitted, if_pos ⟨hemitted, hempty⟩, TargetMap.dropEmpty,
          List.filter_cons_of_pos (by simp [hempty])]
        rfl
    · simp [TargetMap.dropEmpty, hemitted]

/-! ## Readvertised routes -/

/-- A route takes routes from the targets that its VPN imports. -/
theorem Route.mem_sources {lookup : String → Option Vpn} {route : Route} :
    target ∈ route.sources emitted lookup ↔
      ∃ id pref vpn, route = .leak id pref ∧ lookup id = some vpn ∧
        vpn.kind ∈ emitted ∧ target ∈ (TargetLists.ofVpn vpn).imports := by
  cases route with
  | static pfx pref => simp [sources]
  | leak id pref =>
    rw [sources]
    cases hvpn : lookup id with
    | none =>
      refine iff_of_false (List.not_mem_nil) ?_
      intro h
      obtain ⟨_, _, vpn, hroute, hlookup, -⟩ := h
      cases hroute
      rw [hvpn] at hlookup
      cases hlookup
    | some vpn =>
      simp only [TargetMap.mem_allImports_project]
      constructor
      · intro h
        exact ⟨id, pref, vpn, rfl, hvpn, h⟩
      · intro h
        obtain ⟨_, _, _, hroute, hlookup, h⟩ := h
        cases hroute
        rw [hvpn] at hlookup
        obtain rfl := Option.some.inj hlookup
        exact h

/-! ## What a payload depends on -/

/-- A VPN reduced to what payloads are made of. -/
def Vpn.shown (vpn : Vpn) : Vpn where
  id := vpn.id
  tenant := ""
  kind := vpn.kind
  routeTargets := vpn.routeTargets
  importTargets := vpn.importTargets
  exportTargets := vpn.exportTargets

@[simp] theorem TargetMap.project_map_shown (vpns : List Vpn) :
    project emitted (vpns.map Vpn.shown) = project emitted vpns := by
  have hkinds : byKind (vpns.map Vpn.shown) = byKind vpns := by
    rw [byKind, List.foldl_map]
    rfl
  rw [project, hkinds, project]

/-- A look-up that finds VPNs reduced to what is shown of them. -/
def showing (lookup : String → Option Vpn) (id : String) : Option Vpn :=
  (lookup id).map Vpn.shown

theorem Route.sources_showing (lookup : String → Option Vpn) :
    sources emitted (showing lookup) = sources emitted lookup := by
  funext route
  cases route with
  | static pfx pref => rfl
  | leak id pref =>
    rw [sources, sources, showing]
    cases lookup id with
    | none => rfl
    | some vpn =>
      exact congrArg TargetMap.allImports (TargetMap.project_map_shown [vpn])

theorem Route.destinations_showing (lookup : String → Option Vpn) (owner : Option Vpn) :
    destinations emitted (showing lookup) (owner.map Vpn.shown) =
      destinations emitted lookup owner := by
  funext route
  cases route with
  | static pfx pref => rfl
  | leak id pref =>
    simp only [destinations, showing]
    cases lookup id with
    | none => rfl
    | some vpn =>
      cases owner with
      | none => rfl
      | some owner =>
        exact congrArg TargetMap.allExports (TargetMap.project_map_shown [owner])

namespace PortPayload

variable {port : Port} {gateway : Option Ip} {vpns vpns' : List Vpn}
  {associations : List PortAssociation} {lookup lookup' : String → Option Vpn}

theorem readvertiseOf_showing :
    readvertiseOf emitted (showing lookup) (vpns.map Vpn.shown) associations =
      readvertiseOf emitted lookup vpns associations := by
  have hfind (owner : String) : (vpns.map Vpn.shown).find? (·.id == owner) =
      (vpns.find? (·.id == owner)).map Vpn.shown := by
    rw [List.find?_map]
    rfl
  simp only [readvertiseOf, hfind, Route.sources_showing, Route.destinations_showing]

/-- A payload is made of what is shown of the VPNs. -/
theorem attach_showing :
    attach emitted port gateway (vpns.map Vpn.shown) associations (showing lookup) =
      attach emitted port gateway vpns associations lookup := by
  simp only [attach, readvertiseOf_showing, TargetMap.project_map_shown]

/-- Only the VPNs that routes refer to are looked up. -/
theorem attach_congr_lookup
    (h : ∀ a ∈ associations, ∀ id pref, Route.leak id pref ∈ a.terms.routes →
      lookup id = lookup' id) :
    attach emitted port gateway vpns associations lookup =
      attach emitted port gateway vpns associations lookup' := by
  have hsources : ∀ a ∈ associations, ∀ route ∈ a.terms.routes,
      route.sources emitted lookup = route.sources emitted lookup' := by
    intro a ha route hroute
    cases route with
    | static pfx pref => rfl
    | leak id pref => simp only [Route.sources, h a ha id pref hroute]
  have hdestinations : ∀ a ∈ associations, ∀ route ∈ a.terms.routes, ∀ owner,
      route.destinations emitted lookup owner =
        route.destinations emitted lookup' owner := by
    intro a ha route hroute owner
    cases route with
    | static pfx pref => rfl
    | leak id pref => simp only [Route.destinations, h a ha id pref hroute]
  have hreadvertise : readvertiseOf emitted lookup vpns associations =
      readvertiseOf emitted lookup' vpns associations := by
    simp only [readvertiseOf, Readvertise.mk.injEq]
    constructor
    · exact List.flatMap_congr fun a ha => List.flatMap_congr fun route hroute =>
        hsources a ha route hroute
    · exact List.flatMap_congr fun a ha => List.flatMap_congr fun route hroute =>
        hdestinations a ha route hroute _
  simp only [attach, hreadvertise]

/-- Payloads are equal if the same is shown of the VPNs that reach the port and
of those that routes refer to. -/
theorem attach_congr (hvpns : vpns.map Vpn.shown = vpns'.map Vpn.shown)
    (h : ∀ a ∈ associations, ∀ id pref, Route.leak id pref ∈ a.terms.routes →
      showing lookup id = showing lookup' id) :
    attach emitted port gateway vpns associations lookup =
      attach emitted port gateway vpns' associations lookup' := by
  rw [← attach_showing, hvpns, attach_congr_lookup h, attach_showing]

end PortPayload
end VpnAttach
