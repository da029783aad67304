import VpnAttach.Proofs.Payload
import VpnAttach.Proofs.Payload.Targets
import VpnAttach.Proofs.Reach
import VpnAttach.Proofs.Service.Runs

/-!
# What an attachment says

A port is attached with the VPNs that reach it, each once: those of the
associations with its network, then of those with the network's routers in plug
order, then of its own.  `AttachContent` says what the payload has of them.
Targets are put together per kind and in this order, static routes are those of
the port's associations, and routes are advertised again between the VPNs of
`Tables.leaksOn`.  The owner of every association is found among the VPNs that
reach the port, because associations have owners in every state that is run
into (`attachContent_applyAll`).
-/

namespace VpnAttach

variable {emitted : List VpnKind} {t : Tables} {topology : Topology} {port : Port}
  {policy : Policy}

/-- The VPNs between which a route leaks: the owner of its association and the
VPN that it refers to, if there is one. -/
def Route.leak? (t : Tables) (owner : String) : Route → Option (Vpn × Vpn)
  | .static _ _ => none
  | .leak id _ => do return (← t.vpn? owner, ← t.vpn? id)

/-- The VPNs between which the routes of a port's associations leak, in order. -/
def Tables.leaksOn (t : Tables) (port : String) : List (Vpn × Vpn) :=
  (t.associationsOnPort port).flatMap fun a => a.terms.routes.filterMap (Route.leak? t a.owner)

/-- The VPNs that the routes of some associations refer to. -/
def Tables.referredBy (t : Tables) (associations : List PortAssociation) : List Vpn :=
  (associations.flatMap (·.terms.routes)).filterMap fun
    | .static _ _ => none
    | .leak id _ => t.vpn? id

/-- What the payload says that attaches a port which `vpns` reach. -/
structure AttachContent (emitted : List VpnKind) (topology : Topology) (t : Tables) (port : Port)
    (vpns : List Vpn) (payload : PortPayload) : Prop where
  /-- The VPNs are the owners of the associations around the port, each once. -/
  ids : vpns.map (·.id) = (portOwners topology t port).eraseDups
  stored : ∀ vpn ∈ vpns, t.getVpn vpn.id = .ok vpn
  /-- A kind has the targets of its VPNs, unless there are none. -/
  targets : ∀ kind : VpnKind, payload.targets.lookup kind.wireKey =
    if kind ∈ emitted ∧ (TargetLists.ofKind vpns kind).isEmpty = false then
      some (TargetLists.ofKind vpns kind)
    else none
  keys : payload.targets.Keyed
  staticRoutes : payload.staticRoutes = (t.associationsOnPort port.id).flatMap fun a =>
    a.terms.routes.filterMap Route.static?
  owners : ∀ a ∈ t.associationsOnPort port.id, ∃ owner ∈ vpns, t.getVpn a.owner = .ok owner
  readvertise : payload.readvertise =
    let sources := (t.leaksOn port.id).flatMap fun leak =>
      if leak.2.kind ∈ emitted then (TargetLists.ofVpn leak.2).imports else []
    let destinations := (t.leaksOn port.id).flatMap fun leak =>
      if leak.1.kind ∈ emitted then (TargetLists.ofVpn leak.1).exports else []
    if sources = [] then none else some ⟨sources, destinations⟩
  advertiseFixedIps : payload.advertiseFixedIps =
    if t.associationsOnPort port.id = [] then none
    else some ((t.associationsOnPort port.id).any (·.terms.advertiseFixedIps))
  /-- It is enough to collect the VPNs that routes refer to, and look among them. -/
  collected : payload =
    .attach emitted port (port.primaryIp?.bind fun ip => topology.gateway? ip.subnet) vpns
      (t.associationsOnPort port.id) fun id =>
        (t.referredBy (t.associationsOnPort port.id)).find? (·.id == id)

/-! ## The VPNs of a port -/

theorem Tables.Owned.mem_portOwners_stored (h : t.Owned) :
    ∀ id ∈ portOwners topology t port, id ∈ t.vpnIds :=
  fun _ hid => h.stored_of_reachesPort (mem_portOwners.1 hid)

theorem Tables.Owned.map_id_vpnsOfPort (h : t.Owned) :
    (vpnsOfPort topology t port).map (·.id) = (portOwners topology t port).eraseDups := by
  rw [vpnsOfPort_eq, Tables.map_id_vpnsWithIds h.mem_portOwners_stored, distinct_eq_eraseDups]

/-- The owner of an association with a port is among the VPNs that reach it. -/
theorem find?_vpnsOfPort {a : PortAssociation} (ha : a ∈ t.associationsOnPort port.id) :
    (vpnsOfPort topology t port).find? (·.id == a.owner) = t.vpn? a.owner := by
  rw [vpnsOfPort_eq]
  refine Tables.find?_of_mem (fun vpn hvpn => (Tables.mem_vpnsWithIds.1 hvpn).2) fun vpn hvpn => ?_
  refine Tables.mem_vpnsWithIds.2 ⟨?_, ?_⟩
  · rw [Tables.id_of_vpn? hvpn, portOwners]
    exact List.mem_append_right _ (List.mem_map_of_mem ha)
  · rwa [Tables.id_of_vpn? hvpn]

/-! ## Readvertised routes -/

theorem TargetMap.allImports_project (emitted : List VpnKind) (vpn : Vpn) :
    (project emitted [vpn]).allImports =
      if vpn.kind ∈ emitted then (TargetLists.ofVpn vpn).imports else [] := by
  rw [project_singleton, allImports]
  split <;> simp

theorem TargetMap.allExports_project (emitted : List VpnKind) (vpn : Vpn) :
    (project emitted [vpn]).allExports =
      if vpn.kind ∈ emitted then (TargetLists.ofVpn vpn).exports else [] := by
  rw [project_singleton, allExports]
  split <;> simp

/-- Collecting from the leaks is collecting from the routes. -/
theorem Tables.flatMap_leaksOn (t : Tables) (port : String) (f : Vpn × Vpn → List String) :
    (t.leaksOn port).flatMap f = (t.associationsOnPort port).flatMap fun a =>
      a.terms.routes.flatMap fun route => ((route.leak? t a.owner).map f).getD [] := by
  have hroutes (owner : String) (routes : List Route) :
      (routes.filterMap (Route.leak? t owner)).flatMap f =
        routes.flatMap fun route => ((route.leak? t owner).map f).getD [] := by
    induction routes with
    | nil => rfl
    | cons route routes ih =>
      rw [List.filterMap_cons, List.flatMap_cons, ← ih]
      cases route.leak? t owner <;> rfl
  simp only [leaksOn, List.flatMap_assoc, hroutes]

theorem Route.sources_eq {owner : String} (howner : owner ∈ t.vpnIds) (route : Route) :
    route.sources emitted t.vpn? = ((route.leak? t owner).map fun leak =>
      if leak.2.kind ∈ emitted then (TargetLists.ofVpn leak.2).imports else []).getD [] := by
  obtain ⟨vpn, hvpn⟩ := Tables.exists_vpn?_iff.2 howner
  cases route with
  | static pfx pref => rfl
  | leak id pref =>
    rw [sources, leak?, hvpn]
    cases t.vpn? id with
    | none => rfl
    | some source => exact TargetMap.allImports_project emitted source

theorem Route.destinations_eq {owner : String} (route : Route) :
    route.destinations emitted t.vpn? (t.vpn? owner) = ((route.leak? t owner).map fun leak =>
      if leak.1.kind ∈ emitted then (TargetLists.ofVpn leak.1).exports else []).getD [] := by
  cases route with
  | static pfx pref => rfl
  | leak id pref =>
    simp only [destinations, leak?]
    cases t.vpn? id with
    | none => cases t.vpn? owner <;> rfl
    | some source =>
      cases t.vpn? owner with
      | none => rfl
      | some vpn => exact TargetMap.allExports_project emitted vpn

/-- Routes are advertised again between the VPNs that are leaked. -/
theorem Tables.Owned.readvertiseOf_eq (h : t.Owned) (emitted : List VpnKind) :
    PortPayload.readvertiseOf emitted t.vpn? (vpnsOfPort topology t port)
        (t.associationsOnPort port.id) =
      ⟨(t.leaksOn port.id).flatMap fun leak =>
          if leak.2.kind ∈ emitted then (TargetLists.ofVpn leak.2).imports else [],
        (t.leaksOn port.id).flatMap fun leak =>
          if leak.1.kind ∈ emitted then (TargetLists.ofVpn leak.1).exports else []⟩ := by
  rw [PortPayload.readvertiseOf, Tables.flatMap_leaksOn, Tables.flatMap_leaksOn]
  congr 1
  · refine List.flatMap_congr fun a ha => List.flatMap_congr fun route _ => ?_
    exact route.sources_eq (h.ports a (List.mem_of_mem_filter ha))
  · refine List.flatMap_congr fun a ha => List.flatMap_congr fun route _ => ?_
    rw [find?_vpnsOfPort ha, route.destinations_eq]

/-- Looking among the VPNs that routes refer to finds what is stored. -/
theorem Tables.find?_referredBy {associations : List PortAssociation} {a : PortAssociation}
    (ha : a ∈ associations) {id : String} {pref : Option UInt32}
    (hroute : .leak id pref ∈ a.terms.routes) :
    (t.referredBy associations).find? (·.id == id) = t.vpn? id := by
  refine find?_of_mem (fun vpn hvpn => ?_) fun vpn hvpn => ?_
  · obtain ⟨route, -, hfound⟩ := List.mem_filterMap.1 hvpn
    cases route with
    | static pfx pref => cases hfound
    | leak id pref => rwa [id_of_vpn? hfound]
  · exact List.mem_filterMap.2 ⟨.leak id pref, List.mem_flatMap_of_mem ha hroute, hvpn⟩

/-! ## The payload -/

/-- A kind has targets if it is emitted and not all lists are empty. -/
theorem lookup_targets (emitted : List VpnKind) (vpns : List Vpn) (kind : VpnKind) :
    (TargetMap.project emitted vpns).dropEmpty.lookup kind.wireKey =
      if kind ∈ emitted ∧ (TargetLists.ofKind vpns kind).isEmpty = false then
        some (TargetLists.ofKind vpns kind)
      else none := by
  rw [TargetMap.lookup_dropEmpty (TargetMap.keyed_project emitted vpns), TargetMap.lookup_project]
  by_cases hoccurs : ∃ vpn ∈ vpns, vpn.kind = kind
  · by_cases hemitted : kind ∈ emitted
    · cases hempty : (TargetLists.ofKind vpns kind).isEmpty <;> simp [hoccurs, hemitted, hempty]
    · simp [hemitted]
  · have hempty : (TargetLists.ofKind vpns kind).isEmpty = true := by
      rw [TargetLists.ofKind_of_forall_ne (by simpa using hoccurs)]
      rfl
    simp [hoccurs, hempty]

theorem Tables.Owned.attachContent (h : t.Owned) (policy : Policy) (topology : Topology)
    (port : Port) :
    let vpns := vpnsOfPort topology t port
    AttachContent policy.emitted topology t port vpns
      (Rules.attachPayload policy topology t port vpns) where
  ids := h.map_id_vpnsOfPort
  stored := by
    intro vpn hvpn
    rw [vpnsOfPort_eq] at hvpn
    exact Tables.getVpn_eq_ok.2 (Tables.mem_vpnsWithIds.1 hvpn).2
  targets := lookup_targets policy.emitted _
  keys := (TargetMap.keyed_project _ _).dropEmpty
  staticRoutes := rfl
  owners := by
    intro a ha
    obtain ⟨owner, howner⟩ := Tables.exists_vpn?_iff.2 (h.ports a (List.mem_of_mem_filter ha))
    have hfind : (vpnsOfPort topology t port).find? (·.id == a.owner) = some owner :=
      (find?_vpnsOfPort ha).trans howner
    exact ⟨owner, List.mem_of_find?_eq_some hfind, Tables.getVpn_eq_ok.2 howner⟩
  readvertise := by
    simp only [Rules.attachPayload, PortPayload.attach, h.readvertiseOf_eq, List.isEmpty_iff]
  advertiseFixedIps := by
    simp only [Rules.attachPayload, PortPayload.attach, List.isEmpty_iff]
  collected := PortPayload.attach_congr_lookup fun _ ha _ _ hroute =>
    (Tables.find?_referredBy ha hroute).symm

end VpnAttach
