import VpnAttach.Proofs.Address.Json
import VpnAttach.Vpn.Json

/-!
# Requests, updates and routes are read back

Members that are left out are read as not given, and those with a default are
always written.  Outside configuration documents every request, update and
route is read back from its encoding.
-/

namespace VpnAttach

open Json

variable {dialect : Dialect}

/-! ## VPNs -/

theorem VpnKind.readsBack (dialect : Dialect) :
    ReadsBack VpnKind.toJson (VpnKind.ofJson? dialect) :=
  .ofText rfl fun kind => by cases kind <;> rfl

theorem RouteTarget.readsBack_list :
    ReadsBack RouteTarget.listToJson (list? RouteTarget.ofJson?) :=
  readsBack.list

theorem VpnRequest.readsBack (hdialect : dialect ≠ .document) :
    ReadsBack toJson (ofJson? dialect) where
  held request := by
    simp [toJson, ReadsBack.str.heldMembers_memberIf, (VpnKind.readsBack dialect).held,
      RouteTarget.readsBack_list.held, ReadsBack.strings.held]
  null := rfl
  reads harrange request := by
    have hnames : memberNames.Nodup := by decide
    have hkeys := hnames.sublist ((keys_memberIf "id" str request.id).append_right _)
    rw [toJson, ofJson?, (harrange.obj (by rwa [List.map_append])).record? hdialect]
    simp [memberNames, List.lookup_append, lookup_cons_ite, lookup_memberIf,
      ReadsBack.str.ifGiven harrange, ReadsBack.str.required harrange,
      ReadsBack.str.withDefault harrange, (VpnKind.readsBack dialect).withDefault harrange,
      RouteTarget.readsBack_list.withDefault harrange, ReadsBack.strings.withDefault harrange]

theorem VpnUpdate.readsBack (hdialect : dialect ≠ .document) :
    ReadsBack toJson (ofJson? dialect) where
  held changes := by
    simp [toJson, ReadsBack.str.heldMembers_memberIf,
      RouteTarget.readsBack_list.heldMembers_memberIf, ReadsBack.strings.heldMembers_memberIf]
  null := rfl
  reads harrange changes := by
    rw [toJson, ofJson?, (harrange.obj _).record? hdialect]
    · simp [memberNames, List.lookup_append, lookup_memberIf, ReadsBack.str.ifGiven harrange,
        RouteTarget.readsBack_list.ifGiven harrange, ReadsBack.strings.ifGiven harrange]
    · simp only [List.map_append]
      exact .sublist (((((keys_memberIf ..).append (keys_memberIf ..)).append
        (keys_memberIf ..)).append (keys_memberIf ..)).append (keys_memberIf ..)) (by decide)

/-! ## Routes -/

namespace Route

theorem readsBack_pref : ReadsBack (fun n : UInt32 => .int n.toNat) prefOfJson? where
  held n := held_int n.toNat
  null := rfl
  reads harrange n := by
    have hlt : (n.toNat : Int) < UInt32.size := Int.ofNat_lt.2 n.toNat_lt
    rw [harrange.int, prefOfJson?, natBelow?, if_pos ⟨Int.natCast_nonneg _, hlt⟩]
    simp

/-- The tag of a route. -/
def tag : Route → String
  | .static .. => "prefix"
  | .leak .. => "bgpvpn"

/-- A route is a tag, and a body that has one member of its own and the
preference. -/
theorem exists_body {arrange : Json → Json} (harrange : Arrangement arrange) (tag key : String)
    (hkeys : ["type", key, "local_pref"].Nodup) {value : Json} (hvalue : value.held = true)
    (pref : Option UInt32) :
    ∃ body, (arrange (.obj (("type", .str tag) :: (key, value) ::
        memberIf "local_pref" (fun n => .int n.toNat) pref))).tagged? "type" =
          some (.str tag, body) ∧
      body.record? .tagged [key, "local_pref"] =
        some [some (arrange value), pref.map (arrange ∘ fun n => .int n.toNat)] := by
  have hnames : ((("type", .str tag) :: (key, value) ::
      memberIf "local_pref" (fun n : UInt32 => .int n.toNat) pref).map (·.1)).Nodup :=
    hkeys.sublist (((keys_memberIf ..).cons_cons key).cons_cons "type")
  have hheld : (Json.obj (("type", .str tag) :: (key, value) ::
      memberIf "local_pref" (fun n => .int n.toNat) pref)).held = true := by
    simp [hvalue, readsBack_pref.heldMembers_memberIf]
  have hpref : "local_pref" ≠ key := fun hsame => by simp [hsame] at hkeys
  obtain ⟨body, htag, hbody⟩ := Arranged.tagged? (harrange.obj hnames) (harrange.str tag)
    (harrange.held hheld)
  refine ⟨body, htag, ?_⟩
  rw [hbody.record? (by decide)]
  simp [lookup_cons_ite, lookup_memberIf, hpref]

theorem readsBack (dialect : Dialect) : ReadsBack toJson (ofJson? dialect) where
  held route := by
    cases route <;>
      simp [toJson, IpPrefix.readsBack.held, readsBack_pref.heldMembers_memberIf]
  null := rfl
  reads harrange route := by
    cases route with
    | static pfx pref =>
      obtain ⟨body, htag, hbody⟩ := exists_body harrange "prefix" "prefix" (by decide)
        (IpPrefix.readsBack.held pfx) pref
      rw [toJson, ofJson?, List.cons_append, List.cons_append, List.nil_append, htag]
      simp [hbody, variant?, IpPrefix.readsBack.required harrange,
        readsBack_pref.ifGiven harrange]
    | leak vpn pref =>
      obtain ⟨body, htag, hbody⟩ := exists_body harrange "bgpvpn" "bgpvpn_id" (by decide)
        (held_str vpn) pref
      rw [toJson, ofJson?, List.cons_append, List.cons_append, List.nil_append, htag]
      simp [hbody, variant?, ReadsBack.str.required harrange, readsBack_pref.ifGiven harrange]

/-- Routes are read back in order. -/
theorem readsBack_list (dialect : Dialect) :
    ReadsBack listToJson (list? (ofJson? dialect)) :=
  (readsBack dialect).list

end Route

/-! ## Associations -/

namespace AssociationRequest

theorem readsBack_network (hdialect : dialect ≠ .document) :
    ReadsBack networkToJson (networkOfJson? dialect) where
  held request := by
    simp [networkToJson, ReadsBack.str.heldMembers_memberIf, ReadsBack.str.held_orNull]
  null := rfl
  reads harrange request := by
    have hnames : ["id", "network_id", "tenant_id"].Nodup := by decide
    have hkeys := hnames.sublist ((keys_memberIf "id" str request.id).append_right _)
    rw [networkToJson, networkOfJson?, (harrange.obj (by rwa [List.map_append])).record? hdialect]
    simp [List.lookup_append, lookup_cons_ite, lookup_memberIf, ReadsBack.str.ifGiven harrange,
      ReadsBack.str.required harrange, ReadsBack.str.ifGiven_orNull harrange]

theorem readsBack_router (hdialect : dialect ≠ .document) :
    ReadsBack routerToJson (routerOfJson? dialect) where
  held request := by
    simp [routerToJson, ReadsBack.str.heldMembers_memberIf, ReadsBack.str.held_orNull]
  null := rfl
  reads harrange request := by
    have hnames : ["id", "router_id", "tenant_id", "advertise_extra_routes"].Nodup := by decide
    have hkeys := hnames.sublist ((keys_memberIf "id" str request.id).append_right _)
    rw [routerToJson, routerOfJson?, (harrange.obj (by rwa [List.map_append])).record? hdialect]
    simp [List.lookup_append, lookup_cons_ite, lookup_memberIf, ReadsBack.str.ifGiven harrange,
      ReadsBack.str.required harrange, ReadsBack.str.ifGiven_orNull harrange,
      ReadsBack.bool.withDefault harrange]

theorem readsBack_port (hdialect : dialect ≠ .document) :
    ReadsBack portToJson (portOfJson? dialect) where
  held request := by
    simp [portToJson, ReadsBack.str.heldMembers_memberIf, ReadsBack.str.held_orNull,
      (Route.readsBack_list dialect).held]
  null := rfl
  reads harrange request := by
    have hnames : ["id", "port_id", "tenant_id", "advertise_fixed_ips", "routes"].Nodup := by
      decide
    have hkeys := hnames.sublist ((keys_memberIf "id" str request.id).append_right _)
    rw [portToJson, portOfJson?, (harrange.obj (by rwa [List.map_append])).record? hdialect]
    simp [List.lookup_append, lookup_cons_ite, lookup_memberIf, ReadsBack.str.ifGiven harrange,
      ReadsBack.str.required harrange, ReadsBack.str.ifGiven_orNull harrange,
      ReadsBack.bool.withDefault harrange, (Route.readsBack_list dialect).withDefault harrange]

end AssociationRequest

theorem RouterTermsUpdate.readsBack (hdialect : dialect ≠ .document) :
    ReadsBack toJson (ofJson? dialect) where
  held changes := by simp [toJson, ReadsBack.bool.heldMembers_memberIf]
  null := rfl
  reads harrange changes := by
    have hkeys := (List.nodup_singleton "advertise_extra_routes").sublist
      (keys_memberIf _ bool changes.advertiseExtraRoutes)
    rw [toJson, ofJson?, (harrange.obj hkeys).record? hdialect]
    simp [lookup_memberIf, ReadsBack.bool.ifGiven harrange]

theorem PortTermsUpdate.readsBack (hdialect : dialect ≠ .document) :
    ReadsBack toJson (ofJson? dialect) where
  held changes := by
    simp [toJson, ReadsBack.bool.heldMembers_memberIf,
      (Route.readsBack_list dialect).heldMembers_memberIf]
  null := rfl
  reads harrange changes := by
    rw [toJson, ofJson?, (harrange.obj _).record? hdialect]
    · simp [List.lookup_append, lookup_memberIf, ReadsBack.bool.ifGiven harrange,
        (Route.readsBack_list dialect).ifGiven harrange]
    · rw [List.map_append]
      exact .sublist ((keys_memberIf ..).append (keys_memberIf ..)) (by decide)

end VpnAttach
