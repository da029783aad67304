import VpnAttach.Proofs.Address.Prefix
import VpnAttach.Proofs.Difference
import VpnAttach.Proofs.Json.Equality
import VpnAttach.Rules.Announcement
import VpnAttach.Vpn.Json

/-!
# Encodings tell values apart

Differences are worked out on encodings, so they are as sharp as the encodings
are.  Two route targets, two routes and two lists of them have equal encodings
only if they are equal.  So an update of a VPN is announced exactly if one of
its lists of targets or one of its derived lists changed, and an update of a
port association exactly if the association changed.
-/

namespace VpnAttach

theorem RouteTarget.text_inj {x y : RouteTarget} : x.text = y.text ↔ x = y := by
  cases x
  cases y
  simp

@[simp] theorem RouteTarget.same_listToJson {xs ys : List RouteTarget} :
    (listToJson xs).same (listToJson ys) = true ↔ xs = ys :=
  Json.same_arr_map fun _ _ => Json.same_str.trans text_inj

/-- Equal encodings come from equal routes. -/
theorem Route.same_toJson {x y : Route} : x.toJson.same y.toJson = true ↔ x = y := by
  cases x with
  | static pfx pref =>
    cases y with
    | static pfx' pref' =>
      cases pref <;> cases pref' <;>
        simp [toJson, Json.memberIf, Json.same_obj, Json.sameMembers_cons, IpPrefix.toJson,
          IpPrefix.text_inj, UInt32.toNat_inj, List.lookup_cons]
    | leak vpn pref' =>
      cases pref <;> cases pref' <;>
        simp [toJson, Json.memberIf, Json.same_obj, Json.sameMembers_cons, List.lookup_cons]
  | leak vpn pref =>
    cases y with
    | static pfx pref' =>
      cases pref <;> cases pref' <;>
        simp [toJson, Json.memberIf, Json.same_obj, Json.sameMembers_cons, List.lookup_cons]
    | leak vpn' pref' =>
      cases pref <;> cases pref' <;>
        simp [toJson, Json.memberIf, Json.same_obj, Json.sameMembers_cons, UInt32.toNat_inj,
          List.lookup_cons]

@[simp] theorem Route.same_listToJson {xs ys : List Route} :
    (listToJson xs).same (listToJson ys) = true ↔ xs = ys :=
  Json.same_arr_map fun _ _ => same_toJson

/-! ## Differences of encodings -/

/-- An update of a VPN is announced if one of its lists changed that the agent
has to know. -/
theorem Vpn.touches_iff {old new : Vpn} :
    (Difference.between new.toJson old.toJson).touches Rules.vpnKeys = true ↔
      new.routeTargets ≠ old.routeTargets ∨ new.importTargets ≠ old.importTargets ∨
        new.exportTargets ≠ old.exportTargets ∨ new.networks ≠ old.networks ∨
        new.routers ≠ old.routers := by
  rw [Difference.between, Difference.touches_iff]
  have hlookup (vpn : Vpn) : vpn.toJson.members.lookup "route_targets" =
        some (RouteTarget.listToJson vpn.routeTargets) ∧
      vpn.toJson.members.lookup "import_targets" =
        some (RouteTarget.listToJson vpn.importTargets) ∧
      vpn.toJson.members.lookup "export_targets" =
        some (RouteTarget.listToJson vpn.exportTargets) ∧
      vpn.toJson.members.lookup "networks" = some (Json.strings vpn.networks) ∧
      vpn.toJson.members.lookup "routers" = some (Json.strings vpn.routers) :=
    ⟨rfl, rfl, rfl, rfl, rfl⟩
  simp only [Rules.vpnKeys, List.mem_cons, List.not_mem_nil, or_false, exists_eq_or_imp,
    exists_eq_left, Difference.Moves, hlookup, ← Bool.not_eq_true,
    RouteTarget.same_listToJson, Json.same_strings, ne_eq,
    eq_comm (a := old.routeTargets), eq_comm (a := old.importTargets),
    eq_comm (a := old.exportTargets), eq_comm (a := old.networks),
    eq_comm (a := old.routers)]

/-- An update of a router association is announced if its terms changed. -/
theorem Association.touches_routerToJson_iff {old new : RouterAssociation} :
    (Difference.between (routerToJson new) (routerToJson old)).touches Rules.routerKeys = true ↔
      new.terms ≠ old.terms := by
  rw [Difference.between, Difference.touches_iff]
  obtain ⟨_, _, _, _, ⟨_⟩⟩ := old
  obtain ⟨_, _, _, _, ⟨_⟩⟩ := new
  have hlookup (a : RouterAssociation) :
      (routerToJson a).members.lookup "advertise_extra_routes" =
        some (.bool a.terms.advertiseExtraRoutes) := rfl
  simp only [Rules.routerKeys, List.mem_singleton, exists_eq_left, Difference.Moves, hlookup,
    ← Bool.not_eq_true, Json.same_bool, ne_eq, RouterTerms.mk.injEq]
  exact not_congr eq_comm

/-- An update of a port association is announced if the association changed. -/
theorem Association.isEmpty_portToJson_iff {old new : PortAssociation} :
    (Difference.between (portToJson new) (portToJson old)).isEmpty = true ↔ new = old := by
  rw [Difference.between, Difference.isEmpty_iff]
  have hmoves (key : String) (f : PortAssociation → Json)
      (hf : ∀ a, (portToJson a).members.lookup key = some (f a)) :
      Difference.Moves (portToJson new).members (portToJson old).members key ↔
        (f old).same (f new) = false := by
    simp only [Difference.Moves, hf]
  have hid := hmoves "id" (fun a => .str a.id) fun _ => rfl
  have howner := hmoves "bgpvpn_id" (fun a => .str a.owner) fun _ => rfl
  have htarget := hmoves "port_id" (fun a => .str a.target) fun _ => rfl
  have htenant := hmoves "tenant_id" (fun a => .str a.tenant) fun _ => rfl
  have hfixed := hmoves "advertise_fixed_ips" (fun a => .bool a.terms.advertiseFixedIps)
    fun _ => rfl
  have hroutes := hmoves "routes" (fun a => Route.listToJson a.terms.routes) fun _ => rfl
  simp only [← Bool.not_eq_true, Json.same_str, Json.same_bool, Route.same_listToJson]
    at hid howner htarget htenant hfixed hroutes
  constructor
  · intro h
    obtain ⟨_, _, _, _, _, _⟩ := old
    obtain ⟨_, _, _, _, _, _⟩ := new
    simp_all
  · intro hsame key hkey
    obtain rfl := hsame
    have hmem : key ∈ (portToJson new).members.map (·.1) := by
      rw [Sorted.mem_map_fst_iff]
      cases hlookup : (portToJson new).members.lookup key with
      | none => simp [Difference.Moves, hlookup] at hkey
      | some _ => rfl
    simp only [portToJson, Json.members, List.map_cons, List.map_nil, List.mem_cons,
      List.not_mem_nil, or_false] at hmem
    rcases hmem with rfl | rfl | rfl | rfl | rfl | rfl
    · exact hid.1 hkey rfl
    · exact howner.1 hkey rfl
    · exact htarget.1 hkey rfl
    · exact htenant.1 hkey rfl
    · exact hfixed.1 hkey rfl
    · exact hroutes.1 hkey rfl

end VpnAttach
