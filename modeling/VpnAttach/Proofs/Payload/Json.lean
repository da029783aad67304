import VpnAttach.Payload.Json
import VpnAttach.Proofs.Payload.Targets
import VpnAttach.Proofs.Vpn.Records

/-!
# Payloads and notifications are read back

The target lists of a payload stand next to its own members.  They can be told
apart because no member of a payload is called like a wire key
(`VpnKind.wireKey_not_mem`), so a payload is read back if its target lists are
under wire keys in order (`Notification.ofJson?_arranged`).
-/

namespace VpnAttach

open Json

variable {arrange : Json → Json} {dialect : Dialect} {body : Json}

/-! ## Parts of payloads -/

theorem TargetLists.readsBack (hdialect : dialect ≠ .document) :
    ReadsBack toJson (ofJson? dialect) where
  held lists := by simp [toJson, ReadsBack.strings.held]
  null := rfl
  reads harrange lists := by
    rw [toJson, ofJson?, (harrange.obj _).record? hdialect]
    · simp [lookup_cons_ite, ReadsBack.strings.required harrange]
    · simp

theorem StaticRoute.readsBack (hdialect : dialect ≠ .document) :
    ReadsBack toJson (ofJson? dialect) where
  held route := by
    simp [toJson, IpPrefix.readsBack.held, Route.readsBack_pref.heldMembers_memberIf]
  null := rfl
  reads harrange route := by
    have hnames : ["prefix", "local_pref"].Nodup := by decide
    rw [toJson, ofJson?, (harrange.obj _).record? hdialect]
    · simp [lookup_cons_ite, lookup_memberIf, IpPrefix.readsBack.required harrange,
        Route.readsBack_pref.ifGiven harrange]
    · exact hnames.sublist ((keys_memberIf ..).cons_cons "prefix")

theorem Readvertise.readsBack (hdialect : dialect ≠ .document) :
    ReadsBack toJson (ofJson? dialect) where
  held readvertise := by simp [toJson, ReadsBack.strings.held]
  null := rfl
  reads harrange readvertise := by
    rw [toJson, ofJson?, (harrange.obj _).record? hdialect]
    · simp [lookup_cons_ite, ReadsBack.strings.required harrange]
    · simp

/-! ## Target lists -/

/-- The members of a VPN payload, apart from target lists. -/
def VpnPayload.memberNames : List String :=
  ["id", "network_id"]

/-- No payload has a member of its own under a wire key. -/
theorem VpnKind.wireKey_not_mem (kind : VpnKind) :
    kind.wireKey ∉ VpnPayload.memberNames ∧ kind.wireKey ∉ PortPayload.memberNames := by
  cases kind <;> decide

namespace TargetMap

variable {targets : TargetMap} {others : List (String × Json)}

theorem heldMembers_toMembers (targets : TargetMap) : heldMembers targets.toMembers = true := by
  rw [heldMembers_iff]
  rintro member hmember
  obtain ⟨⟨key, lists⟩, -, rfl⟩ := List.mem_map.1 hmember
  have htagged : Dialect.tagged ≠ .document := by decide
  exact (TargetLists.readsBack htagged).held lists

theorem keys_toMembers (targets : TargetMap) :
    targets.toMembers.map (·.1) = targets.map (·.1) := by
  rw [toMembers, List.map_map]
  rfl

/-- If all of a list is read, what is read is found by leaving out the rest. -/
theorem mapM_eq_filterMap {α β : Type} {read : α → Option β} {xs : List α}
    (h : ∀ x ∈ xs, (read x).isSome = true) : xs.mapM read = some (xs.filterMap read) := by
  induction xs with
  | nil => rfl
  | cons x xs ih =>
    obtain ⟨y, hy⟩ := Option.isSome_iff_exists.1 (h x List.mem_cons_self)
    rw [List.mapM_cons, hy, ih fun x hx => h x (List.mem_cons_of_mem _ hx),
      List.filterMap_cons_some hy]
    rfl

/-- Target lists under keys in order are read back, however their members are
arranged. -/
theorem ofMembers?_of_perm (harrange : Arrangement arrange) (h : Sorted.InOrder targets)
    (hperm : others.Perm (targets.toMembers.map fun m => (m.1, arrange m.2))) :
    ofMembers? others = some targets := by
  have htagged : Dialect.tagged ≠ .document := by decide
  have hheld : heldMembers others = true := by
    rw [heldMembers_iff]
    intro member hmember
    obtain ⟨m, hm, rfl⟩ := List.mem_map.1 (hperm.subset hmember)
    exact harrange.held (heldMembers_iff.1 (heldMembers_toMembers targets) m hm)
  have hentry (entry : String × TargetLists) :
      (TargetLists.ofJson? .tagged (arrange entry.2.toJson)).map (entry.1, ·) = some entry := by
    rw [(TargetLists.readsBack htagged).reads harrange, Option.map_some]
  rw [toMembers, List.map_map] at hperm
  have hread : ∀ member ∈ others,
      ((TargetLists.ofJson? .tagged member.2).map (member.1, ·)).isSome = true := by
    intro member hmember
    obtain ⟨entry, -, rfl⟩ := List.mem_map.1 (hperm.subset hmember)
    exact Option.isSome_iff_exists.2 ⟨entry, hentry entry⟩
  have hentries := hperm.filterMap fun member : String × Json =>
    (TargetLists.ofJson? .tagged member.2).map (member.1, ·)
  rw [List.filterMap_map] at hentries
  have hall := (List.filterMap_congr fun entry _ => hentry entry).trans
    (List.filterMap_some (l := targets))
  rw [ofMembers?, if_pos hheld, mapM_eq_filterMap hread, Option.map_some,
    Sorted.ofList_eq_of_perm h (hentries.trans (.of_eq hall))]

end TargetMap

/-! ## Payloads -/

/-- Members of its own and target lists are told apart, if no wire key is among
the names. -/
theorem TargetMap.Keyed.membersAndRest? {targets : TargetMap} (h : targets.Keyed)
    (harrange : Arrangement arrange) {names : List String} (hnames : names.Nodup)
    (hwire : ∀ kind : VpnKind, kind.wireKey ∉ names) {own : List (String × Json)}
    (hkeys : (own.map (·.1)).Sublist names) :
    ∃ others, (arrange (.obj (own ++ targets.toMembers))).membersAndRest? names =
        some (names.map fun name => (own.lookup name).map arrange, others) ∧
      others.Perm (targets.toMembers.map fun m => (m.1, arrange m.2)) := by
  have hrest : ∀ key ∈ targets.map (·.1), key ∉ names := by
    intro key hkey
    obtain ⟨entry, hentry, rfl⟩ := List.mem_map.1 hkey
    obtain ⟨kind, hkind⟩ := h.2 entry hentry
    exact hkind ▸ hwire kind
  have hnodup : ((own ++ targets.toMembers).map (·.1)).Nodup := by
    rw [List.map_append, keys_toMembers, List.nodup_append]
    exact ⟨hnames.sublist hkeys, h.1.nodup, fun name hname key hkey hsame =>
      hrest key hkey (hsame ▸ hkeys.subset hname)⟩
  refine (harrange.obj hnodup).membersAndRest?
    (fun m hm => hkeys.subset (List.mem_map_of_mem hm)) fun m hm => hrest m.1 ?_
  rw [← keys_toMembers]
  exact List.mem_map_of_mem hm

namespace VpnPayload

variable {payload : VpnPayload}

/-- The members of a VPN payload, apart from target lists. -/
def ownMembers (payload : VpnPayload) : List (String × Json) :=
  [("id", .str payload.id), ("network_id", .str payload.network)]

theorem held_toJson (payload : VpnPayload) : payload.toJson.held = true := by
  simp [toJson, TargetMap.heldMembers_toMembers]

theorem membersAndRest?_arranged (harrange : Arrangement arrange) (h : payload.targets.Keyed) :
    ∃ others, (arrange payload.toJson).membersAndRest? memberNames =
        some (memberNames.map fun name => (payload.ownMembers.lookup name).map arrange, others) ∧
      others.Perm (payload.targets.toMembers.map fun m => (m.1, arrange m.2)) :=
  h.membersAndRest? harrange (by decide) (fun kind => kind.wireKey_not_mem.1) (.refl _)

theorem ofJson?_arranged (harrange : Arrangement arrange) (h : payload.targets.Keyed) :
    ofJson? (arrange payload.toJson) = some payload := by
  obtain ⟨others, hsplit, hothers⟩ := membersAndRest?_arranged harrange h
  rw [memberNames] at hsplit
  rw [ofJson?, hsplit]
  simp [ownMembers, lookup_cons_ite, ReadsBack.str.required harrange,
    TargetMap.ofMembers?_of_perm harrange h.1 hothers]

end VpnPayload

namespace PortPayload

variable {payload : PortPayload}

/-- The members of a port payload, apart from target lists.  No static routes
are written as none. -/
def ownMembers (payload : PortPayload) : List (String × Json) :=
  [("id", .str payload.id), ("network_id", .str payload.network)] ++
    memberIf "mac_address" MacAddress.toJson payload.mac ++
    memberIf "ip_address" Ip.toJson payload.ip ++
    memberIf "gateway_ip" Ip.toJson payload.gateway ++
    memberIf "advertise_fixed_ips" .bool payload.advertiseFixedIps ++
    memberIf "static_routes" (fun routes => .arr (routes.map StaticRoute.toJson))
      (if payload.staticRoutes.isEmpty then none else some payload.staticRoutes) ++
    memberIf "readvertise" Readvertise.toJson payload.readvertise

theorem toJson_eq (payload : PortPayload) :
    payload.toJson = .obj (payload.ownMembers ++ payload.targets.toMembers) := by
  rw [toJson, ownMembers]
  cases payload.staticRoutes.isEmpty <;> rfl

theorem keys_ownMembers (payload : PortPayload) :
    (payload.ownMembers.map (·.1)).Sublist memberNames := by
  simp only [ownMembers, List.map_append]
  exact (((((List.Sublist.refl _).append (keys_memberIf ..)).append (keys_memberIf ..)).append
    (keys_memberIf ..)).append (keys_memberIf ..)).append (keys_memberIf ..) |>.append
    (keys_memberIf ..)

theorem held_toJson (payload : PortPayload) : payload.toJson.held = true := by
  have htagged : Dialect.tagged ≠ .document := by decide
  simp [toJson_eq, ownMembers, TargetMap.heldMembers_toMembers,
    MacAddress.readsBack.heldMembers_memberIf, Ip.readsBack.heldMembers_memberIf,
    ReadsBack.bool.heldMembers_memberIf, (StaticRoute.readsBack htagged).list.heldMembers_memberIf,
    (Readvertise.readsBack htagged).heldMembers_memberIf]

theorem membersAndRest?_arranged (harrange : Arrangement arrange) (h : payload.targets.Keyed) :
    ∃ others, (arrange payload.toJson).membersAndRest? memberNames =
        some (memberNames.map fun name => (payload.ownMembers.lookup name).map arrange, others) ∧
      others.Perm (payload.targets.toMembers.map fun m => (m.1, arrange m.2)) := by
  rw [toJson_eq]
  exact h.membersAndRest? harrange (by decide) (fun kind => kind.wireKey_not_mem.2)
    payload.keys_ownMembers

theorem ofJson?_arranged (harrange : Arrangement arrange) (hdialect : dialect ≠ .document)
    (h : payload.targets.Keyed) : ofJson? dialect (arrange payload.toJson) = some payload := by
  obtain ⟨others, hsplit, hothers⟩ := membersAndRest?_arranged harrange h
  have hroutes : withDefault [] (list? (StaticRoute.ofJson? dialect))
      ((if payload.staticRoutes = [] then none else some payload.staticRoutes).map
        (arrange ∘ fun routes => .arr (routes.map StaticRoute.toJson))) =
      some payload.staticRoutes := by
    by_cases hnone : payload.staticRoutes = []
    · rw [if_pos hnone, hnone]
      rfl
    · rw [if_neg hnone]
      exact (StaticRoute.readsBack hdialect).list.withDefault harrange [] payload.staticRoutes
  rw [memberNames] at hsplit
  rw [ofJson?, memberNames, hsplit]
  simp [ownMembers, List.lookup_append, lookup_cons_ite, lookup_memberIf,
    ReadsBack.str.required harrange, MacAddress.readsBack.ifGiven harrange,
    Ip.readsBack.ifGiven harrange, ReadsBack.bool.ifGiven harrange, hroutes,
    (Readvertise.readsBack hdialect).ifGiven harrange,
    TargetMap.ofMembers?_of_perm harrange h.1 hothers]

end PortPayload

/-! ## Notifications -/

namespace Notification

variable {n : Notification}

/-- The tag of a notification. -/
def tag : Notification → String
  | .update _ => "update"
  | .delete _ => "delete"
  | .attach _ _ => "attach"
  | .detach _ _ => "detach"

/-- The members of a notification, apart from its tag. -/
def toMembers : Notification → List (String × Json)
  | .update vpn | .delete vpn => [("bgpvpn", vpn.toJson)]
  | .attach port host | .detach port host => [("port", port.toJson), ("host", .str host)]

/-- The target lists in the payload of a notification. -/
def targets : Notification → TargetMap
  | .update vpn | .delete vpn => vpn.targets
  | .attach port _ | .detach port _ => port.targets

/-- The payload of a notification, as it is encoded. -/
def payloadToJson : Notification → Json
  | .update vpn | .delete vpn => vpn.toJson
  | .attach port _ | .detach port _ => port.toJson

/-- The members of the payload of a notification, apart from target lists. -/
def memberNames : Notification → List String
  | .update _ | .delete _ => VpnPayload.memberNames
  | .attach _ _ | .detach _ _ => PortPayload.memberNames

theorem toJson_eq (n : Notification) :
    n.toJson = .obj (("op", .str n.tag) :: n.toMembers) := by
  cases n <;> rfl

theorem nodup_keys (n : Notification) :
    ((("op", .str n.tag) :: n.toMembers).map (·.1)).Nodup := by
  cases n <;> simp [toMembers]

theorem held_toJson (n : Notification) : n.toJson.held = true := by
  cases n <;> simp [toJson, VpnPayload.held_toJson, PortPayload.held_toJson]

/-- A notification whose target lists are under wire keys in order is read back,
however its members are arranged. -/
theorem ofJson?_arranged (harrange : Arrangement arrange) (h : n.targets.Keyed) :
    ofJson? (arrange n.toJson) = some n := by
  have htagged : Dialect.tagged ≠ .document := by decide
  have hheld : (arrange n.toJson).held = true := harrange.held n.held_toJson
  rw [toJson_eq] at hheld
  obtain ⟨body, htag, hbody⟩ := (harrange.obj n.nodup_keys).tagged? (harrange.str n.tag) hheld
  rw [ofJson?, toJson_eq, htag]
  cases n with
  | update vpn | delete vpn =>
    have hread := VpnPayload.ofJson?_arranged harrange h
    simp [variant?, tag, hbody.record? htagged, toMembers, lookup_cons_ite, required, hread]
  | attach port host | detach port host =>
    have hread := PortPayload.ofJson?_arranged harrange htagged h
    simp [variant?, tag, hbody.record? htagged, toMembers, lookup_cons_ite, required, hread,
      harrange.str, string?]

end Notification
end VpnAttach
