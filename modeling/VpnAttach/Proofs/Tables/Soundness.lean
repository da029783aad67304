import VpnAttach.Proofs.Tables.Staging
import VpnAttach.Service.Reachable

/-!
# Soundness of the tables

Every association belongs to a stored VPN, no id is used twice in a table, and
no VPN is associated twice with the same object.  The first holds whatever ids
new objects are given (`Stages.owned`); for the rest the ids have to be fresh
(`Stages.sound`).  What can be derived from the associations is not stored with the
VPNs (`Stages.bare`).
-/

namespace VpnAttach.Tables

variable {t : Tables} {fresh : String} {m : Mutation} {staged : Staged}

/-- Every association belongs to a stored VPN. -/
structure Owned (t : Tables) : Prop where
  networks : Rows.Owned t.vpnIds t.networks
  routers : Rows.Owned t.vpnIds t.routers
  ports : Rows.Owned t.vpnIds t.ports

/-- Associations have owners, and nothing is stored twice. -/
structure Sound (t : Tables) : Prop extends Owned t where
  ids : t.vpnIds.Nodup
  uniqueNetworks : Rows.Unique t.networks
  uniqueRouters : Rows.Unique t.routers
  uniquePorts : Rows.Unique t.ports

/-- The stored VPNs have empty lists of associated objects. -/
def Bare (t : Tables) : Prop :=
  ∀ vpn ∈ t.vpns, vpn.networks = [] ∧ vpn.routers = [] ∧ vpn.ports = []

theorem sound_empty : Sound {} where
  networks := nofun
  routers := nofun
  ports := nofun
  ids := List.nodup_nil
  uniqueNetworks := Rows.Unique.nil
  uniqueRouters := Rows.Unique.nil
  uniquePorts := Rows.Unique.nil

theorem mem_vpnIds_of_row? {id : String} {row : Vpn} (h : t.row? id = some row) :
    id ∈ t.vpnIds :=
  exists_row?_iff.1 ⟨row, h⟩

/-! ## The ids of VPNs after a mutation -/

theorem vpnIds_createVpn (t : Tables) (vpn : Vpn) :
    vpnIds { t with vpns := t.vpns ++ [vpn] } = t.vpnIds ++ [vpn.id] := by
  simp [vpnIds]

theorem vpnIds_updateVpn (t : Tables) (id : String) (changes : VpnUpdate) :
    vpnIds { t with vpns := updateRow id changes t.vpns } = t.vpnIds :=
  map_updateRow (·.id) (fun _ => rfl) t.vpns

theorem vpnIds_without (t : Tables) (id : String) :
    (t.without id).vpnIds = t.vpnIds.filter (· != id) := by
  rw [vpnIds, vpnIds, List.filter_map]
  rfl

theorem not_mem_vpnIds_without (t : Tables) (id : String) : id ∉ (t.without id).vpnIds := by
  rw [vpnIds_without]
  exact fun h => bne_iff_ne.1 (List.mem_filter.1 h).2 rfl

/-! ## Ownership -/

/-- An association is made for a stored VPN. -/
theorem owner_of_make {τ : Type} {rows : List (Association τ)} {kind : Attachment}
    {row : Vpn} {owner : String} {request : AssociationRequest τ} {a : Association τ}
    (hrow : t.row? owner = some row)
    (ha : Rows.make kind row fresh request rows = .ok a) :
    a.owner = owner ∧ a.owner ∈ t.vpnIds := by
  obtain ⟨-, -, hshape⟩ := Rows.make_eq_ok ha
  have howner : a.owner = owner := by
    rw [hshape]
    exact id_of_row? hrow
  rw [howner]
  exact ⟨rfl, mem_vpnIds_of_row? hrow⟩

/-- Every mutation leaves each association with its owner. -/
theorem Stages.owned (hm : t.Stages fresh m staged) (h : t.Owned) :
    staged.committed.Owned := by
  cases hm with
  | createVpn _ =>
    have hmore (id : String) (hid : id ∈ t.vpnIds) (new : String) :
        id ∈ t.vpnIds ++ [new] := List.mem_append_left _ hid
    constructor <;> rw [vpnIds_createVpn]
    · exact h.networks.mono fun id hid => hmore id hid _
    · exact h.routers.mono fun id hid => hmore id hid _
    · exact h.ports.mono fun id hid => hmore id hid _
  | updateVpn _ =>
    constructor <;> rw [vpnIds_updateVpn]
    · exact h.networks
    · exact h.routers
    · exact h.ports
  | deleteVpn _ =>
    constructor <;> rw [vpnIds_without]
    · exact h.networks.removeOwned
    · exact h.routers.removeOwned
    · exact h.ports.removeOwned
  | createNetwork hrow ha =>
    exact ⟨h.networks.append (owner_of_make hrow ha).2, h.routers, h.ports⟩
  | deleteNetwork _ _ => exact ⟨h.networks.remove, h.routers, h.ports⟩
  | createRouter hrow ha =>
    exact ⟨h.networks, h.routers.append (owner_of_make hrow ha).2, h.ports⟩
  | updateRouter _ _ => exact ⟨h.networks, h.routers.modify, h.ports⟩
  | deleteRouter _ _ => exact ⟨h.networks, h.routers.remove, h.ports⟩
  | createPort hrow ha =>
    exact ⟨h.networks, h.routers, h.ports.append (owner_of_make hrow ha).2⟩
  | updatePort _ _ => exact ⟨h.networks, h.routers, h.ports.modify⟩
  | deletePort _ _ => exact ⟨h.networks, h.routers, h.ports.remove⟩

/-- A new VPN is stored as it was asked for. -/
theorem vpn?_createVpn {id : String} (ht : t.Owned) (request : VpnRequest)
    (hnew : id ∉ t.vpnIds) :
    vpn? { t with vpns := t.vpns ++ [request.toVpn id] } id = some (request.toVpn id) := by
  have hnone : t.vpns.find? (·.id == id) = none := by
    rw [List.find?_eq_none]
    intro vpn hvpn hid
    exact hnew (eq_of_beq hid ▸ List.mem_map_of_mem hvpn)
  have hrow : row? { t with vpns := t.vpns ++ [request.toVpn id] } id =
      some (request.toVpn id) := by
    rw [row?, List.find?_append, hnone, Option.none_or]
    exact List.find?_cons_of_pos (beq_self_eq_true id)
  have hfill : t.fill (request.toVpn id) = request.toVpn id := by
    have hnetworks := ht.networks.targetsOf_eq_nil hnew
    have hrouters := ht.routers.targetsOf_eq_nil hnew
    have hports := ht.ports.targetsOf_eq_nil hnew
    simp only [fill, VpnRequest.toVpn, hnetworks, hrouters, hports]
  exact (vpn?_of_row? hrow).trans (congrArg some hfill)

/-! ## Soundness -/

/-- The ids in use for objects of a type. -/
def idsOf (t : Tables) : ObjectType → List String
  | .vpn => t.vpnIds
  | .association .network => t.networks.map (·.id)
  | .association .router => t.routers.map (·.id)
  | .association .port => t.ports.map (·.id)

/-- If a mutation needs an id, then `fresh` is not in use among the objects of its
type. -/
def Fresh (t : Tables) (fresh : String) (m : Mutation) : Prop :=
  m.needsId = true → fresh ∉ t.idsOf m.objectType

instance (t : Tables) (fresh : String) (m : Mutation) : Decidable (t.Fresh fresh m) :=
  inferInstanceAs (Decidable (m.needsId = true → fresh ∉ t.idsOf m.objectType))

/-- An id that no object uses will do for every mutation. -/
theorem fresh_of_not_mem_usedIds (h : fresh ∉ t.usedIds) : t.Fresh fresh m := by
  simp only [usedIds, List.mem_append, not_or] at h
  obtain ⟨⟨⟨hvpns, hnetworks⟩, hrouters⟩, hports⟩ := h
  intro _
  cases m.objectType with
  | vpn => exact hvpns
  | association kind =>
    cases kind with
    | network => exact hnetworks
    | router => exact hrouters
    | port => exact hports

/-- Rows stay unique when an association is made. -/
theorem unique_append_make {τ : Type} {rows : List (Association τ)}
    {kind : Attachment} {vpn : Vpn} {request : AssociationRequest τ}
    {a : Association τ} (h : Rows.Unique rows)
    (ha : Rows.make kind vpn fresh request rows = .ok a)
    (hfresh : request.id.isNone = true → fresh ∉ rows.map (·.id)) :
    Rows.Unique (rows ++ [a]) := by
  obtain ⟨hnew, hid, hshape⟩ := Rows.make_eq_ok ha
  refine h.append (Rows.not_mem_of_chooseId hid hfresh) ?_
  rw [hshape]
  exact hnew

/-- Every mutation keeps the tables sound. -/
theorem Stages.sound (hm : t.Stages fresh m staged) (h : t.Sound)
    (hfresh : t.Fresh fresh m) : staged.committed.Sound := by
  have howned := hm.owned h.toOwned
  cases hm with
  | createVpn hid =>
    refine ⟨howned, ?_, h.uniqueNetworks, h.uniqueRouters, h.uniquePorts⟩
    rw [vpnIds_createVpn]
    refine List.nodup_append.2 ⟨h.ids, List.nodup_singleton _, ?_⟩
    intro id hmem _ hnew hsame
    obtain rfl := hsame
    obtain rfl := List.mem_singleton.1 hnew
    exact Rows.not_mem_of_chooseId hid hfresh hmem
  | updateVpn _ =>
    refine ⟨howned, ?_, h.uniqueNetworks, h.uniqueRouters, h.uniquePorts⟩
    rw [vpnIds_updateVpn]
    exact h.ids
  | deleteVpn _ =>
    refine ⟨howned, ?_, h.uniqueNetworks.removeOwned, h.uniqueRouters.removeOwned,
      h.uniquePorts.removeOwned⟩
    rw [vpnIds_without]
    exact h.ids.filter _
  | createNetwork _ ha =>
    exact ⟨howned, h.ids, unique_append_make h.uniqueNetworks ha hfresh,
      h.uniqueRouters, h.uniquePorts⟩
  | deleteNetwork _ _ =>
    exact ⟨howned, h.ids, h.uniqueNetworks.remove, h.uniqueRouters, h.uniquePorts⟩
  | createRouter _ ha =>
    exact ⟨howned, h.ids, h.uniqueNetworks,
      unique_append_make h.uniqueRouters ha hfresh, h.uniquePorts⟩
  | updateRouter _ _ =>
    exact ⟨howned, h.ids, h.uniqueNetworks, h.uniqueRouters.modify, h.uniquePorts⟩
  | deleteRouter _ _ =>
    exact ⟨howned, h.ids, h.uniqueNetworks, h.uniqueRouters.remove, h.uniquePorts⟩
  | createPort _ ha =>
    exact ⟨howned, h.ids, h.uniqueNetworks, h.uniqueRouters,
      unique_append_make h.uniquePorts ha hfresh⟩
  | updatePort _ _ =>
    exact ⟨howned, h.ids, h.uniqueNetworks, h.uniqueRouters, h.uniquePorts.modify⟩
  | deletePort _ _ =>
    exact ⟨howned, h.ids, h.uniqueNetworks, h.uniqueRouters, h.uniquePorts.remove⟩

/-! ## Derived lists -/

/-- No mutation stores what is derived from the associations. -/
theorem Stages.bare (hm : t.Stages fresh m staged) (h : t.Bare) : staged.committed.Bare := by
  cases hm with
  | createVpn _ =>
    exact List.forall_mem_append.2 ⟨h, List.forall_mem_singleton.2 ⟨rfl, rfl, rfl⟩⟩
  | updateVpn _ =>
    have hlists (vpns : List Vpn) :
        (∀ vpn ∈ vpns, vpn.networks = [] ∧ vpn.routers = [] ∧ vpn.ports = []) ↔
          ∀ lists ∈ vpns.map fun vpn => (vpn.networks, vpn.routers, vpn.ports),
            lists = ([], [], []) := by
      simp
    rw [Bare, hlists, map_updateRow _ fun _ => rfl, ← hlists]
    exact h
  | deleteVpn _ => exact fun vpn hvpn => h vpn (List.mem_filter.1 hvpn).1
  | _ => exact h

end VpnAttach.Tables
