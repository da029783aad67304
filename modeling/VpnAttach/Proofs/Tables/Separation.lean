import VpnAttach.Proofs.Tables.Writing
import VpnAttach.Tables.Query

/-!
# VPNs do not get into each other's way

Every write is addressed to one VPN, an association being reached through its owner.
Leaving that VPN out of the tables, with everything it owns, gives the same tables
before and after the write (`Stages.without_eq`).  What is asked about another VPN can
be answered from the tables without the first (`Query.answer_without`), so the write
does not change the answer.

After its deletion nothing is left of a VPN (`Gone`).  It stays so until a VPN is
created under the same id, and that one starts without associations.  What the routes
of other VPNs say is theirs: a route that names the VPN is not touched.
-/

namespace VpnAttach

/-- The VPN that a query is addressed to. -/
def Query.addressee? : Query → Option String
  | .getVpn id => some id
  | .getNetwork owner _ | .getRouter owner _ | .getPort owner _ => some owner
  | .listNetworks owner | .listRouters owner | .listPorts owner => some owner
  | .listVpns | .vpnsOnNetwork _ | .vpnsOnRouter _ | .vpnsOnPort _
  | .associationsOnPort _ => none

namespace Mutation

/-- The VPN that a mutation is addressed to; `fresh` is the id of one that is created
without an id. -/
def addressee (fresh : String) : Mutation → String
  | .createVpn request => request.id.getD fresh
  | .updateVpn id _ | .deleteVpn id => id
  | .createNetwork owner _ | .deleteNetwork owner _ => owner
  | .createRouter owner _ | .updateRouter owner _ _ | .deleteRouter owner _ => owner
  | .createPort owner _ | .updatePort owner _ _ | .deletePort owner _ => owner

/-- Whether a mutation creates a VPN. -/
def createsVpn : Mutation → Bool
  | .createVpn _ => true
  | _ => false

end Mutation

namespace Tables

variable {t t' : Tables} {fresh id other : String} {m : Mutation} {staged : Staged}

/-! ## Tables without a VPN -/

/-- A mutation changes nothing but the VPN it is addressed to and what that owns. -/
theorem Stages.without_eq (hm : t.Stages fresh m staged) :
    staged.committed.without (m.addressee fresh) = t.without (m.addressee fresh) := by
  cases hm with
  | createVpn hid =>
    obtain rfl := Rows.eq_of_chooseId hid
    simp [without, Mutation.addressee, VpnRequest.toVpn]
  | updateVpn _ => rw [without, without, Mutation.addressee, filter_updateRow]
  | deleteVpn _ => simp [without, Mutation.addressee, Rows.removeOwned_removeOwned]
  | createNetwork hrow ha =>
    rw [without, without, Mutation.addressee, Rows.removeOwned_append (owner_of_make hrow ha).1]
  | deleteNetwork _ ha =>
    rw [without, without, Mutation.addressee, Rows.removeOwned_remove ha]
  | createRouter hrow ha =>
    rw [without, without, Mutation.addressee, Rows.removeOwned_append (owner_of_make hrow ha).1]
  | updateRouter _ ha =>
    rw [without, without, Mutation.addressee, Rows.removeOwned_modify ha]
  | deleteRouter _ ha =>
    rw [without, without, Mutation.addressee, Rows.removeOwned_remove ha]
  | createPort hrow ha =>
    rw [without, without, Mutation.addressee, Rows.removeOwned_append (owner_of_make hrow ha).1]
  | updatePort _ ha =>
    rw [without, without, Mutation.addressee, Rows.removeOwned_modify ha]
  | deletePort _ ha =>
    rw [without, without, Mutation.addressee, Rows.removeOwned_remove ha]

/-- Neither does a write, whether it succeeds or fails. -/
theorem without_after_write (t : Tables) (fresh : String) (m : Mutation) :
    ((Writing.write fresh m).after t).without (m.addressee fresh) =
      t.without (m.addressee fresh) := by
  rcases Writing.write_cases t fresh m with ⟨staged, hstaged, hok⟩ | ⟨_, herror⟩
  · rw [Writing.after, hok]
    exact hstaged.without_eq
  · rw [Writing.after, herror]

/-! ## Looking at tables without a VPN -/

theorem row_without (h : other ≠ id) : (t.without id).row other = t.row other := by
  rw [row, row, row?_without h]

theorem fill_without {vpn : Vpn} (h : vpn.id ≠ id) : (t.without id).fill vpn = t.fill vpn := by
  simp only [fill, without, Rows.targetsOf, Rows.ownedBy_removeOwned h]

theorem vpn?_without (h : other ≠ id) : (t.without id).vpn? other = t.vpn? other := by
  rw [vpn?, vpn?, row?_without h]
  refine Option.map_congr fun vpn hvpn => fill_without ?_
  rwa [id_of_row? hvpn]

/-- Another VPN is seen as it is. -/
theorem getVpn_without (h : other ≠ id) : (t.without id).getVpn other = t.getVpn other := by
  rw [getVpn, getVpn, row_without h]
  cases hrow : t.row other with
  | error _ => rfl
  | ok vpn =>
    have hother : vpn.id ≠ id := by rwa [id_of_row? (row_eq_ok.1 hrow)]
    exact congrArg Except.ok (fill_without hother)

theorem listVpns_without (t : Tables) (id : String) :
    (t.without id).listVpns = t.listVpns.filter (·.id != id) := by
  rw [listVpns, listVpns, List.filter_map]
  refine List.map_congr_left fun vpn hvpn => fill_without ?_
  exact bne_iff_ne.1 (List.mem_filter.1 hvpn).2

/-- The VPNs with some ids, and those among them that are not left out. -/
theorem vpnsWithIds_without (t : Tables) (id : String) (ids : List String) :
    (t.without id).vpnsWithIds (ids.filter (· != id)) =
      (t.vpnsWithIds ids).filter (·.id != id) := by
  have hdistinct : distinct (ids.filter (· != id)) = (distinct ids).filter (· != id) :=
    (filter_distinctBy _ (· != id) ids).symm
  rw [vpnsWithIds, vpnsWithIds, hdistinct, List.filterMap_filter, List.filter_filterMap]
  refine List.filterMap_congr fun other _ => ?_
  by_cases hother : other = id
  · cases hvpn : t.vpn? other with
    | none => simp [hother]
    | some vpn => simp [hother, Option.filter_some, id_of_vpn? hvpn]
  · cases hvpn : t.vpn? other with
    | none => simp [hother, vpn?_without hother, hvpn]
    | some vpn =>
      simp [hother, vpn?_without hother, hvpn, Option.filter_some, id_of_vpn? hvpn]

/-- The owners of the associations with a target that are not removed. -/
theorem map_owner_onTarget_removeOwned {τ : Type} (target : String)
    (rows : List (Association τ)) :
    (Rows.onTarget target (Rows.removeOwned id rows)).map (·.owner) =
      ((Rows.onTarget target rows).map (·.owner)).filter (· != id) := by
  rw [Rows.onTarget_removeOwned_eq_filter, List.filter_map]
  rfl

theorem vpnsOnNetwork_without (t : Tables) (id network : String) :
    (t.without id).vpnsOnNetwork network = (t.vpnsOnNetwork network).filter (·.id != id) := by
  rw [vpnsOnNetwork, vpnsOnNetwork, ← vpnsWithIds_without, ← map_owner_onTarget_removeOwned]
  rfl

theorem vpnsOnRouter_without (t : Tables) (id router : String) :
    (t.without id).vpnsOnRouter router = (t.vpnsOnRouter router).filter (·.id != id) := by
  rw [vpnsOnRouter, vpnsOnRouter, ← vpnsWithIds_without, ← map_owner_onTarget_removeOwned]
  rfl

theorem vpnsOnPort_without (t : Tables) (id port : String) :
    (t.without id).vpnsOnPort port = (t.vpnsOnPort port).filter (·.id != id) := by
  rw [vpnsOnPort, vpnsOnPort, ← vpnsWithIds_without, ← map_owner_onTarget_removeOwned]
  rfl

/-- What is asked about another VPN can be answered without this one. -/
theorem answer_without {q : Query} (hq : q.addressee? = some other) (h : other ≠ id) :
    q.answer (t.without id) = q.answer t := by
  cases q <;> cases hq <;>
    simp only [Query.answer, getVpn_without h, getNetwork, getRouter, getPort, listNetworks,
      listRouters, listPorts, row_without h, Rows.find, without_networks, without_routers,
      without_ports, Rows.find?_removeOwned h, Rows.ownedBy_removeOwned h]

/-- What concerns other VPNs than `id` is the same in two tables, and what is listed of
them is in the same order. -/
structure Apart (id : String) (t t' : Tables) : Prop where
  answer_eq (q : Query) (other : String) (hq : q.addressee? = some other)
    (hother : other ≠ id) : q.answer t' = q.answer t
  listVpns_eq : t'.listVpns.filter (·.id != id) = t.listVpns.filter (·.id != id)
  vpnsOnNetwork_eq (network : String) :
    (t'.vpnsOnNetwork network).filter (·.id != id) =
      (t.vpnsOnNetwork network).filter (·.id != id)
  vpnsOnRouter_eq (router : String) :
    (t'.vpnsOnRouter router).filter (·.id != id) =
      (t.vpnsOnRouter router).filter (·.id != id)
  vpnsOnPort_eq (port : String) :
    (t'.vpnsOnPort port).filter (·.id != id) = (t.vpnsOnPort port).filter (·.id != id)
  associationsOnPort_eq (port : String) :
    (t'.associationsOnPort port).filter (·.owner != id) =
      (t.associationsOnPort port).filter (·.owner != id)

theorem apart_of_without_eq (h : t'.without id = t.without id) : Apart id t t' where
  answer_eq q other hq hother := by
    rw [← answer_without hq hother, h, answer_without hq hother]
  listVpns_eq := by rw [← listVpns_without, ← listVpns_without, h]
  vpnsOnNetwork_eq network := by rw [← vpnsOnNetwork_without, ← vpnsOnNetwork_without, h]
  vpnsOnRouter_eq router := by rw [← vpnsOnRouter_without, ← vpnsOnRouter_without, h]
  vpnsOnPort_eq port := by rw [← vpnsOnPort_without, ← vpnsOnPort_without, h]
  associationsOnPort_eq port := by
    rw [associationsOnPort, associationsOnPort, ← Rows.onTarget_removeOwned_eq_filter,
      ← Rows.onTarget_removeOwned_eq_filter]
    exact congrArg (fun t => Rows.onTarget port t.ports) h

/-! ## After a deletion -/

/-- Nothing is left of the VPN `id`: whatever is addressed to it is refused, except for
its creation, and nothing that is found or listed is the VPN or its association. -/
structure Gone (t : Tables) (id : String) : Prop where
  query_refused (q : Query) (hq : q.addressee? = some id) :
    q.answer t = .error (.notFound "bgpvpn" id)
  mutation_refused (fresh : String) (m : Mutation) (hm : m.createsVpn = false)
    (haddressee : m.addressee fresh = id) :
    (Writing.write fresh m).run t = .error (.notFound "bgpvpn" id) t
  not_listed : id ∉ t.listVpns.map (·.id)
  not_onNetwork (network : String) : id ∉ (t.vpnsOnNetwork network).map (·.id)
  not_onRouter (router : String) : id ∉ (t.vpnsOnRouter router).map (·.id)
  not_onPort (port : String) : id ∉ (t.vpnsOnPort port).map (·.id)
  no_association (port : String) : id ∉ (t.associationsOnPort port).map (·.owner)

/-- A VPN can be created under the id, and it starts without associations. -/
def Vacant (t : Tables) (id : String) : Prop :=
  ∀ (fresh : String) (request : VpnRequest), request.id.getD fresh = id →
    ∃ vpn t', (Writing.write fresh (.createVpn request)).run t = .ok (.vpn vpn) t' ∧
      vpn.id = id ∧ vpn.networks = [] ∧ vpn.routers = [] ∧ vpn.ports = [] ∧
      t'.getVpn id = .ok vpn ∧ t'.listNetworks id = .ok [] ∧
      t'.listRouters id = .ok [] ∧ t'.listPorts id = .ok []

/-- A mutation of a VPN that is not stored cannot be worked out. -/
theorem stage_of_not_mem (hm : m.createsVpn = false) (h : m.addressee fresh ∉ t.vpnIds) :
    t.stage fresh m = .error (.notFound "bgpvpn" (m.addressee fresh)) := by
  have hrow := row_of_not_mem h
  cases m with
  | createVpn _ => cases hm
  | _ =>
    -- Each of them looks for the row first.
    simp only [Mutation.addressee] at hrow ⊢
    simp only [stage, Tables.deleteVpn, Tables.createNetwork, Tables.deleteNetwork,
      Tables.createRouter, Tables.deleteRouter, Tables.createPort, Tables.deletePort, getVpn,
      getNetwork, getRouter, getPort, hrow]
    rfl

/-- Where associations have owners, nothing is left of a VPN that is not stored. -/
theorem gone_of_not_mem (ht : t.Owned) (h : id ∉ t.vpnIds) : t.Gone id where
  query_refused q hq := by
    have hrow := row_of_not_mem h
    cases q <;> cases hq <;>
      simp only [Query.answer, getVpn, getNetwork, getRouter, getPort, listNetworks,
        listRouters, listPorts, hrow] <;>
      rfl
  mutation_refused fresh m hm haddressee := by
    rw [← haddressee] at h ⊢
    rw [Writing.run_write, stage_of_not_mem hm h]
    rfl
  not_listed := by
    rw [listVpns, List.map_map]
    exact h
  not_onNetwork _ hmem := h (mem_map_id_vpnsWithIds.1 hmem).2
  not_onRouter _ hmem := h (mem_map_id_vpnsWithIds.1 hmem).2
  not_onPort _ hmem := h (mem_map_id_vpnsWithIds.1 hmem).2
  no_association port hmem := by
    obtain ⟨a, ha, rfl⟩ := List.mem_map.1 hmem
    exact h (ht.ports a (List.mem_filter.1 ha).1)

theorem vacant_of_not_mem (ht : t.Owned) (h : id ∉ t.vpnIds) : t.Vacant id := by
  intro fresh request hid
  have hchoose : Rows.chooseId t.vpnIds "bgpvpn" fresh request.id = .ok id := by
    cases hrequested : request.id with
    | none => rw [hrequested] at hid; exact congrArg Except.ok hid
    | some wanted =>
      rw [hrequested] at hid
      obtain rfl : wanted = id := hid
      exact if_neg h
  have hstaged : t.Stages fresh (.createVpn request) _ := .createVpn hchoose
  have hvpn := vpn?_createVpn ht request h
  obtain ⟨row, hrow, -⟩ := Option.map_eq_some_iff.1 hvpn
  rw [← row_eq_ok] at hrow
  refine ⟨request.toVpn id, { t with vpns := t.vpns ++ [request.toVpn id] }, ?_, rfl, rfl, rfl,
    rfl, getVpn_eq_ok.2 hvpn, ?_, ?_, ?_⟩
  · rw [Writing.run_write, hstaged.stage_eq]
    rfl
  · rw [listNetworks, hrow, ht.networks.ownedBy_eq_nil h]
    rfl
  · rw [listRouters, hrow, ht.routers.ownedBy_eq_nil h]
    rfl
  · rw [listPorts, hrow, ht.ports.ownedBy_eq_nil h]
    rfl

/-- A mutation does not store a VPN under an id, unless it creates it. -/
theorem Stages.not_mem_vpnIds (hm : t.Stages fresh m staged) (h : id ∉ t.vpnIds)
    (hnot : m.createsVpn = true → m.addressee fresh ≠ id) : id ∉ staged.committed.vpnIds := by
  cases hm with
  | createVpn hid =>
    obtain rfl := Rows.eq_of_chooseId hid
    rw [vpnIds_createVpn, List.mem_append, List.mem_singleton, not_or]
    exact ⟨h, (hnot rfl).symm⟩
  | updateVpn _ =>
    rw [vpnIds_updateVpn]
    exact h
  | deleteVpn _ =>
    rw [vpnIds_without]
    exact fun hmem => h (List.mem_filter.1 hmem).1
  | _ => exact h

theorem owned_writeAll (writes : List (String × Mutation)) : (writeAll {} writes).Owned :=
  writeAll_induction sound_empty.toOwned fun _ _ _ _ h hstaged => hstaged.owned h

/-- What is gone stays gone as long as it is not created. -/
theorem owned_not_mem_writeAll (ht : t.Owned) (h : id ∉ t.vpnIds)
    {writes : List (String × Mutation)}
    (hnot : ∀ w ∈ writes, w.2.createsVpn = true → w.2.addressee w.1 ≠ id) :
    (t.writeAll writes).Owned ∧ id ∉ (t.writeAll writes).vpnIds :=
  writeAll_induction (P := fun t => t.Owned ∧ id ∉ t.vpnIds) ⟨ht, h⟩
    fun _ w _ hw hkept hstaged =>
      ⟨hstaged.owned hkept.1, hstaged.not_mem_vpnIds hkept.2 (hnot w hw)⟩

/-- In tables that come of any sequence of writes, a further write leaves alone what
concerns other VPNs than the one it is addressed to.  After a deletion nothing is left
of a VPN, whatever is written, until it is created again; then it has no
associations. -/
theorem apart_writeAll (writes : List (String × Mutation)) :
    let t := writeAll {} writes
    (∀ fresh m, Apart (m.addressee fresh) t ((Writing.write fresh m).after t)) ∧
    ∀ fresh id reply t', (Writing.write fresh (.deleteVpn id)).run t = .ok reply t' →
      ∀ later : List (String × Mutation),
        (∀ w ∈ later, w.2.createsVpn = true → w.2.addressee w.1 ≠ id) →
        (t'.writeAll later).Gone id ∧ (t'.writeAll later).Vacant id := by
  intro t
  refine ⟨fun fresh m => apart_of_without_eq (without_after_write t fresh m), ?_⟩
  intro fresh id reply t' hdelete later hlater
  have howned : t.Owned := owned_writeAll writes
  have hdeleted : t'.Owned ∧ id ∉ t'.vpnIds := by
    rcases Writing.write_cases t fresh (.deleteVpn id) with ⟨staged, hstaged, hok⟩ | ⟨_, herror⟩
    · obtain ⟨-, rfl⟩ := EStateM.Result.ok.inj (hdelete.symm.trans hok)
      refine ⟨hstaged.owned howned, ?_⟩
      cases hstaged
      exact not_mem_vpnIds_without t id
    · cases hdelete.symm.trans herror
  obtain ⟨hkept, hgone⟩ := owned_not_mem_writeAll hdeleted.1 hdeleted.2 hlater
  exact ⟨gone_of_not_mem hkept hgone, vacant_of_not_mem hkept hgone⟩

/-- Two VPNs with a network and a port in common. -/
def neighbours : List (String × Mutation) := [
  ("v1", .createVpn { tenant := "tenant" }),
  ("v2", .createVpn { tenant := "tenant" }),
  ("n1", .createNetwork "v1" { target := "net", terms := () }),
  ("n2", .createNetwork "v2" { target := "net", terms := () }),
  ("p1", .createPort "v1" { target := "port", terms := {} }),
  ("p2", .createPort "v2" { target := "port", terms := {} })]

/-- The first of the two is deleted, and associated again in vain. -/
theorem apart_writeAll_neighbours :
    let t := writeAll {} neighbours
    let t' := (Writing.write "" (.deleteVpn "v1")).after t
    let later := [("n3", Mutation.createNetwork "v1" { target := "net", terms := () })]
    Apart "v1" t t' ∧ (t.vpnsOnNetwork "net").map (·.id) = ["v1", "v2"] ∧
      (t'.vpnsOnNetwork "net").map (·.id) = ["v2"] ∧
      (t'.writeAll later).Gone "v1" ∧ (t'.writeAll later).Vacant "v1" := by
  intro t t' later
  obtain ⟨hapart, hdeleted⟩ := apart_writeAll neighbours
  have hnot : ∀ w ∈ later, w.2.createsVpn = true → w.2.addressee w.1 ≠ "v1" := by decide
  exact ⟨hapart "" (.deleteVpn "v1"), by decide, by decide, hdeleted "" "v1" _ t' rfl later hnot⟩

end Tables
end VpnAttach
