import VpnAttach.Proofs.Distinct
import VpnAttach.Proofs.Tables.Rows
import VpnAttach.Tables.Basic

/-!
# Laws of looking up VPNs

A VPN is found by its id, and what is found has that id.  The lists of VPNs on
a network, a router or a port are all instances of `vpnsWithIds`, so one law
about membership serves the three of them.

The last section says what the writes to the list of VPNs do to a look-up.
-/

namespace VpnAttach.Tables

variable {t : Tables} {id : String} {vpn : Vpn} {ids : List String}

/-- The ids of the stored VPNs. -/
def vpnIds (t : Tables) : List String :=
  t.vpns.map (·.id)

/-! ## By id -/

@[simp] theorem fill_id : (t.fill vpn).id = vpn.id := rfl

theorem id_of_row? (h : t.row? id = some vpn) : vpn.id = id := by
  simpa using List.find?_some h

@[simp] theorem row_eq_ok : t.row id = .ok vpn ↔ t.row? id = some vpn := by
  rw [row]
  cases t.row? id <;> simp

@[simp] theorem getVpn_eq_ok : t.getVpn id = .ok vpn ↔ t.vpn? id = some vpn := by
  rw [getVpn, vpn?, row]
  cases t.row? id <;> simp [Except.map]

theorem id_of_vpn? (h : t.vpn? id = some vpn) : vpn.id = id := by
  obtain ⟨row, hrow, rfl⟩ := Option.map_eq_some_iff.1 h
  exact fill_id.trans (id_of_row? hrow)

theorem vpn?_of_row? (h : t.row? id = some vpn) : t.vpn? id = some (t.fill vpn) := by
  rw [vpn?, h, Option.map_some]

/-- The stored ids are those under which a VPN is found. -/
theorem exists_row?_iff : (∃ vpn, t.row? id = some vpn) ↔ id ∈ t.vpnIds := by
  rw [← Option.isSome_iff_exists, row?, List.find?_isSome]
  simp [vpnIds]

theorem exists_vpn?_iff : (∃ vpn, t.vpn? id = some vpn) ↔ id ∈ t.vpnIds := by
  rw [← exists_row?_iff, ← Option.isSome_iff_exists, ← Option.isSome_iff_exists,
    vpn?, Option.isSome_map]

theorem row?_eq_none : t.row? id = none ↔ id ∉ t.vpnIds := by
  rw [← exists_row?_iff, ← Option.isSome_iff_exists, Option.not_isSome_iff_eq_none]

/-- An id that is not stored is refused. -/
theorem row_of_not_mem (h : id ∉ t.vpnIds) : t.row id = .error (.notFound "bgpvpn" id) := by
  rw [row, row?_eq_none.2 h]

/-! ## By several ids -/

theorem mem_vpnsWithIds :
    vpn ∈ t.vpnsWithIds ids ↔ vpn.id ∈ ids ∧ t.vpn? vpn.id = some vpn := by
  simp only [vpnsWithIds, List.mem_filterMap, mem_distinct]
  constructor
  · intro h
    obtain ⟨id, hid, hvpn⟩ := h
    obtain rfl := id_of_vpn? hvpn
    exact ⟨hid, hvpn⟩
  · intro h
    obtain ⟨hid, hvpn⟩ := h
    exact ⟨vpn.id, hid, hvpn⟩

theorem mem_map_id_vpnsWithIds :
    id ∈ (t.vpnsWithIds ids).map (·.id) ↔ id ∈ ids ∧ id ∈ t.vpnIds := by
  simp only [List.mem_map, mem_vpnsWithIds, ← exists_vpn?_iff]
  constructor
  · intro h
    obtain ⟨vpn, ⟨hid, hvpn⟩, rfl⟩ := h
    exact ⟨hid, vpn, hvpn⟩
  · intro h
    obtain ⟨hid, vpn, hvpn⟩ := h
    obtain rfl := id_of_vpn? hvpn
    exact ⟨vpn, ⟨hid, hvpn⟩, rfl⟩

/-- Each VPN is found once. -/
theorem nodup_map_id_vpnsWithIds (t : Tables) (ids : List String) :
    ((t.vpnsWithIds ids).map (·.id)).Nodup := by
  rw [vpnsWithIds, ← distinctBy_filterMap fun _ _ h => id_of_vpn? h]
  exact nodup_map_distinctBy _ _

/-- The VPNs are found in the order in which their ids are given. -/
theorem map_id_vpnsWithIds_sublist (t : Tables) (ids : List String) :
    ((t.vpnsWithIds ids).map (·.id)).Sublist ids := by
  have hfound (ids : List String) : ((ids.filterMap t.vpn?).map (·.id)).Sublist ids := by
    induction ids with
    | nil => exact List.nil_sublist _
    | cons id ids ih =>
      rw [List.filterMap_cons]
      split
      · exact ih.cons id
      · rename_i vpn hvpn
        rw [List.map_cons, id_of_vpn? hvpn]
        exact ih.cons_cons id
  exact (hfound _).trans (distinctBy_sublist id ids)

/-- Where all ids are known, each gives its VPN. -/
theorem map_id_vpnsWithIds (h : ∀ id ∈ ids, id ∈ t.vpnIds) :
    (t.vpnsWithIds ids).map (·.id) = distinct ids := by
  have hfound (known : List String) (h : ∀ id ∈ known, id ∈ t.vpnIds) :
      (known.filterMap t.vpn?).map (·.id) = known := by
    induction known with
    | nil => rfl
    | cons id known ih =>
      obtain ⟨vpn, hvpn⟩ := exists_vpn?_iff.2 (h id List.mem_cons_self)
      rw [List.filterMap_cons_some hvpn, List.map_cons, id_of_vpn? hvpn,
        ih fun id hid => h id (List.mem_cons_of_mem _ hid)]
  exact hfound _ fun id hid => h id (mem_distinct.1 hid)

/-- An id among those given finds its VPN. -/
theorem find?_of_mem {vpns : List Vpn} (h : ∀ vpn ∈ vpns, t.vpn? vpn.id = some vpn)
    (hall : ∀ vpn, t.vpn? id = some vpn → vpn ∈ vpns) :
    vpns.find? (·.id == id) = t.vpn? id := by
  cases hvpn : t.vpn? id with
  | none =>
    refine List.find?_eq_none.2 fun vpn hmem hid => ?_
    rw [← beq_iff_eq.1 hid, h vpn hmem] at hvpn
    cases hvpn
  | some vpn =>
    obtain ⟨found, hfound⟩ : ∃ found, vpns.find? (·.id == id) = some found := by
      rw [← Option.isSome_iff_exists, List.find?_isSome]
      exact ⟨vpn, hall vpn hvpn, beq_iff_eq.2 (id_of_vpn? hvpn)⟩
    have hid : found.id = id := by simpa using List.find?_some hfound
    have hstored := h found (List.mem_of_find?_eq_some hfound)
    rw [hid, hvpn] at hstored
    rw [hfound, hstored]

theorem mem_vpnsOnNetwork {network : String} :
    vpn ∈ t.vpnsOnNetwork network ↔
      Rows.Joined t.networks vpn.id network ∧ t.vpn? vpn.id = some vpn := by
  rw [vpnsOnNetwork, mem_vpnsWithIds, Rows.mem_map_owner_onTarget]

theorem mem_vpnsOnRouter {router : String} :
    vpn ∈ t.vpnsOnRouter router ↔
      Rows.Joined t.routers vpn.id router ∧ t.vpn? vpn.id = some vpn := by
  rw [vpnsOnRouter, mem_vpnsWithIds, Rows.mem_map_owner_onTarget]

/-- Finding the VPNs of several lists of ids, one list after the other. -/
theorem distinctBy_vpnsWithIds_append (ids more : List String) :
    distinctBy (·.id) (t.vpnsWithIds ids ++ t.vpnsWithIds more) =
      t.vpnsWithIds (ids ++ more) := by
  rw [vpnsWithIds, vpnsWithIds, ← List.filterMap_append,
    distinctBy_filterMap fun _ _ h => id_of_vpn? h, distinct_distinct_append,
    distinct_append_distinct, vpnsWithIds]

theorem distinctBy_vpnsWithIds_flatMap {α : Type} (ids : List String)
    (f : α → List String) (parts : List α) :
    distinctBy (·.id) (t.vpnsWithIds ids ++
        parts.flatMap fun part => t.vpnsWithIds (f part)) =
      t.vpnsWithIds (ids ++ parts.flatMap f) := by
  have hparts : (parts.flatMap fun part => t.vpnsWithIds (f part)) =
      (parts.flatMap fun part => distinct (f part)).filterMap t.vpn? := by
    rw [List.filterMap_flatMap]
    rfl
  rw [hparts, vpnsWithIds, ← List.filterMap_append,
    distinctBy_filterMap fun _ _ h => id_of_vpn? h, distinct_distinct_append,
    distinct_append_flatMap_distinct, vpnsWithIds]

/-! ## After a write -/

theorem find?_append_of_ne {vpns : List Vpn} {new : Vpn} (h : new.id ≠ id) :
    (vpns ++ [new]).find? (·.id == id) = vpns.find? (·.id == id) := by
  simp [List.find?_append, h]

/-- An update leaves alone whatever it does not give a new value to. -/
theorem map_updateRow {β : Type} (f : Vpn → β) {changes : VpnUpdate}
    (hf : ∀ vpn, f (changes.apply vpn) = f vpn) (vpns : List Vpn) :
    (updateRow id changes vpns).map f = vpns.map f := by
  induction vpns with
  | nil => rfl
  | cons vpn vpns ih =>
    rw [updateRow]
    split
    · rw [List.map_cons, List.map_cons, hf]
    · rw [List.map_cons, List.map_cons, ih]

/-- What is stored after an update was there, or is what is found with new values. -/
theorem mem_updateRow {id : String} {changes : VpnUpdate} {vpns : List Vpn} {vpn : Vpn}
    (h : vpn ∈ updateRow id changes vpns) :
    vpn ∈ vpns ∨ ∃ row, vpns.find? (·.id == id) = some row ∧ vpn = changes.apply row := by
  induction vpns with
  | nil => exact Or.inl h
  | cons row vpns ih =>
    rw [updateRow] at h
    by_cases hid : row.id = id
    · rw [if_pos hid] at h
      rcases List.mem_cons.1 h with rfl | hmem
      · exact Or.inr ⟨row, List.find?_cons_of_pos (beq_iff_eq.2 hid), rfl⟩
      · exact Or.inl (List.mem_cons_of_mem _ hmem)
    · rw [if_neg hid] at h
      rcases List.mem_cons.1 h with rfl | hmem
      · exact Or.inl List.mem_cons_self
      · have hskip : (row :: vpns).find? (·.id == id) = vpns.find? (·.id == id) :=
          List.find?_cons_of_neg (mt beq_iff_eq.1 hid)
        rw [hskip]
        exact (ih hmem).imp_left (List.mem_cons_of_mem _)

/-- An update is seen under the id it is for. -/
theorem find?_updateRow_self (changes : VpnUpdate) (vpns : List Vpn) :
    (updateRow id changes vpns).find? (·.id == id) =
      (vpns.find? (·.id == id)).map changes.apply := by
  induction vpns with
  | nil => rfl
  | cons vpn vpns ih =>
    rw [updateRow]
    by_cases hid : vpn.id = id
    · have happly : (changes.apply vpn).id = id := hid
      simp [hid, happly]
    · simp [hid, ih]

theorem row?_updateVpn {changes : VpnUpdate} (h : t.row? id = some vpn) :
    row? { t with vpns := updateRow id changes t.vpns } id = some (changes.apply vpn) := by
  rw [row?, find?_updateRow_self, ← row?, h, Option.map_some]

/-- An update is not seen under any other id. -/
theorem find?_updateRow_of_ne {other : String} (h : other ≠ id)
    (changes : VpnUpdate) (vpns : List Vpn) :
    (updateRow id changes vpns).find? (·.id == other) =
      vpns.find? (·.id == other) := by
  induction vpns with
  | nil => rfl
  | cons vpn vpns ih =>
    rw [updateRow]
    by_cases hid : vpn.id = id
    · have happly : (changes.apply vpn).id = id := hid
      have hne : ¬id = other := fun he => h he.symm
      simp [hid, happly, hne]
    · simp [hid, List.find?_cons, ih]

/-- Giving a VPN the values that it has changes nothing. -/
theorem updateRow_eq_self {changes : VpnUpdate} {vpns : List Vpn}
    (hfind : vpns.find? (·.id == id) = some vpn) (h : changes.apply vpn = vpn) :
    updateRow id changes vpns = vpns := by
  induction vpns with
  | nil => rfl
  | cons row vpns ih =>
    rw [updateRow]
    by_cases hid : row.id = id
    · obtain rfl : row = vpn := by simpa [hid] using hfind
      rw [if_pos hid, h]
    · rw [if_neg hid, ih (by simpa [hid] using hfind)]

/-- Updating a VPN is not seen where it is left out. -/
theorem filter_updateRow (id : String) (changes : VpnUpdate) (vpns : List Vpn) :
    (updateRow id changes vpns).filter (·.id != id) = vpns.filter (·.id != id) := by
  induction vpns with
  | nil => rfl
  | cons vpn vpns ih =>
    rw [updateRow]
    by_cases hid : vpn.id = id
    · have happly : (changes.apply vpn).id = id := hid
      simp [hid, happly]
    · simp [hid, ih]

/-- A removed id is not found any more. -/
theorem find?_filter_self (vpns : List Vpn) :
    (vpns.filter (·.id != id)).find? (·.id == id) = none := by
  simp [List.find?_eq_none]

theorem find?_filter_of_ne {other : String} (h : other ≠ id) (vpns : List Vpn) :
    (vpns.filter (·.id != id)).find? (·.id == other) =
      vpns.find? (·.id == other) := by
  rw [List.find?_filter]
  congr 1
  funext vpn
  by_cases ho : vpn.id = other
  · simp [ho, h]
  · simp [ho]

end VpnAttach.Tables
