import Mathlib.Data.List.Dedup
import VpnAttach.Proofs.Tables.Writing

/-!
# Views of the tables

The associations of a kind can be looked at in four ways: one by one, as the list of
a VPN, from the object they point to, and as the derived list of objects that a VPN
shows.  An `AssociationView` collects the four, and `AssociationView.Agrees` says that they tell the same
story in the same order.

The order is that of creation.  It is stated against the history of all associations
ever made, of which the tables hold what is left: creating an association adds to the
end of both, and no other mutation moves an association (`Stages.ordered`).  An
association that was ended and made again counts from when it was made again.
-/

namespace VpnAttach

/-! ## Order of last addition -/

section InOrder

variable {α : Type} [DecidableEq α] {history items : List α} {x : α}

/-- The items are all different, and they are in the order in which each was last
added to the history. -/
def InOrder (history items : List α) : Prop :=
  items.Sublist history.dedup

namespace InOrder

theorem sublist {kept : List α} (h : InOrder history items) (hkept : kept.Sublist items) :
    InOrder history kept :=
  hkept.trans h

/-- What is added to the items and to the history comes last in both. -/
theorem append (h : InOrder history items) (hnew : x ∉ items) :
    InOrder (history ++ [x]) (items ++ [x]) := by
  induction history generalizing items with
  | nil =>
    obtain rfl := List.sublist_nil.1 h
    exact List.Sublist.refl _
  | cons y history ih =>
    rw [List.cons_append]
    by_cases hagain : y ∈ history ++ [x]
    · -- The addition of `y` is not its last: `y` comes again, or it is the new item.
      rw [InOrder, List.dedup_cons_of_mem hagain]
      refine ih ?_ hnew
      by_cases hy : y ∈ history
      · rw [InOrder, List.dedup_cons_of_mem hy] at h
        exact h
      · obtain rfl : y = x := by simpa [hy] using hagain
        rw [InOrder, List.dedup_cons_of_notMem hy] at h
        exact (List.sublist_cons_iff.1 h).resolve_right fun ⟨_, hitems, _⟩ =>
          hnew (hitems ▸ List.mem_cons_self)
    · have hy : y ∉ history := fun hy => hagain (List.mem_append_left _ hy)
      rw [InOrder, List.dedup_cons_of_notMem hy] at h
      rw [InOrder, List.dedup_cons_of_notMem hagain]
      rcases List.sublist_cons_iff.1 h with hitems | ⟨rest, rfl, hrest⟩
      · exact (ih hitems hnew).cons y
      · exact (ih hrest fun hx => hnew (List.mem_cons_of_mem y hx)).cons_cons y

end InOrder
end InOrder

/-! ## The history of associations -/

/-- The VPN and the object that an association ties together. -/
def Association.tie {τ : Type} (a : Association τ) : String × String :=
  (a.owner, a.target)

/-- The VPN and the object that a mutation ties together with an association of the
given kind. -/
def Mutation.tie? : Attachment → Mutation → Option (String × String)
  | .network, .createNetwork owner request => some (owner, request.target)
  | .router, .createRouter owner request => some (owner, request.target)
  | .port, .createPort owner request => some (owner, request.target)
  | _, _ => none

namespace Tables

variable {t : Tables} {fresh : String} {m : Mutation} {staged : Staged}

/-- What writes tie together with associations of a kind, in the order of the writes.
A write that fails ties nothing together. -/
def ties (kind : Attachment) : Tables → List (String × Mutation) → List (String × String)
  | _, [] => []
  | t, (fresh, m) :: writes =>
    match (Writing.write fresh m).run t with
    | .ok _ t' => (m.tie? kind).toList ++ ties kind t' writes
    | .error _ t' => ties kind t' writes

/-- The associations are in the order in which they were made. -/
structure Ordered (history : Attachment → List (String × String)) (t : Tables) : Prop where
  networks : InOrder (history .network) (t.networks.map Association.tie)
  routers : InOrder (history .router) (t.routers.map Association.tie)
  ports : InOrder (history .port) (t.ports.map Association.tie)

section Rows

variable {τ : Type} {rows : List (Association τ)} {history : List (String × String)}

/-- A new association comes after all others. -/
theorem inOrder_append_make {kind : Attachment} {row : Vpn} {owner : String}
    {request : AssociationRequest τ} {a : Association τ}
    (h : InOrder history (rows.map Association.tie)) (hrow : t.row? owner = some row)
    (ha : Rows.make kind row fresh request rows = .ok a) :
    InOrder (history ++ [(owner, request.target)]) ((rows ++ [a]).map Association.tie) := by
  obtain ⟨hnew, -, hshape⟩ := Rows.make_eq_ok ha
  obtain rfl := id_of_row? hrow
  have htie : a.tie = (row.id, request.target) := by rw [hshape]; rfl
  have hnotMem : a.tie ∉ rows.map Association.tie := by
    intro hmem
    obtain ⟨b, hb, hsame⟩ := List.mem_map.1 hmem
    obtain ⟨howner, htarget⟩ := Prod.mk.inj (hsame.trans htie)
    exact hnew ⟨b, hb, howner, htarget⟩
  rw [List.map_append, List.map_singleton, ← htie]
  exact h.append hnotMem

theorem inOrder_remove {owner id : String} (h : InOrder history (rows.map Association.tie)) :
    InOrder history ((Rows.remove owner id rows).map Association.tie) :=
  h.sublist (List.eraseP_sublist.map _)

theorem inOrder_removeOwned {owner : String} (h : InOrder history (rows.map Association.tie)) :
    InOrder history ((Rows.removeOwned owner rows).map Association.tie) :=
  h.sublist (List.filter_sublist.map _)

theorem inOrder_modify {owner id : String} {change : τ → τ}
    (h : InOrder history (rows.map Association.tie)) :
    InOrder history ((Rows.modify owner id change rows).map Association.tie) := by
  rw [Rows.map_modify _ fun _ _ => rfl]
  exact h

end Rows

variable {history : Attachment → List (String × String)}

/-- A mutation adds what it ties together to the end of the order. -/
theorem Stages.ordered (hm : t.Stages fresh m staged) (h : t.Ordered history) :
    staged.committed.Ordered fun kind => history kind ++ (m.tie? kind).toList := by
  obtain ⟨hnetworks, hrouters, hports⟩ := h
  -- Only a creation adds to the history, and only to that of its own kind.
  constructor <;> cases hm <;>
    simp only [Mutation.tie?, Option.toList_none, Option.toList_some, List.append_nil]
  case networks.createNetwork hrow ha => exact inOrder_append_make hnetworks hrow ha
  case networks.deleteNetwork => exact inOrder_remove hnetworks
  case networks.deleteVpn => exact inOrder_removeOwned hnetworks
  case routers.createRouter hrow ha => exact inOrder_append_make hrouters hrow ha
  case routers.updateRouter => exact inOrder_modify hrouters
  case routers.deleteRouter => exact inOrder_remove hrouters
  case routers.deleteVpn => exact inOrder_removeOwned hrouters
  case ports.createPort hrow ha => exact inOrder_append_make hports hrow ha
  case ports.updatePort => exact inOrder_modify hports
  case ports.deletePort => exact inOrder_remove hports
  case ports.deleteVpn => exact inOrder_removeOwned hports
  all_goals assumption

/-- The associations left after some writes are in the order of the writes. -/
theorem ordered_writeAll (h : t.Ordered history) (writes : List (String × Mutation)) :
    (t.writeAll writes).Ordered fun kind => history kind ++ ties kind t writes := by
  induction writes generalizing t history with
  | nil => simpa [ties, writeAll] using h
  | cons w writes ih =>
    obtain ⟨fresh, m⟩ := w
    rw [writeAll, List.foldl_cons, ← writeAll, Writing.after]
    rcases Writing.write_cases t fresh m with ⟨staged, hstaged, hok⟩ | ⟨_, herror⟩
    · simpa only [ties, hok, List.append_assoc] using ih (hstaged.ordered h)
    · simpa only [ties, herror] using ih h

end Tables

/-! ## Agreement -/

/-- The ways of looking at the associations of one kind. -/
structure AssociationView (τ : Type) where
  get : String → String → Except Refusal (Association τ)
  list : String → Except Refusal (List (Association τ))
  /-- The VPNs associated with an object. -/
  vpnsOn : String → List Vpn
  /-- The objects that a VPN shows. -/
  targets : Vpn → List String

/-- The ways of looking at the associations of one kind agree with one another and with
what is read of each VPN, and what they list is in the order of a history. -/
structure AssociationView.Agrees {τ : Type} (view : AssociationView τ) (getVpn : String → Except Refusal Vpn)
    (history : List (String × String)) : Prop where
  /-- A VPN shows the objects of its associations, one for one; or both are refused. -/
  targets_eq (owner : String) :
    (getVpn owner).map view.targets = (view.list owner).map (·.map (·.target))
  /-- The associations listed for a VPN are its own, in the order of their creation. -/
  list_inOrder (owner : String) (rows : List (Association τ)) (hrows : view.list owner = .ok rows) :
    (∀ a ∈ rows, a.owner = owner) ∧ InOrder history (rows.map Association.tie)
  /-- An association is found exactly if it is listed. -/
  get_eq_ok (owner id : String) (a : Association τ) :
    view.get owner id = .ok a ↔ ∃ rows, view.list owner = .ok rows ∧ a ∈ rows ∧ a.id = id
  /-- A VPN is associated with an object exactly if it shows the object. -/
  mem_vpnsOn (id target : String) :
    id ∈ (view.vpnsOn target).map (·.id) ↔
      ∃ vpn, getVpn id = .ok vpn ∧ target ∈ view.targets vpn
  /-- The VPNs on an object are as they are read. -/
  getVpn_of_mem (target : String) (vpn : Vpn) (hvpn : vpn ∈ view.vpnsOn target) :
    getVpn vpn.id = .ok vpn
  /-- No VPN is on an object twice. -/
  nodup_vpnsOn (target : String) : ((view.vpnsOn target).map (·.id)).Nodup
  /-- The VPNs on an object are in the order in which they were associated with it. -/
  vpnsOn_inOrder (target : String) :
    InOrder history ((view.vpnsOn target).map fun vpn => (vpn.id, target))

namespace Tables

variable {t : Tables}

/-- The ways of looking at the associations with networks. -/
def networkView (t : Tables) : AssociationView Unit :=
  ⟨t.getNetwork, t.listNetworks, t.vpnsOnNetwork, (·.networks)⟩

/-- The ways of looking at the associations with routers. -/
def routerView (t : Tables) : AssociationView RouterTerms :=
  ⟨t.getRouter, t.listRouters, t.vpnsOnRouter, (·.routers)⟩

/-- The ways of looking at the associations with ports. -/
def portView (t : Tables) : AssociationView PortTerms :=
  ⟨t.getPort, t.listPorts, t.vpnsOnPort, (·.ports)⟩

section Part

variable {τ : Type} (part : Part τ) {owner id target : String} {a : Association τ}
  {rows : List (Association τ)}

/-- The associations of a VPN in one of the tables. -/
def listPart (t : Tables) (owner : String) : Except Refusal (List (Association τ)) := do
  let _ ← t.row owner
  return Rows.ownedBy owner (part.rows t)

/-- The ways of looking at one of the association tables. -/
def viewOf (t : Tables) (targets : Vpn → List String) :
    AssociationView τ where
  get owner id := part.get owner id t
  list := t.listPart part
  vpnsOn target := t.vpnsWithIds ((Rows.onTarget target (part.rows t)).map (·.owner))
  targets := targets

theorem listPart_eq_ok :
    t.listPart part owner = .ok rows ↔
      (∃ row, t.row? owner = some row) ∧ rows = Rows.ownedBy owner (part.rows t) := by
  simp only [listPart, bind_eq_ok, row_eq_ok, pure_eq_ok]
  grind

theorem getPart_eq_ok (hids : ((part.rows t).map (·.id)).Nodup) :
    part.get owner id t = .ok a ↔
      (∃ row, t.row? owner = some row) ∧ a ∈ part.rows t ∧ a.owner = owner ∧ a.id = id := by
  simp only [Part.get, bind_eq_ok, row_eq_ok, Rows.find_eq_ok, Rows.find?_isAt_eq_some hids]
  grind

/-- The ways of looking at a table agree, if its rows are in order, unique, and owned by
stored VPNs. -/
theorem agrees_viewOf {targets : Vpn → List String} {history : List (String × String)}
    (hfill : ∀ vpn, targets (t.fill vpn) = Rows.targetsOf vpn.id (part.rows t))
    (hunique : Rows.Unique (part.rows t)) (howned : Rows.Owned t.vpnIds (part.rows t))
    (horder : InOrder history ((part.rows t).map Association.tie)) :
    (t.viewOf part targets).Agrees t.getVpn history where
  targets_eq owner := by
    simp only [viewOf, listPart, getVpn, row]
    cases hrow : t.row? owner with
    | none => rfl
    | some vpn =>
      obtain rfl := id_of_row? hrow
      exact congrArg Except.ok (hfill vpn)
  list_inOrder owner rows hrows := by
    obtain ⟨-, rfl⟩ := (listPart_eq_ok part).1 hrows
    constructor
    · intro a ha
      exact beq_iff_eq.1 (List.mem_filter.1 ha).2
    · exact horder.sublist (List.filter_sublist.map _)
  get_eq_ok owner id a := by
    simp only [viewOf, getPart_eq_ok part hunique.ids, listPart_eq_ok, Rows.ownedBy]
    grind
  mem_vpnsOn id target := by
    simp only [viewOf, mem_map_id_vpnsWithIds, Rows.mem_map_owner_onTarget, getVpn_eq_ok]
    constructor
    · intro h
      obtain ⟨hjoined, hid⟩ := h
      obtain ⟨row, hrow⟩ := exists_row?_iff.2 hid
      refine ⟨t.fill row, vpn?_of_row? hrow, ?_⟩
      rw [hfill, id_of_row? hrow]
      exact Rows.mem_targetsOf.2 hjoined
    · intro h
      obtain ⟨vpn, hvpn, htarget⟩ := h
      obtain ⟨row, hrow, rfl⟩ := Option.map_eq_some_iff.1 hvpn
      rw [hfill, id_of_row? hrow] at htarget
      obtain ⟨a, ha, howner, htarget⟩ := Rows.mem_targetsOf.1 htarget
      exact ⟨⟨a, ha, howner, htarget⟩, howner ▸ howned a ha⟩
  getVpn_of_mem target vpn hvpn := getVpn_eq_ok.2 (mem_vpnsWithIds.1 hvpn).2
  nodup_vpnsOn target := nodup_map_id_vpnsWithIds _ _
  vpnsOn_inOrder target := by
    -- The VPNs come in the order of their ids, and those in the order of the rows.
    have hids := (map_id_vpnsWithIds_sublist t
      ((Rows.onTarget target (part.rows t)).map (·.owner))).map (·, target)
    have hties : ((Rows.onTarget target (part.rows t)).map (·.owner)).map (·, target) =
        (Rows.onTarget target (part.rows t)).map Association.tie := by
      rw [List.map_map]
      refine List.map_congr_left fun a ha => ?_
      have htarget : a.target = target := beq_iff_eq.1 (List.mem_filter.1 ha).2
      rw [Association.tie, htarget]
      rfl
    rw [hties, List.map_map] at hids
    exact horder.sublist (hids.trans (List.filter_sublist.map _))

end Part

/-- The associations with a port are those that are listed for some VPN. -/
theorem mem_associationsOnPort (howned : Rows.Owned t.vpnIds t.ports) {port : String}
    {a : PortAssociation} :
    a ∈ t.associationsOnPort port ↔
      a.target = port ∧ ∃ rows, t.listPorts a.owner = .ok rows ∧ a ∈ rows := by
  have hlist (rows : List PortAssociation) : t.listPorts a.owner = .ok rows ↔
      (∃ row, t.row? a.owner = some row) ∧ rows = Rows.ownedBy a.owner t.ports :=
    listPart_eq_ok Part.ports
  simp only [associationsOnPort, Rows.onTarget, Rows.ownedBy, hlist, List.mem_filter,
    beq_iff_eq]
  constructor
  · intro h
    obtain ⟨ha, htarget⟩ := h
    exact ⟨htarget, _, ⟨exists_row?_iff.2 (howned a ha), rfl⟩,
      List.mem_filter.2 ⟨ha, beq_self_eq_true _⟩⟩
  · intro h
    obtain ⟨htarget, _, ⟨-, rfl⟩, ha⟩ := h
    exact ⟨(List.mem_filter.1 ha).1, htarget⟩

/-- After any sequence of writes to empty tables the ways of looking at each kind of
association agree, and the associations with a port are exactly those listed for some
VPN, each once and in the order of their creation. -/
theorem views_writeAll (writes : List (String × Mutation)) (hfresh : FreshAlong {} writes) :
    let t := writeAll {} writes
    t.networkView.Agrees t.getVpn (ties .network {} writes) ∧
    t.routerView.Agrees t.getVpn (ties .router {} writes) ∧
    t.portView.Agrees t.getVpn (ties .port {} writes) ∧
    ∀ port,
      (∀ a, a ∈ t.associationsOnPort port ↔
        a.target = port ∧ ∃ rows, t.listPorts a.owner = .ok rows ∧ a ∈ rows) ∧
      InOrder (ties .port {} writes) ((t.associationsOnPort port).map Association.tie) := by
  intro t
  have hsound : t.Sound :=
    writeAll_of_stages sound_empty (fun _ _ _ _ h hnow hstaged => hstaged.sound h hnow) hfresh
  have hempty : Ordered (fun _ => []) {} :=
    ⟨List.nil_sublist _, List.nil_sublist _, List.nil_sublist _⟩
  obtain ⟨hnetworks, hrouters, hports⟩ := ordered_writeAll hempty writes
  refine ⟨?_, ?_, ?_, fun port => ⟨fun a => mem_associationsOnPort hsound.ports, ?_⟩⟩
  · exact agrees_viewOf Part.networks (fun _ => rfl) hsound.uniqueNetworks hsound.networks
      hnetworks
  · exact agrees_viewOf Part.routers (fun _ => rfl) hsound.uniqueRouters hsound.routers
      hrouters
  · exact agrees_viewOf Part.ports (fun _ => rfl) hsound.uniquePorts hsound.ports hports
  · exact InOrder.sublist hports (List.filter_sublist.map _)

/-- Two VPNs on a network.  The second cannot join it twice, the first leaves it and
joins it again. -/
def rejoined : List (String × Mutation) := [
  ("v1", .createVpn { tenant := "tenant" }),
  ("v2", .createVpn { tenant := "tenant" }),
  ("a1", .createNetwork "v1" { target := "net", terms := () }),
  ("a2", .createNetwork "v2" { target := "net", terms := () }),
  ("a3", .createNetwork "v2" { target := "net", terms := () }),
  ("", .deleteNetwork "v1" "a1"),
  ("a1", .createNetwork "v1" { target := "net", terms := () })]

theorem views_writeAll_rejoined :
    let t := writeAll {} rejoined
    FreshAlong {} rejoined ∧ t.networkView.Agrees t.getVpn (ties .network {} rejoined) ∧
      ties .network {} rejoined = [("v1", "net"), ("v2", "net"), ("v1", "net")] ∧
      (t.vpnsOnNetwork "net").map (·.id) = ["v2", "v1"] := by
  have hfresh : FreshAlong {} rejoined := by decide
  obtain ⟨hnetworks, -, -, -⟩ := views_writeAll rejoined hfresh
  exact ⟨hfresh, hnetworks, by decide, by decide⟩

end Tables
end VpnAttach
