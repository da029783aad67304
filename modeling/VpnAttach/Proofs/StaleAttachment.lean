import VpnAttach.Proofs.Payload
import VpnAttach.Proofs.ReachAnnounced
import VpnAttach.Proofs.Vpn.Json

/-!
# Stale attachments

The payload that attaches a port depends on the VPNs that reach the port, in
their order, on the port's associations, and on the VPNs that the routes of
these refer to.  When a mutation changes it, the agent should be told something
about the port or its network.

A change of an association always does so.  A change of a VPN does so only as
far as the VPN reaches the port's network or, when it is deleted, the port:
a VPN that is associated with the port alone, or that a route refers to, may be
updated without a word to the port.  The main result says exactly when the
agent is told, and that only such VPNs are passed over.
-/

namespace VpnAttach

open Notification (IsUpdate IsDelete IsAttach IsDetach)

variable {policy : Policy} {topology : Topology} {t t' : Tables} {id : String}
  {port : Port} {sent : List Notification}

/-! ## What the payload of a port depends on -/

/-- What the agent is shown of the VPN with an id. -/
def Tables.shown? (t : Tables) (id : String) : Option Vpn :=
  (t.row? id).map Vpn.shown

theorem Tables.showing_vpn? (t : Tables) : showing t.vpn? = t.shown? := by
  funext id
  rw [showing, vpn?, shown?, Option.map_map]
  rfl

theorem Tables.map_shown_vpnsWithIds (t : Tables) (ids : List String) :
    (t.vpnsWithIds ids).map Vpn.shown = (distinct ids).filterMap t.shown? := by
  rw [vpnsWithIds, List.map_filterMap, ← showing_vpn?]
  rfl

/-- The payload that attaches a port to the VPNs that reach it. -/
def portPayload (policy : Policy) (topology : Topology) (t : Tables) (port : Port) :
    PortPayload :=
  Rules.attachPayload policy topology t port (vpnsOfPort topology t port)

/-- A route of an association with the port refers to the VPN `id`. -/
def LeaksTo (t : Tables) (id : String) (port : Port) : Prop :=
  ∃ a ∈ t.associationsOnPort port.id, ∃ pref, Route.leak id pref ∈ a.terms.routes

theorem portPayload_congr (howners : portOwners topology t port = portOwners topology t' port)
    (hassociations : t.associationsOnPort port.id = t'.associationsOnPort port.id)
    (hshown : ∀ id, ReachesPort topology t id port ∨ LeaksTo t id port →
      t.shown? id = t'.shown? id) :
    portPayload policy topology t port = portPayload policy topology t' port := by
  rw [portPayload, portPayload, vpnsOfPort_eq, vpnsOfPort_eq, Rules.attachPayload,
    Rules.attachPayload, ← hassociations]
  refine PortPayload.attach_congr ?_ fun a ha id pref hroute => ?_
  · rw [Tables.map_shown_vpnsWithIds, Tables.map_shown_vpnsWithIds, ← howners]
    refine List.filterMap_congr fun id hid => hshown id (Or.inl ?_)
    exact mem_portOwners.1 (mem_distinct.1 hid)
  · rw [Tables.showing_vpn?, Tables.showing_vpn?]
    exact hshown id (Or.inr ⟨a, ha, pref, hroute⟩)

/-- If the associations around a port stay as they are, a new payload shows
something new of a VPN. -/
theorem exists_shown?_ne
    (hdiff : portPayload policy topology t port ≠ portPayload policy topology t' port)
    (howners : portOwners topology t port = portOwners topology t' port)
    (hassociations : t.associationsOnPort port.id = t'.associationsOnPort port.id) :
    ∃ id, (ReachesPort topology t id port ∨ LeaksTo t id port) ∧
      t.shown? id ≠ t'.shown? id := by
  refine not_not.1 fun hnone => hdiff ?_
  refine portPayload_congr howners hassociations fun id hid => ?_
  exact not_not.1 fun hne => hnone ⟨id, hid, hne⟩

/-- The owners around a port are those of the associations with its network,
with the network's routers and with the port itself. -/
theorem portOwners_congr
    (hnetworks : (Rows.onTarget port.network t.networks).map (·.owner) =
      (Rows.onTarget port.network t'.networks).map (·.owner))
    (hrouters : ∀ router, ⟨router, port.network⟩ ∈ topology.interfaces →
      (Rows.onTarget router t.routers).map (·.owner) =
        (Rows.onTarget router t'.routers).map (·.owner))
    (hports : (Rows.onTarget port.id t.ports).map (·.owner) =
      (Rows.onTarget port.id t'.ports).map (·.owner)) :
    portOwners topology t port = portOwners topology t' port := by
  rw [portOwners, portOwners, ownersAround, ownersAround, hnetworks, hports]
  congr 2
  refine List.flatMap_congr fun router hrouter => ?_
  exact hrouters router (Topology.mem_routersOf.1 hrouter)

/-- Associations of other networks are not part of the payload. -/
theorem portPayload_networks {networks : List NetworkAssociation}
    (h : Rows.onTarget port.network networks = Rows.onTarget port.network t.networks) :
    portPayload policy topology t port =
      portPayload policy topology { t with networks := networks } port := by
  refine portPayload_congr ?_ rfl fun _ _ => rfl
  exact portOwners_congr (by rw [h]) (fun _ _ => rfl) rfl

/-- Of router associations, only the owners of those with the network's routers
are part of the payload. -/
theorem portPayload_routers {routers : List RouterAssociation}
    (h : ∀ router, ⟨router, port.network⟩ ∈ topology.interfaces →
      (Rows.onTarget router routers).map (·.owner) =
        (Rows.onTarget router t.routers).map (·.owner)) :
    portPayload policy topology t port =
      portPayload policy topology { t with routers := routers } port := by
  refine portPayload_congr ?_ rfl fun _ _ => rfl
  exact portOwners_congr rfl (fun router hplugged => (h router hplugged).symm) rfl

/-- Associations of other ports are not part of the payload. -/
theorem portPayload_ports {ports : List PortAssociation}
    (h : Rows.onTarget port.id ports = Rows.onTarget port.id t.ports) :
    portPayload policy topology t port =
      portPayload policy topology { t with ports := ports } port := by
  refine portPayload_congr ?_ h.symm fun _ _ => rfl
  exact portOwners_congr rfl (fun _ _ => rfl) (by rw [h])

/-! ## Which associations matter to a port

Where only associations with one target are others than before, a new payload is that of
a port which the target is about. -/

section Target

variable {target : String}

theorem network_of_payload_ne {networks : List NetworkAssociation}
    (hkept : ∀ network, target ≠ network →
      Rows.onTarget network networks = Rows.onTarget network t.networks)
    (hdiff : portPayload policy topology t port ≠
      portPayload policy topology { t with networks := networks } port) :
    port.network = target :=
  not_not.1 fun hother => hdiff (portPayload_networks (hkept port.network (Ne.symm hother)))

theorem plugged_of_payload_ne {routers : List RouterAssociation}
    (hkept : ∀ router, target ≠ router →
      Rows.onTarget router routers = Rows.onTarget router t.routers)
    (hdiff : portPayload policy topology t port ≠
      portPayload policy topology { t with routers := routers } port) :
    ⟨target, port.network⟩ ∈ topology.interfaces := by
  refine not_not.1 fun hunplugged => hdiff (portPayload_routers fun router hplugged => ?_)
  have hne : target ≠ router := by
    intro hsame
    rw [hsame] at hunplugged
    exact hunplugged hplugged
  rw [hkept router hne]

theorem port_of_payload_ne {ports : List PortAssociation}
    (hkept : ∀ id, target ≠ id → Rows.onTarget id ports = Rows.onTarget id t.ports)
    (hdiff : portPayload policy topology t port ≠
      portPayload policy topology { t with ports := ports } port) :
    target = port.id :=
  not_not.1 fun hother => hdiff (portPayload_ports (hkept port.id hother))

end Target

/-! ## What the agent is told -/

/-- The agent is told something about the port or its network. -/
def Announced (sent : List Notification) (port : Port) : Prop :=
  Sends sent (IsAttach port.id) ∨ Sends sent (IsDetach port.id) ∨
    ∃ id, Sends sent (IsUpdate id port.network) ∨ Sends sent (IsDelete id port.network)

theorem ToldOfDeparture.announced (h : ToldOfDeparture sent id port) :
    Announced sent port := by
  rcases h with h | h | h
  · exact Or.inr (Or.inr ⟨id, Or.inr h⟩)
  · exact Or.inl h
  · exact Or.inr (Or.inl h)

/-- The mutation is about a VPN that is out of the port's sight: it is new, or
it is updated and does not reach the port's network, or it is deleted and does
not reach the port. -/
def Mutation.Unheard (topology : Topology) (t : Tables) (port : Port) : Mutation → Prop
  | .createVpn _ => True
  | .updateVpn id _ => ¬Reaches topology t id port.network
  | .deleteVpn id => ¬ReachesPort topology t id port
  | _ => False

namespace Rules

theorem not_announced_vpnCreated (request : VpnRequest) :
    ¬Announced (plan policy topology t (.vpnCreated (request.toVpn id))).sent port := by
  simp [Announced, not_sends_plan_vpnCreated]

section Owner

variable {owner : String} {networks : List String}

/-- A VPN that is updated on networks is told of on each that has an active port. -/
theorem announced_aboutOwner_update (howner : owner ∈ t.vpnIds)
    (hmem : port.network ∈ networks)
    (hactive : topology.hasActivePort port.network = true) :
    Announced (aboutOwner t owner fun vpn => [pushUpdates policy topology vpn networks]).sent
      port :=
  Or.inr (Or.inr ⟨owner, Or.inl ((updates_aboutOwner howner).2 ⟨rfl, hmem, hactive⟩)⟩)

/-- So is a VPN that is withdrawn from them. -/
theorem announced_aboutOwner_withdraw (ht : t.Owned) (howner : owner ∈ t.vpnIds)
    (hmem : port.network ∈ networks)
    (hactive : topology.hasActivePort port.network = true) :
    Announced (aboutOwner t owner fun vpn => withdraw policy topology t vpn networks).sent
      port :=
  Or.inr (Or.inr ⟨owner, told_aboutOwner_withdraw ht howner hmem hactive⟩)

end Owner

/-- A refreshed port that is heeded is told of. -/
theorem announced_refreshPort (hport : topology.port? port.id = some port)
    (hheeded : Heeded policy topology port) :
    Announced (Plan.sent [refreshPort policy topology t port.id]) port := by
  rw [Announced, sends_sent_cons, sends_sent_cons]
  rcases told_refreshPort (t := t) hport hheeded with h | h
  · exact Or.inl (Or.inl h)
  · exact Or.inr (Or.inl (Or.inl h))

end Rules

/-! ## Mutations of VPNs -/

namespace Tables

variable {row : Vpn} {changes : VpnUpdate}

theorem shown?_createVpn {new : Vpn} {other : String}
    (hne : t.shown? other ≠ shown? { t with vpns := t.vpns ++ [new] } other) :
    other = new.id ∧ other ∉ t.vpnIds := by
  constructor
  · refine not_not.1 fun hother => hne ?_
    rw [shown?, shown?, row?, row?, find?_append_of_ne fun h => hother h.symm]
  · intro hstored
    obtain ⟨row, hrow⟩ := exists_row?_iff.2 hstored
    refine hne ?_
    have hkept : row? { t with vpns := t.vpns ++ [new] } other = some row := by
      rw [row?, List.find?_append, ← row?, hrow, Option.some_or]
    rw [shown?, shown?, hrow, hkept]

theorem shown?_updateVpn {other : String} (hrow : t.row? id = some row)
    (hne : t.shown? other ≠
      shown? { t with vpns := updateRow id changes t.vpns } other) :
    other = id ∧ (changes.apply row).shown ≠ row.shown := by
  have hother : other = id := by
    refine not_not.1 fun hother => hne ?_
    rw [shown?, shown?, row?, row?, find?_updateRow_of_ne hother]
  subst hother
  refine ⟨rfl, fun hsame => hne ?_⟩
  rw [shown?, shown?, hrow, row?_updateVpn hrow, Option.map_some, Option.map_some, hsame]

theorem shown?_without {other : String} (hne : t.shown? other ≠ (t.without id).shown? other) :
    other = id := by
  refine not_not.1 fun hother => hne ?_
  rw [shown?, shown?, row?_without hother]

/-- A VPN that does not reach a port leaves no gap around it. -/
theorem around_without (hno : ¬ReachesPort topology t id port) :
    portOwners topology t port = portOwners topology (t.without id) port ∧
      t.associationsOnPort port.id = (t.without id).associationsOnPort port.id := by
  have hnetworks : ¬Rows.Joined t.networks id port.network :=
    fun h => hno (Or.inl (reaches_iff.2 (Or.inl h)))
  have hports : ¬Rows.Joined t.ports id port.id := fun h => hno (Or.inr h)
  have hassociations : Rows.onTarget port.id (Rows.removeOwned id t.ports) =
      Rows.onTarget port.id t.ports := Rows.onTarget_removeOwned hports
  refine ⟨portOwners_congr ?_ (fun router hplugged => ?_) ?_, hassociations.symm⟩
  · rw [without_networks, Rows.onTarget_removeOwned hnetworks]
  · rw [without_routers, Rows.onTarget_removeOwned]
    exact fun h => hno (Or.inl (reaches_iff.2 (Or.inr ⟨router, h, hplugged⟩)))
  · rw [without_ports, hassociations]

end Tables

/-- What is shown of a VPN changes only with its targets. -/
theorem VpnUpdate.touches_of_shown {changes : VpnUpdate} {row : Vpn}
    (hne : (changes.apply row).shown ≠ row.shown) (t : Tables) :
    (Difference.between (t.fill (changes.apply row)).toJson
      (t.fill row).toJson).touches Rules.vpnKeys = true := by
  refine Vpn.touches_iff.2 (not_not.1 fun hsame => hne ?_)
  simp only [not_or, not_not] at hsame
  obtain ⟨htargets, himports, hexports, -⟩ := hsame
  have htargets : (changes.apply row).routeTargets = row.routeTargets := htargets
  have himports : (changes.apply row).importTargets = row.importTargets := himports
  have hexports : (changes.apply row).exportTargets = row.exportTargets := hexports
  rw [Vpn.shown, Vpn.shown, htargets, himports, hexports]
  rfl

namespace Rules

/-- An updated VPN whose targets changed is told of on the port's network if it
reaches that, and nothing else is told to the port. -/
theorem announced_vpnUpdated_iff {row : Vpn} {changes : VpnUpdate}
    (hport : topology.port? port.id = some port)
    (hheeded : Heeded policy topology port)
    (hne : (changes.apply row).shown ≠ row.shown) :
    Announced (plan policy topology t'
      (.vpnUpdated (t.fill row) (t.fill (changes.apply row)))).sent port ↔
      Reaches topology t row.id port.network := by
  have hactive := Topology.hasActivePort_of_port? hport hheeded.2
  have hmem : port.network ∈ networksOf topology (t.fill (changes.apply row)) ↔
      Reaches topology t row.id port.network := mem_networksOf_fill
  simp only [plan, if_pos (VpnUpdate.touches_of_shown hne t), Announced, sends_sent_cons,
    not_sends_sent_nil, or_false, updates_pushUpdates, not_deletes_pushUpdates, hmem, hactive,
    and_true]
  constructor
  · intro hcases
    rcases hcases with h | h | ⟨_, -, h⟩
    · simp [sends_pushUpdates, IsAttach] at h
    · simp [sends_pushUpdates, IsDetach] at h
    · exact h
  · exact fun h => Or.inr (Or.inr ⟨_, rfl, h⟩)

/-- What is told of a deleted VPN concerns the ports that it reached. -/
theorem reachesPort_of_announced {row : Vpn}
    (h : Announced (plan policy topology t' (.vpnDeleted (t.fill row))).sent port) :
    ReachesPort topology t row.id port := by
  have hrefreshed (q : String) (hq : q ∈ (t.fill row).ports)
      (hsent : Sends (refreshPort policy topology t' q) (IsAttach port.id) ∨
        Sends (refreshPort policy topology t' q) (IsDetach port.id)) :
      ReachesPort topology t row.id port := by
    obtain rfl := id_of_refreshPort hsent
    exact Or.inr (Rows.mem_targetsOf.1 hq)
  simp only [plan, Announced, sends_sent_cons, sends_sent_map] at h
  rcases h with (h | ⟨q, hq, h⟩) | (h | ⟨q, hq, h⟩) | ⟨_, (h | ⟨_, _, h⟩) | (h | ⟨_, _, h⟩)⟩
  · simp [sends_pushDeletes, IsAttach] at h
  · exact hrefreshed q hq (Or.inl h)
  · simp [sends_pushDeletes, IsDetach] at h
  · exact hrefreshed q hq (Or.inr h)
  · exact absurd h not_updates_pushDeletes
  · exact absurd h not_updates_refreshPort
  · exact Or.inl (mem_networksOf_fill.1 (deletes_pushDeletes.1 h).2.1)
  · exact absurd h not_deletes_refreshPort

/-- The ports that a deleted VPN reached are told of, and no others. -/
theorem announced_vpnDeleted_iff {row : Vpn} (hrow : t.row? id = some row) (ht : t.Owned)
    (hport : topology.port? port.id = some port) (hheeded : Heeded policy topology port) :
    Announced (plan policy topology (t.without id) (.vpnDeleted (t.fill row))).sent port ↔
      ReachesPort topology t id port := by
  constructor
  · intro h
    rw [← Tables.id_of_row? hrow]
    exact reachesPort_of_announced h
  · intro hreaches
    have hdeletes : t.Stages "" (.deleteVpn id) _ := .deleteVpn hrow
    have htold := hdeletes.told_of_departure ht hport hheeded hreaches not_reachesPort_without
    exact htold.announced

end Rules

/-! ## All mutations -/

namespace Tables.Stages

variable {fresh : String} {m : Mutation} {staged : Staged}

/-- When a mutation changes the payload of a heeded port, the agent is told
unless the mutation is about a VPN out of the port's sight. -/
theorem announced_iff (hm : t.Stages fresh m staged) (ht : t.Owned)
    (hport : topology.port? port.id = some port)
    (hheeded : Rules.Heeded policy topology port)
    (hdiff : portPayload policy topology t port ≠
      portPayload policy topology staged.committed port) :
    Announced (Rules.plan policy topology staged.committed staged.change).sent port ↔
      ¬m.Unheard topology t port := by
  have howned := hm.owned ht
  have hactive := Topology.hasActivePort_of_port? hport hheeded.2
  cases hm with
  | createVpn _ =>
    exact iff_of_false (Rules.not_announced_vpnCreated _) fun h => h trivial
  | updateVpn hrow =>
    obtain ⟨other, -, hne⟩ := exists_shown?_ne hdiff rfl rfl
    obtain ⟨rfl, hshown⟩ := shown?_updateVpn hrow hne
    rw [Rules.announced_vpnUpdated_iff hport hheeded hshown, id_of_row? hrow]
    exact not_not.symm
  | deleteVpn hrow =>
    rw [Rules.announced_vpnDeleted_iff hrow ht hport hheeded]
    exact not_not.symm
  | createNetwork hrow ha =>
    have hnetwork := network_of_payload_ne (fun _ => Rows.onTarget_append) hdiff
    refine iff_of_true ?_ not_false
    exact Rules.announced_aboutOwner_update (owner_of_make hrow ha).2
      (List.mem_singleton.2 hnetwork) hactive
  | deleteNetwork _ ha =>
    have hnetwork := network_of_payload_ne (fun _ => Rows.onTarget_remove ha) hdiff
    refine iff_of_true ?_ not_false
    exact Rules.announced_aboutOwner_withdraw howned (ht.networks _ (Rows.mem_of_find? ha).1)
      (List.mem_singleton.2 hnetwork) hactive
  | createRouter hrow ha =>
    have hplugged := plugged_of_payload_ne (fun _ => Rows.onTarget_append) hdiff
    refine iff_of_true ?_ not_false
    exact Rules.announced_aboutOwner_update (owner_of_make hrow ha).2
      (Topology.mem_networksOf.2 hplugged) hactive
  | updateRouter _ _ =>
    -- The terms of a router association are not part of any payload.
    exact (hdiff (portPayload_routers fun _ _ => Rows.map_owner_onTarget_modify)).elim
  | deleteRouter _ ha =>
    have hplugged := plugged_of_payload_ne (fun _ => Rows.onTarget_remove ha) hdiff
    refine iff_of_true ?_ not_false
    exact Rules.announced_aboutOwner_withdraw howned (ht.routers _ (Rows.mem_of_find? ha).1)
      (Topology.mem_networksOf.2 hplugged) hactive
  | createPort _ _ =>
    have hid := port_of_payload_ne (fun _ => Rows.onTarget_append) hdiff
    refine iff_of_true ?_ not_false
    rw [Rules.plan, hid]
    exact Rules.announced_refreshPort hport hheeded
  | @updatePort _ _ changes _ a _ ha =>
    have hid := port_of_payload_ne (fun _ => Rows.onTarget_modify ha) hdiff
    have hchanged : ¬{ a with terms := changes.apply a.terms } = a := by
      intro hsame
      exact hdiff (by rw [Rows.modify_eq_self ha (congrArg Association.terms hsame)])
    refine iff_of_true ?_ not_false
    rw [Rules.plan, if_neg (mt Association.isEmpty_portToJson_iff.1 hchanged), hid]
    exact Rules.announced_refreshPort hport hheeded
  | deletePort _ ha =>
    have hid := port_of_payload_ne (fun _ => Rows.onTarget_remove ha) hdiff
    refine iff_of_true ?_ not_false
    rw [Rules.plan, hid]
    exact Rules.announced_refreshPort hport hheeded

/-- What the agent misses is a VPN that the port depends on, but not through its
network. -/
theorem cause_of_unheard (hm : t.Stages fresh m staged) (ht : t.Owned)
    (hdiff : portPayload policy topology t port ≠
      portPayload policy topology staged.committed port)
    (hunheard : m.Unheard topology t port) :
    ∃ id, t.row? id ≠ staged.committed.row? id ∧ ¬Reaches topology t id port.network ∧
      (Rows.Joined t.ports id port.id ∨ LeaksTo t id port) := by
  have hrow {id : String} (hne : t.shown? id ≠ staged.committed.shown? id) :
      t.row? id ≠ staged.committed.row? id := by
    intro hsame
    exact hne (by rw [shown?, shown?, hsame])
  cases hm with
  | createVpn _ =>
    obtain ⟨id, hdepends, hne⟩ := exists_shown?_ne hdiff rfl rfl
    have hnew : id ∉ t.vpnIds := (shown?_createVpn hne).2
    refine ⟨id, hrow hne, fun h => hnew (ht.stored_of_reaches h), Or.inr ?_⟩
    exact hdepends.resolve_left fun h => hnew (ht.stored_of_reachesPort h)
  | updateVpn hupdated =>
    obtain ⟨id, hdepends, hne⟩ := exists_shown?_ne hdiff rfl rfl
    obtain ⟨rfl, -⟩ := shown?_updateVpn hupdated hne
    refine ⟨id, hrow hne, hunheard, ?_⟩
    exact hdepends.imp_left fun h => h.resolve_left hunheard
  | @deleteVpn deleted _ _ =>
    have haround := around_without hunheard
    obtain ⟨id, hdepends, hne⟩ := exists_shown?_ne hdiff haround.1 haround.2
    obtain rfl := shown?_without hne
    refine ⟨id, hrow hne, fun h => hunheard (Or.inl h), Or.inr ?_⟩
    exact hdepends.resolve_left hunheard
  | _ => exact hunheard.elim

end Tables.Stages

/-! ## Commands -/

namespace Service

variable {setup : Setup} {s : Service}

/-- When a mutation changes the payload of an active port that is not ignored,
the agent is told about the port or its network, except for mutations of VPNs
out of the port's sight.  Those matter only to ports that are associated with
the VPN itself or have a route to it. -/
theorem attachment_announced_iff (setup : Setup) (commands : List Command) (m : Mutation)
    (hok : ((applyAll setup {} commands).apply setup (.mutate m)).answer.isOk = true) :
    let s := applyAll setup {} commands
    let s' := (s.apply setup (.mutate m)).service
    ∀ port, s.topology.port? port.id = some port → port.status = .active →
      ignoresPort setup.policy s.topology port = false →
      portPayload setup.policy s.topology s.tables port ≠
        portPayload setup.policy s'.topology s'.tables port →
      (Announced (s.sentBy setup (.mutate m)) port ↔
        ¬m.Unheard s.topology s.tables port) ∧
      (m.Unheard s.topology s.tables port →
        ∃ id, s.tables.row? id ≠ s'.tables.row? id ∧
          ¬Reaches s.topology s.tables id port.network ∧
          (Rows.Joined s.tables.ports id port.id ∨ LeaksTo s.tables id port)) := by
  have haccepts := accepts_of_isOk hok
  have howned := owned_applyAll setup commands
  intro s s' port hport hactive hignored hdiff
  have hheeded : Rules.Heeded setup.policy s.topology port :=
    ⟨hignored, by rw [hactive]; rfl⟩
  obtain ⟨staged, hstages, -, htables, htopology, hsent⟩ := haccepts.of_mutate
  simp only [s, s', htables, htopology] at hdiff hport hheeded ⊢
  rw [hsent]
  exact ⟨hstages.announced_iff howned hport hheeded hdiff,
    hstages.cause_of_unheard howned hdiff⟩

/-- A VPN that is associated with an active port and nothing else. -/
def portOnly : List Command := [
  .createPort (Scenario.activePort "port" "net"),
  .mutate (.createVpn (Scenario.vpn .l3 "vpn" [⟨"64512:1", by decide⟩])),
  .mutate (.createPort "vpn" (Scenario.association "a" "port" {}))]

/-- New targets for the VPN. -/
def retarget : Mutation :=
  .updateVpn "vpn" { routeTargets := some [⟨"64512:7", by decide⟩] }

theorem payload_portOnly :
    let s := applyAll .plain {} portOnly
    let s' := (s.apply .plain (.mutate retarget)).service
    let port := Scenario.activePort "port" "net"
    portPayload Setup.plain.policy s.topology s.tables port ≠
      portPayload Setup.plain.policy s'.topology s'.tables port := by
  intro s s' port h
  exact absurd (congrArg PortPayload.targets h) (by decide)

/-- The port keeps the old targets: nothing is sent. -/
theorem silent_portOnly :
    let s := applyAll .plain {} portOnly
    let c := Command.mutate retarget
    let s' := (s.apply .plain c).service
    let port := Scenario.activePort "port" "net"
    Reachable .plain s ∧ (s.apply .plain c).answer.isOk = true ∧
      s.topology.port? port.id = some port ∧ port.status = .active ∧
      ignoresPort Setup.plain.policy s.topology port = false ∧
      portPayload Setup.plain.policy s.topology s.tables port ≠
        portPayload Setup.plain.policy s'.topology s'.tables port ∧
      s.sentBy .plain c = [] :=
  ⟨Reachable.start.applyAll (by decide), by decide, rfl, rfl, by decide, payload_portOnly,
    by decide⟩

theorem attachment_announced_portOnly :
    let s := applyAll .plain {} portOnly
    let port := Scenario.activePort "port" "net"
    (s.apply .plain (.mutate retarget)).answer.isOk = true ∧
      (¬Announced (s.sentBy .plain (.mutate retarget)) port ↔
        ¬Reaches s.topology s.tables "vpn" port.network) := by
  intro s port
  have hok : (s.apply .plain (.mutate retarget)).answer.isOk = true := by decide
  have hiff := (attachment_announced_iff .plain portOnly retarget hok port rfl rfl
    (by decide) payload_portOnly).1
  exact ⟨hok, (not_congr hiff).trans not_not⟩

end Service
end VpnAttach
