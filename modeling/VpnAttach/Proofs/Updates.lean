import VpnAttach.Proofs.AttachPayload
import VpnAttach.Proofs.Redundancy
import VpnAttach.Proofs.Tables.Request
import VpnAttach.Proofs.Vpn.Json
import VpnAttach.Scenario.Samples

/-!
# What updates tell

The agent hears of an update if something changed that it is shown, and hears nothing
otherwise.  An update leaves the associations of a VPN as they are, so of the attributes
that matter only the targets can be different; a router association has a single term,
and of a port association everything counts.

What is told is told once and with the new values: one update for each network with an
active port that the VPN reaches, or that the router is plugged into, and one attachment
of a port (`updates_told`).  What the payloads say is spelled out in `VpnContent` and
`AttachContent`.
-/

namespace VpnAttach

variable {policy : Policy} {topology : Topology} {t : Tables} {vpn : Vpn}
  {networks : List String} {id : String} {sent : List Notification}

/-- Two VPNs have the same targets, in the same order. -/
def Vpn.SameTargets (x y : Vpn) : Prop :=
  x.routeTargets = y.routeTargets ∧ x.importTargets = y.importTargets ∧
    x.exportTargets = y.exportTargets

instance (x y : Vpn) : Decidable (x.SameTargets y) :=
  inferInstanceAs (Decidable (_ ∧ _ ∧ _))

/-- What is sent is one update of a VPN for each of some networks that has an active port,
in order.  The networks are those that are `Reached`, each once. -/
structure UpdatesEach (policy : Policy) (topology : Topology) (vpn : Vpn)
    (Reached : String → Prop) (networks : List String) (sent : List Notification) :
    Prop where
  reached : ∀ network, network ∈ networks ↔ Reached network
  once : networks.Nodup
  each : List.Forall₂
    (fun network n => ∃ payload,
      n = .update payload ∧ VpnContent policy.emitted vpn network payload)
    (networks.filter fun network =>
      ∃ port ∈ topology.ports, port.network = network ∧ port.status = .active) sent

/-- What is sent is one attachment of the port with an id, if the port is known, active and
not ignored. -/
inductive AttachesHeeded (policy : Policy) (topology : Topology) (t : Tables) (id : String) :
    List Notification → Prop where
  | heeded {port : Port} {payload : PortPayload} (known : topology.port? id = some port)
    (active : port.status = .active) (noticed : ignoresPort policy topology port = false)
    (about : payload.id = id ∧ payload.network = port.network)
    (content : AttachContent policy.emitted topology t port (vpnsOfPort topology t port)
      payload) :
    AttachesHeeded policy topology t id [.attach payload port.host]
  | unheeded (h : ∀ port, topology.port? id = some port →
      ¬(port.status = .active ∧ ignoresPort policy topology port = false)) :
    AttachesHeeded policy topology t id []

namespace Rules

/-- A plan of one batch that is dropped under a condition. -/
theorem sent_unless {p q : Prop} [Decidable p] [Decidable q] (h : p ↔ q)
    (batch : List Notification) :
    Plan.sent (if p then [] else [batch]) = if q then [] else batch := by
  by_cases hq : q
  · rw [if_pos (h.2 hq), if_pos hq]
    rfl
  · rw [if_neg fun hp => hq (h.1 hp), if_neg hq, Plan.sent, List.flatten_singleton]

theorem updatesEach_pushUpdates {Reached : String → Prop}
    (hreached : ∀ network, network ∈ networks ↔ Reached network) (honce : networks.Nodup) :
    UpdatesEach policy topology vpn Reached networks
      (pushUpdates policy topology vpn networks) where
  reached := hreached
  once := honce
  each := by
    have hactive : (networks.filter fun network =>
        ∃ port ∈ topology.ports, port.network = network ∧ port.status = .active) =
        networks.filter topology.hasActivePort := by
      refine List.filter_congr fun network _ => Bool.eq_iff_iff.2 ?_
      rw [decide_eq_true_iff, Topology.hasActivePort_eq_true]
    rw [hactive, pushUpdates, List.forall₂_map_right_iff]
    exact List.forall₂_same.2 fun network _ => ⟨_, rfl, vpnContent_make _ vpn network⟩

/-- A VPN that is still associated with the same objects is announced if its targets are
different. -/
theorem sent_vpnUpdated {old new : Vpn} (hnetworks : new.networks = old.networks)
    (hrouters : new.routers = old.routers) :
    (plan policy topology t (.vpnUpdated old new)).sent =
      if new.SameTargets old then [] else pushUpdates policy topology new
        (networksOf topology new) := by
  have htouches : ¬(Difference.between new.toJson old.toJson).touches vpnKeys = true ↔
      new.SameTargets old := by
    rw [Vpn.touches_iff, hnetworks, hrouters, Vpn.SameTargets]
    tauto
  rw [plan, ← ite_not]
  exact sent_unless htouches _

theorem sent_routerUpdated {old new : RouterAssociation}
    (hvpn : t.vpn? new.owner = some vpn) :
    (plan policy topology t (.routerUpdated old new)).sent =
      if new.terms = old.terms then [] else pushUpdates policy topology vpn
        (topology.networksOf new.target) := by
  rw [plan, aboutOwner, hvpn, ← ite_not]
  exact sent_unless (not_iff_comm.1 Association.touches_routerToJson_iff.symm) _

theorem sent_portUpdated {old new : PortAssociation} :
    (plan policy topology t (.portUpdated old new)).sent =
      if new = old then [] else refreshPort policy topology t new.target := by
  rw [plan]
  exact sent_unless Association.isEmpty_portToJson_iff _

/-- A port with an association is attached, not detached, when it is refreshed. -/
theorem attachesHeeded_refreshPort (ht : t.Owned) {owner : String}
    (hjoined : Rows.Joined t.ports owner id) :
    AttachesHeeded policy topology t id (refreshPort policy topology t id) := by
  rw [refreshPort]
  cases hport : topology.port? id with
  | none =>
    refine .unheeded fun port h => ?_
    rw [hport] at h
    cases h
  | some port =>
    have hreached : vpnsOfPort topology t port ≠ [] := by
      intro hnil
      refine ht.vpnsOfPort_eq_nil.1 hnil owner (Or.inr ?_)
      rwa [Topology.id_of_port? hport]
    by_cases hheeded : port.status = .active ∧ ignoresPort policy topology port = false
    · obtain ⟨hactive, hnoticed⟩ := hheeded
      have hattach := AttachesHeeded.heeded hport hactive hnoticed
        ⟨Topology.id_of_port? hport, rfl⟩ (ht.attachContent policy topology port)
      simpa [hactive, hnoticed, hreached, PortStatus.isActive] using hattach
    · have hskip : (ignoresPort policy topology port || !port.status.isActive) = true := by
        cases hignored : ignoresPort policy topology port with
        | true => rfl
        | false =>
          have hinactive : port.status ≠ .active := fun h => hheeded ⟨h, hignored⟩
          simp [PortStatus.isActive, hinactive]
      simp only [hskip, if_true]
      refine .unheeded fun other hother => ?_
      obtain rfl := Option.some.inj (hport.symm.trans hother)
      exact hheeded

end Rules

/-! ## Updates that are carried out -/

namespace Service

variable {setup : Setup} {s : Service} {owner : String} {reply : Reply}

/-- A VPN is given new values, and announced with them if its targets are different than
before. -/
def TellsOfVpn (setup : Setup) (s : Service) (id : String) (changes : VpnUpdate)
    (reply : Reply) : Prop :=
  ∃ old new, s.tables.getVpn id = .ok old ∧ changes.Gives old new ∧ reply = .vpn new ∧
    let sent := s.sentBy setup (.mutate (.updateVpn id changes))
    if new.SameTargets old then sent = []
    else UpdatesEach setup.policy s.topology new (Reaches s.topology s.tables id)
      (networksOf s.topology new) sent

/-- A router association is given new terms, and its VPN is announced behind the router if
they are different than before. -/
def TellsOfRouter (setup : Setup) (s : Service) (owner id : String)
    (changes : RouterTermsUpdate) (reply : Reply) : Prop :=
  ∃ old new vpn, s.tables.getRouter owner id = .ok old ∧ changes.Gives old new ∧
    s.tables.getVpn owner = .ok vpn ∧ reply = .router new ∧
    let sent := s.sentBy setup (.mutate (.updateRouter owner id changes))
    if new.terms.advertiseExtraRoutes = old.terms.advertiseExtraRoutes then sent = []
    else UpdatesEach setup.policy s.topology vpn
      (fun network => ⟨new.target, network⟩ ∈ s.topology.interfaces)
      (s.topology.networksOf new.target) sent

/-- A port association is given new terms, and its port is attached anew if it is different
than before. -/
def TellsOfPort (setup : Setup) (s : Service) (owner id : String) (changes : PortTermsUpdate)
    (reply : Reply) : Prop :=
  ∃ old new, s.tables.getPort owner id = .ok old ∧ changes.Gives old new ∧
    reply = .port new ∧
    let update := Command.mutate (.updatePort owner id changes)
    let sent := s.sentBy setup update
    if new = old then sent = []
    else AttachesHeeded setup.policy s.topology (s.apply setup update).service.tables
      new.target sent

theorem tellsOfVpn_of_ok {changes : VpnUpdate}
    (h : (s.apply setup (.mutate (.updateVpn id changes))).answer = .ok reply) :
    TellsOfVpn setup s id changes reply := by
  obtain ⟨staged, hstages, hcheck, rfl⟩ := exists_stages_of_ok h
  have hsent := sentBy_of_check_ok hstages hcheck
  cases hstages with
  | @updateVpn _ _ row hrow =>
    refine ⟨_, _, Tables.getVpn_eq_ok.2 (Tables.vpn?_of_row? hrow),
      changes.gives_fill s.tables row, rfl, ?_⟩
    have htold := hsent.trans (Rules.sent_vpnUpdated rfl rfl)
    split
    · rename_i hsame
      exact htold.trans (if_pos hsame)
    · rename_i hdiffers
      rw [htold.trans (if_neg hdiffers), ← Tables.id_of_row? hrow]
      exact Rules.updatesEach_pushUpdates (fun _ => mem_networksOf_fill) (nodup_networksOf _ _)

theorem tellsOfRouter_of_ok {changes : RouterTermsUpdate}
    (hinterfaces : s.topology.interfaces.Nodup)
    (h : (s.apply setup (.mutate (.updateRouter owner id changes))).answer = .ok reply) :
    TellsOfRouter setup s owner id changes reply := by
  obtain ⟨staged, hstages, hcheck, rfl⟩ := exists_stages_of_ok h
  have hsent := sentBy_of_check_ok hstages hcheck
  cases hstages with
  | @updateRouter _ _ _ row a hrow ha =>
    have hold := Tables.getRouter_eq_ok.2 ⟨⟨row, hrow⟩, ha⟩
    have hvpn := Tables.getVpn_eq_ok.2 (Tables.vpn?_of_row? hrow)
    refine ⟨a, _, s.tables.fill row, hold, changes.gives_apply a, hvpn, rfl, ?_⟩
    obtain ⟨-, howner, -⟩ := Rows.mem_of_find? ha
    -- the VPN has the routers it had, although it is read from the new tables
    let committed : Tables := { s.tables with
      routers := Rows.modify owner id changes.apply s.tables.routers }
    have hfill : committed.fill row = s.tables.fill row := by simp [committed, Tables.fill]
    have hcommitted : committed.vpn? a.owner = some (s.tables.fill row) := by
      rw [howner, ← hfill]
      exact Tables.vpn?_of_row? hrow
    have htold := hsent.trans (Rules.sent_routerUpdated hcommitted)
    split
    · rename_i hsame
      exact htold.trans (if_pos (congrArg RouterTerms.mk hsame))
    · rename_i hdiffers
      have hterms := fun h => hdiffers (congrArg RouterTerms.advertiseExtraRoutes h)
      rw [htold.trans (if_neg hterms)]
      exact Rules.updatesEach_pushUpdates (fun _ => Topology.mem_networksOf)
        (Topology.nodup_networksOf hinterfaces _)

theorem tellsOfPort_of_ok {changes : PortTermsUpdate} (howned : s.tables.Owned)
    (h : (s.apply setup (.mutate (.updatePort owner id changes))).answer = .ok reply) :
    TellsOfPort setup s owner id changes reply := by
  obtain ⟨staged, hstages, hcheck, rfl⟩ := exists_stages_of_ok h
  have hsent := sentBy_of_check_ok hstages hcheck
  obtain ⟨-, htables, -⟩ := mutate_of_check_ok hstages hcheck
  have hcommitted := hstages.owned howned
  cases hstages with
  | @updatePort _ _ _ row a hrow ha =>
    refine ⟨a, _, Tables.getPort_eq_ok.2 ⟨⟨row, hrow⟩, ha⟩, changes.gives_apply a, rfl, ?_⟩
    obtain ⟨hmem, howner, -⟩ := Rows.mem_of_find? ha
    have hjoined : Rows.Joined (Rows.modify owner id changes.apply s.tables.ports) owner
        a.target :=
      Rows.joined_modify.2 ⟨a, hmem, howner, rfl⟩
    have htold := hsent.trans Rules.sent_portUpdated
    split
    · rename_i hsame
      exact htold.trans (if_pos hsame)
    · rename_i hdiffers
      dsimp only
      rw [htold.trans (if_neg hdiffers), htables]
      exact Rules.attachesHeeded_refreshPort hcommitted hjoined

/-- After every run, an update that succeeds tells the agent of what it changes, and of
nothing else. -/
theorem updates_told (setup : Setup) (commands : List Command) :
    let s := applyAll setup {} commands
    (∀ id changes reply,
      (s.apply setup (.mutate (.updateVpn id changes))).answer = .ok reply →
        TellsOfVpn setup s id changes reply) ∧
    (∀ owner id changes reply,
      (s.apply setup (.mutate (.updateRouter owner id changes))).answer = .ok reply →
        TellsOfRouter setup s owner id changes reply) ∧
    (∀ owner id changes reply,
      (s.apply setup (.mutate (.updatePort owner id changes))).answer = .ok reply →
        TellsOfPort setup s owner id changes reply) := by
  have hinterfaces := (unrepeated_applyAll setup commands).interfaces
  have howned := owned_applyAll setup commands
  exact ⟨fun _ _ _ h => tellsOfVpn_of_ok h, fun _ _ _ _ h => tellsOfRouter_of_ok hinterfaces h,
    fun _ _ _ _ h => tellsOfPort_of_ok howned h⟩

theorem isText_oldTarget : RouteTarget.isText "64512:1".toList = true := by
  decide

/-- A VPN that reaches a network with an active port in all three ways. -/
def reachedThrice : List Command := [
  .createPort (Scenario.activePort "p1" "n1"),
  .addInterface "r1" "n1",
  .mutate (.createVpn (Scenario.vpn .l3 "v1" [⟨"64512:1", isText_oldTarget⟩])),
  .mutate (.createNetwork "v1" (Scenario.association "a1" "n1" ())),
  .mutate (.createRouter "v1" (Scenario.association "a2" "r1" {})),
  .mutate (.createPort "v1" (Scenario.association "a3" "p1" {}))]

/-- The agent is told once of each update that changes something. -/
theorem updates_told_reachedThrice :
    let s := applyAll .plain {} reachedThrice
    let vpn : VpnUpdate := { exportTargets := some [⟨"64512:9", by decide⟩] }
    let router : RouterTermsUpdate := { advertiseExtraRoutes := some false }
    let port : PortTermsUpdate := { advertiseFixedIps := some false }
    (∃ reply, TellsOfVpn .plain s "v1" vpn reply) ∧
    (∃ reply, TellsOfRouter .plain s "v1" "a2" router reply) ∧
    (∃ reply, TellsOfPort .plain s "v1" "a3" port reply) ∧
    s.sentBy .plain (.mutate (.updateVpn "v1" vpn)) =
      [.update {
        id := "v1", network := "n1"
        targets := [("l3vpn", ⟨["64512:1"], ["64512:1", "64512:9"]⟩)] }] ∧
    s.sentBy .plain (.mutate (.updateRouter "v1" "a2" router)) =
      [.update {
        id := "v1", network := "n1"
        targets := [("l3vpn", ⟨["64512:1"], ["64512:1"]⟩)] }] ∧
    s.sentBy .plain (.mutate (.updatePort "v1" "a3" port)) =
      [.attach {
        id := "p1", network := "n1"
        mac := some ⟨0xfa, 0x16, 0x3e, 0, 0, 0xab⟩, ip := some (.v4 ⟨10, 0, 0, 171⟩)
        advertiseFixedIps := some false
        targets := [("l3vpn", ⟨["64512:1"], ["64512:1"]⟩)] } "compute-1"] := by
  intro s vpn router port
  obtain ⟨hvpn, hrouter, hport⟩ := updates_told .plain reachedThrice
  exact ⟨⟨_, hvpn "v1" vpn _ rfl⟩, ⟨_, hrouter "v1" "a2" router _ rfl⟩,
    ⟨_, hport "v1" "a3" port _ rfl⟩, by decide, by decide, by decide +kernel⟩

end Service
end VpnAttach
