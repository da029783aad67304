import VpnAttach.Proofs.Reach
import VpnAttach.Rules.Event

/-!
# What the parts of a plan send

`Sends sent p` says that a notification with the property `p` is among those
sent.  Every part of a plan has one law that holds for all `p`; what it means
for updates, deletions, attachments and detachments follows by the choice of
`p`.
-/

namespace VpnAttach

variable {p : Notification → Prop} {sent : List Notification}

/-- A notification with the property `p` was sent. -/
def Sends (sent : List Notification) (p : Notification → Prop) : Prop :=
  ∃ n ∈ sent, p n

instance [DecidablePred p] : Decidable (Sends sent p) :=
  inferInstanceAs (Decidable (∃ n ∈ sent, p n))

namespace Notification

/-- The VPN `id` is updated on a network. -/
def IsUpdate (id network : String) : Notification → Prop
  | .update vpn => vpn.id = id ∧ vpn.network = network
  | _ => False

/-- The VPN `id` is deleted on a network. -/
def IsDelete (id network : String) : Notification → Prop
  | .delete vpn => vpn.id = id ∧ vpn.network = network
  | _ => False

/-- The port `id` is attached. -/
def IsAttach (id : String) : Notification → Prop
  | .attach port _ => port.id = id
  | _ => False

/-- The port `id` is detached. -/
def IsDetach (id : String) : Notification → Prop
  | .detach port _ => port.id = id
  | _ => False

variable {emitted : List VpnKind} {vpn : Vpn} {id network other host : String}
  {payload : VpnPayload} {port : PortPayload}

@[simp] theorem isUpdate_update_make :
    IsUpdate id network (.update (VpnPayload.make emitted vpn other)) ↔
      vpn.id = id ∧ other = network := Iff.rfl

@[simp] theorem isDelete_delete_make :
    IsDelete id network (.delete (VpnPayload.make emitted vpn other)) ↔
      vpn.id = id ∧ other = network := Iff.rfl

@[simp] theorem not_isUpdate_delete : ¬IsUpdate id network (.delete payload) := not_false

@[simp] theorem not_isUpdate_attach : ¬IsUpdate id network (.attach port host) := not_false

@[simp] theorem not_isUpdate_detach : ¬IsUpdate id network (.detach port host) := not_false

@[simp] theorem not_isDelete_update : ¬IsDelete id network (.update payload) := not_false

@[simp] theorem not_isDelete_attach : ¬IsDelete id network (.attach port host) := not_false

@[simp] theorem not_isDelete_detach : ¬IsDelete id network (.detach port host) := not_false

instance (id network : String) : DecidablePred (IsUpdate id network)
  | .update vpn => inferInstanceAs (Decidable (vpn.id = id ∧ vpn.network = network))
  | .delete _ | .attach _ _ | .detach _ _ => inferInstanceAs (Decidable False)

instance (id network : String) : DecidablePred (IsDelete id network)
  | .delete vpn => inferInstanceAs (Decidable (vpn.id = id ∧ vpn.network = network))
  | .update _ | .attach _ _ | .detach _ _ => inferInstanceAs (Decidable False)

instance (id : String) : DecidablePred (IsAttach id)
  | .attach port _ => inferInstanceAs (Decidable (port.id = id))
  | .update _ | .delete _ | .detach _ _ => inferInstanceAs (Decidable False)

instance (id : String) : DecidablePred (IsDetach id)
  | .detach port _ => inferInstanceAs (Decidable (port.id = id))
  | .update _ | .delete _ | .attach _ _ => inferInstanceAs (Decidable False)

end Notification

/-! ## Plans -/

/-- A notification that was sent is one that equals it. -/
theorem sends_of_mem {n : Notification} (h : n ∈ sent) : Sends sent (n = ·) :=
  ⟨n, h, rfl⟩

@[simp] theorem not_sends_nil : ¬Sends [] p := fun ⟨_, h, _⟩ => nomatch h

@[simp] theorem sends_singleton {n : Notification} : Sends [n] p ↔ p n := by
  simp [Sends]

theorem sends_sent {plan : Plan} : Sends plan.sent p ↔ ∃ batch ∈ plan, Sends batch p := by
  simp only [Sends, Plan.sent, List.mem_flatten]
  grind

@[simp] theorem not_sends_sent_nil : ¬Sends (Plan.sent []) p := not_sends_nil

@[simp] theorem sends_sent_cons {batch : List Notification} {plan : Plan} :
    Sends (Plan.sent (batch :: plan)) p ↔ Sends batch p ∨ Sends plan.sent p := by
  simp [sends_sent]

/-- A plan of one batch sends what the batch does. -/
theorem sends_sent_singleton {batch : List Notification} :
    Sends (Plan.sent [batch]) p ↔ Sends batch p :=
  sends_sent_cons.trans (or_iff_left not_sends_sent_nil)

@[simp] theorem sends_sent_append {plan more : Plan} :
    Sends (Plan.sent (plan ++ more)) p ↔ Sends plan.sent p ∨ Sends more.sent p := by
  simp only [sends_sent, List.mem_append, or_and_right, exists_or]

@[simp] theorem sends_sent_map {α : Type} {f : α → List Notification} {xs : List α} :
    Sends (Plan.sent (xs.map f)) p ↔ ∃ x ∈ xs, Sends (f x) p := by
  simp only [sends_sent, List.mem_map, exists_exists_and_eq_and]

/-- An event is about a port. -/
def TopologyEvent.OfPort : TopologyEvent → Prop
  | .portCreated _ | .portUpdated _ _ | .portDeleted _ => True
  | .interfaceAdded _ _ | .interfaceRemoved _ _ => False

namespace Rules

open Notification (IsUpdate IsDelete IsAttach IsDetach)

variable {policy : Policy} {topology : Topology} {t : Tables} {vpn : Vpn} {port : Port}
  {networks : List String} {id network router : String}

/-! ## Parts of plans -/

theorem sends_pushUpdates :
    Sends (pushUpdates policy topology vpn networks) p ↔
      ∃ network ∈ networks, topology.hasActivePort network = true ∧
        p (.update (VpnPayload.make policy.emitted vpn network)) := by
  simp only [Sends, pushUpdates, List.mem_map, List.mem_filter]
  grind

theorem sends_pushDeletes :
    Sends (pushDeletes policy topology vpn networks) p ↔
      ∃ network ∈ networks, topology.hasActivePort network = true ∧
        p (.delete (VpnPayload.make policy.emitted vpn network)) := by
  simp only [Sends, pushDeletes, List.mem_map, List.mem_filter]
  grind

@[simp] theorem updates_pushUpdates :
    Sends (pushUpdates policy topology vpn networks) (IsUpdate id network) ↔
      vpn.id = id ∧ network ∈ networks ∧ topology.hasActivePort network = true := by
  simp only [sends_pushUpdates, Notification.isUpdate_update_make]
  grind

@[simp] theorem not_deletes_pushUpdates :
    ¬Sends (pushUpdates policy topology vpn networks) (IsDelete id network) := by
  simp [sends_pushUpdates]

@[simp] theorem deletes_pushDeletes :
    Sends (pushDeletes policy topology vpn networks) (IsDelete id network) ↔
      vpn.id = id ∧ network ∈ networks ∧ topology.hasActivePort network = true := by
  simp only [sends_pushDeletes, Notification.isDelete_delete_make]
  grind

@[simp] theorem not_updates_pushDeletes :
    ¬Sends (pushDeletes policy topology vpn networks) (IsUpdate id network) := by
  simp [sends_pushDeletes]

/-- A withdrawal deletes where the VPN is gone and updates where it is not. -/
theorem sends_withdraw :
    Sends (withdraw policy topology t vpn networks).sent p ↔
      ∃ network ∈ networks, topology.hasActivePort network = true ∧
        ((stillReaches topology t vpn network = false ∧
            p (.delete (VpnPayload.make policy.emitted vpn network))) ∨
          (stillReaches topology t vpn network = true ∧
            p (.update (VpnPayload.make policy.emitted vpn network)))) := by
  simp only [withdraw, sends_sent_cons, not_sends_sent_nil, or_false,
    sends_pushDeletes, sends_pushUpdates, List.mem_filter, Bool.not_eq_true']
  grind

theorem updates_withdraw (h : t.Owned) :
    Sends (withdraw policy topology t vpn networks).sent (IsUpdate id network) ↔
      vpn.id = id ∧ network ∈ networks ∧ topology.hasActivePort network = true ∧
        Reaches topology t id network := by
  simp only [sends_withdraw, Notification.not_isUpdate_delete, and_false, false_or,
    Notification.isUpdate_update_make, stillReaches_iff h]
  grind

theorem deletes_withdraw (h : t.Owned) :
    Sends (withdraw policy topology t vpn networks).sent (IsDelete id network) ↔
      vpn.id = id ∧ network ∈ networks ∧ topology.hasActivePort network = true ∧
        ¬Reaches topology t id network := by
  simp only [sends_withdraw, Notification.not_isDelete_update, and_false, or_false,
    Notification.isDelete_delete_make, Bool.eq_false_iff, ne_eq, stillReaches_iff h]
  grind

/-- A port is heeded if it is active and not ignored. -/
def Heeded (policy : Policy) (topology : Topology) (port : Port) : Prop :=
  ignoresPort policy topology port = false ∧ port.status.isActive = true

/-- A heeded port is detached if nothing reaches it, and else attached. -/
theorem sends_refreshPort :
    Sends (refreshPort policy topology t id) p ↔
      ∃ port, topology.port? id = some port ∧ Heeded policy topology port ∧
        ((vpnsOfPort topology t port = [] ∧
            p (.detach (PortPayload.detach port) port.host)) ∨
          (vpnsOfPort topology t port ≠ [] ∧
            p (.attach (attachPayload policy topology t port (vpnsOfPort topology t port))
              port.host))) := by
  rw [refreshPort]
  cases topology.port? id with
  | none => simp
  | some port =>
    by_cases hheeded : Heeded policy topology port
    · obtain ⟨hignored, hactive⟩ := hheeded
      by_cases hnil : vpnsOfPort topology t port = []
      · simp [hignored, hactive, hnil, Heeded]
      · simp [hignored, hactive, hnil, Heeded]
    · have hskip : (ignoresPort policy topology port || !port.status.isActive) = true := by
        simp only [Heeded, not_and, Bool.not_eq_true] at hheeded
        cases hignored : ignoresPort policy topology port with
        | true => rfl
        | false => simp [hheeded hignored]
      simp [hskip, hheeded]

@[simp] theorem not_deletes_refreshPort {port : String} :
    ¬Sends (refreshPort policy topology t port) (IsDelete id network) := by
  simp [sends_refreshPort]

@[simp] theorem not_updates_refreshPort {port : String} :
    ¬Sends (refreshPort policy topology t port) (IsUpdate id network) := by
  simp [sends_refreshPort]

/-- Refreshing a port tells of this port only. -/
theorem id_of_refreshPort {port : String}
    (h : Sends (refreshPort policy topology t port) (IsAttach id) ∨
      Sends (refreshPort policy topology t port) (IsDetach id)) : id = port := by
  rcases h with h | h
  · obtain ⟨port', hport', -, ⟨-, hp⟩ | ⟨-, hp⟩⟩ := sends_refreshPort.1 h
    · exact hp.elim
    · have hid : port'.id = id := hp
      exact hid.symm.trans (Topology.id_of_port? hport')
  · obtain ⟨port', hport', -, ⟨-, hp⟩ | ⟨-, hp⟩⟩ := sends_refreshPort.1 h
    · have hid : port'.id = id := hp
      exact hid.symm.trans (Topology.id_of_port? hport')
    · exact hp.elim

/-- A heeded port is attached when something reaches it. -/
theorem attaches_refreshPort (ht : t.Owned) (hport : topology.port? port.id = some port)
    (hheeded : Heeded policy topology port) (hreaches : ReachesPort topology t id port) :
    Sends (refreshPort policy topology t port.id) (IsAttach port.id) := by
  refine sends_refreshPort.2 ⟨port, hport, hheeded, Or.inr ⟨fun hnil => ?_, rfl⟩⟩
  exact ht.vpnsOfPort_eq_nil.1 hnil id hreaches

/-- A heeded port is attached or detached. -/
theorem told_refreshPort (hport : topology.port? port.id = some port)
    (hheeded : Heeded policy topology port) :
    Sends (refreshPort policy topology t port.id) (IsAttach port.id) ∨
      Sends (refreshPort policy topology t port.id) (IsDetach port.id) := by
  by_cases hnil : vpnsOfPort topology t port = []
  · exact Or.inr (sends_refreshPort.2 ⟨port, hport, hheeded, Or.inl ⟨hnil, rfl⟩⟩)
  · exact Or.inl (sends_refreshPort.2 ⟨port, hport, hheeded, Or.inr ⟨hnil, rfl⟩⟩)

theorem sends_aboutOwner {owner : String} {plan : Vpn → Plan} :
    Sends (aboutOwner t owner plan).sent p ↔
      ∃ vpn, t.vpn? owner = some vpn ∧ Sends (plan vpn).sent p := by
  rw [aboutOwner]
  cases t.vpn? owner <;> simp

/-! ## Plans about a VPN -/

/-- Nothing is told of a new VPN, since it has no associations yet. -/
theorem not_sends_plan_vpnCreated (request : VpnRequest) :
    ¬Sends (plan policy topology t (.vpnCreated (request.toVpn id))).sent p := by
  have hnone : networksOf topology (request.toVpn id) = [] := rfl
  simp [plan, hnone, sends_pushUpdates]

/-! ## Plans about an owner -/

section Owner

variable {owner : String}

theorem updates_aboutOwner (howner : owner ∈ t.vpnIds) :
    Sends (aboutOwner t owner fun vpn => [pushUpdates policy topology vpn networks]).sent
        (IsUpdate id network) ↔
      owner = id ∧ network ∈ networks ∧ topology.hasActivePort network = true := by
  obtain ⟨vpn, hvpn⟩ := Tables.exists_vpn?_iff.2 howner
  obtain rfl := Tables.id_of_vpn? hvpn
  simp [sends_aboutOwner, hvpn]

theorem updates_aboutOwner_withdraw (h : t.Owned) (howner : owner ∈ t.vpnIds) :
    Sends (aboutOwner t owner fun vpn => withdraw policy topology t vpn networks).sent
        (IsUpdate id network) ↔
      owner = id ∧ network ∈ networks ∧ topology.hasActivePort network = true ∧
        Reaches topology t id network := by
  obtain ⟨vpn, hvpn⟩ := Tables.exists_vpn?_iff.2 howner
  obtain rfl := Tables.id_of_vpn? hvpn
  simp [sends_aboutOwner, hvpn, updates_withdraw h]

theorem deletes_aboutOwner_withdraw (h : t.Owned) (howner : owner ∈ t.vpnIds) :
    Sends (aboutOwner t owner fun vpn => withdraw policy topology t vpn networks).sent
        (IsDelete id network) ↔
      owner = id ∧ network ∈ networks ∧ topology.hasActivePort network = true ∧
        ¬Reaches topology t id network := by
  obtain ⟨vpn, hvpn⟩ := Tables.exists_vpn?_iff.2 howner
  obtain rfl := Tables.id_of_vpn? hvpn
  simp [sends_aboutOwner, hvpn, deletes_withdraw h]

/-- A withdrawal tells of every network with an active port. -/
theorem told_aboutOwner_withdraw (h : t.Owned) (howner : owner ∈ t.vpnIds)
    (hmem : network ∈ networks) (hactive : topology.hasActivePort network = true) :
    Sends (aboutOwner t owner fun vpn => withdraw policy topology t vpn networks).sent
        (IsUpdate owner network) ∨
      Sends (aboutOwner t owner fun vpn => withdraw policy topology t vpn networks).sent
        (IsDelete owner network) := by
  by_cases hreaches : Reaches topology t owner network
  · exact Or.inl ((updates_aboutOwner_withdraw h howner).2 ⟨rfl, hmem, hactive, hreaches⟩)
  · exact Or.inr ((deletes_aboutOwner_withdraw h howner).2 ⟨rfl, hmem, hactive, hreaches⟩)

end Owner

/-! ## Events -/

theorem sends_attachPort :
    Sends (attachPort policy topology t port) p ↔
      vpnsOfPort topology t port ≠ [] ∧
        p (.attach (attachPayload policy topology t port (vpnsOfPort topology t port))
          port.host) := by
  rw [attachPort]
  by_cases hnil : vpnsOfPort topology t port = []
  · simp [hnil]
  · simp [hnil]

theorem sends_detachPort :
    Sends (detachPort topology t port) p ↔
      vpnsOfPort topology t port ≠ [] ∧
        p (.detach (PortPayload.detach port) port.host) := by
  rw [detachPort]
  by_cases hnil : vpnsOfPort topology t port = []
  · simp [hnil]
  · simp [hnil]

theorem sends_notifyStatus :
    Sends (notifyStatus policy topology t port) p ↔
      (port.status = .active ∧ Sends (attachPort policy topology t port) p) ∨
        (port.status = .down ∧ Sends (detachPort topology t port) p) := by
  rw [notifyStatus]
  cases port.status <;> simp

/-- A new port is attached if it is heeded. -/
theorem sends_portCreated :
    Sends (eventPlan policy topology t (.portCreated port)).sent p ↔
      Heeded policy topology port ∧ Sends (attachPort policy topology t port) p := by
  rw [eventPlan]
  cases hactive : port.status.isActive with
  | false => simp [Heeded, hactive]
  | true => cases hignored : ignoresPort policy topology port <;> simp [Heeded, hactive, hignored]

/-- A port is told of when its status becomes active or down. -/
theorem sends_portUpdated {previous : Port} :
    Sends (eventPlan policy topology t (.portUpdated port previous)).sent p ↔
      port.status ≠ previous.status ∧ ignoresPort policy topology port = false ∧
        ((port.status = .active ∧ Sends (attachPort policy topology t port) p) ∨
          (port.status = .down ∧ Sends (detachPort topology t port) p)) := by
  rw [eventPlan]
  by_cases hsame : port.status = previous.status
  · simp [hsame]
  · cases hignored : ignoresPort policy topology port <;> simp [hsame, sends_notifyStatus]

/-- A port that goes is detached if it is heeded. -/
theorem sends_portDeleted :
    Sends (eventPlan policy topology t (.portDeleted id)).sent p ↔
      ∃ port, topology.port? id = some port ∧ Heeded policy topology port ∧
        Sends (detachPort topology t port) p := by
  rw [eventPlan]
  cases topology.port? id with
  | none => simp
  | some port =>
    cases hactive : port.status.isActive with
    | false => simp [Heeded, hactive]
    | true =>
      cases hignored : ignoresPort policy topology port <;> simp [Heeded, hactive, hignored]

/-- Events about a port are told by attaching or detaching a port. -/
theorem of_sends_portEvent {event : TopologyEvent} (hevent : event.OfPort)
    (h : Sends (eventPlan policy topology t event).sent p) :
    (∃ payload host, p (.attach payload host)) ∨
      ∃ payload host, p (.detach payload host) := by
  cases event with
  | portCreated port =>
    exact Or.inl ⟨_, _, (sends_attachPort.1 (sends_portCreated.1 h).2).2⟩
  | portUpdated port previous =>
    obtain ⟨-, -, ⟨-, h⟩ | ⟨-, h⟩⟩ := sends_portUpdated.1 h
    · exact Or.inl ⟨_, _, (sends_attachPort.1 h).2⟩
    · exact Or.inr ⟨_, _, (sends_detachPort.1 h).2⟩
  | portDeleted id =>
    obtain ⟨_, -, -, h⟩ := sends_portDeleted.1 h
    exact Or.inr ⟨_, _, (sends_detachPort.1 h).2⟩
  | interfaceAdded router network => exact hevent.elim
  | interfaceRemoved router network => exact hevent.elim

/-- The VPNs around an interface are found by the owners of its associations. -/
theorem interfaceVpns_eq (t : Tables) (router network : String) :
    interfaceVpns t router network =
      t.vpnsWithIds ((Rows.onTarget router t.routers).map (·.owner) ++
        (Rows.onTarget network t.networks).map (·.owner)) :=
  Tables.distinctBy_vpnsWithIds_append _ _

theorem mem_interfaceVpns :
    vpn ∈ interfaceVpns t router network ↔
      (Rows.Joined t.routers vpn.id router ∨ Rows.Joined t.networks vpn.id network) ∧
        t.vpn? vpn.id = some vpn := by
  rw [interfaceVpns_eq, Tables.mem_vpnsWithIds, List.mem_append,
    Rows.mem_map_owner_onTarget, Rows.mem_map_owner_onTarget]

/-- A new interface updates the VPNs of its router and of its network. -/
theorem sends_interfaceAdded :
    Sends (eventPlan policy topology t (.interfaceAdded router network)).sent p ↔
      topology.hasActivePort network = true ∧
        ∃ vpn ∈ interfaceVpns t router network,
          p (.update (VpnPayload.make policy.emitted vpn network)) := by
  rw [eventPlan]
  cases hactive : topology.hasActivePort network <;> simp [sends_pushUpdates, hactive]

/-- An interface that is gone deletes the VPNs of its router, except those of
its network, which it updates. -/
theorem sends_interfaceRemoved :
    Sends (eventPlan policy topology t (.interfaceRemoved router network)).sent p ↔
      topology.hasActivePort network = true ∧
        ((∃ vpn ∈ t.vpnsOnRouter router, ¬Rows.Joined t.networks vpn.id network ∧
            p (.delete (VpnPayload.make policy.emitted vpn network))) ∨
          ∃ vpn ∈ t.vpnsOnNetwork network,
            p (.update (VpnPayload.make policy.emitted vpn network))) := by
  have hdirect {vpn : Vpn} (hvpn : vpn ∈ t.vpnsOnRouter router) :
      (t.vpnsOnNetwork network).any (·.id == vpn.id) = true ↔
        Rows.Joined t.networks vpn.id network := by
    have hstored := (Tables.mem_vpnsOnRouter.1 hvpn).2
    have hmem : vpn.id ∈ (t.vpnsOnNetwork network).map (·.id) ↔
        Rows.Joined t.networks vpn.id network ∧ vpn.id ∈ t.vpnIds := by
      rw [Tables.vpnsOnNetwork, Tables.mem_map_id_vpnsWithIds, Rows.mem_map_owner_onTarget]
    rw [List.any_eq_true]
    simp only [beq_iff_eq, ← List.mem_map, hmem]
    exact and_iff_left (Tables.exists_vpn?_iff.1 ⟨vpn, hstored⟩)
  rw [eventPlan]
  cases hactive : topology.hasActivePort network with
  | false => simp
  | true =>
    simp only [if_true, sends_sent_append, sends_sent_map, List.mem_filter,
      Bool.not_eq_true', sends_pushDeletes, sends_pushUpdates, List.mem_singleton,
      exists_eq_left, hactive, true_and]
    refine or_congr_left (exists_congr fun vpn => ?_)
    constructor
    · intro h
      obtain ⟨⟨hvpn, hnot⟩, hp⟩ := h
      exact ⟨hvpn, fun hjoined => by simp [(hdirect hvpn).2 hjoined] at hnot, hp⟩
    · intro h
      obtain ⟨hvpn, hnot, hp⟩ := h
      exact ⟨⟨hvpn, Bool.eq_false_iff.2 fun hany => hnot ((hdirect hvpn).1 hany)⟩, hp⟩

theorem deletes_interfaceRemoved {removed : String} (h : t.Owned) :
    Sends (eventPlan policy topology t (.interfaceRemoved router removed)).sent
        (IsDelete id network) ↔
      network = removed ∧ topology.hasActivePort network = true ∧
        Rows.Joined t.routers id router ∧ ¬Rows.Joined t.networks id network := by
  simp only [sends_interfaceRemoved, Notification.isDelete_delete_make,
    Notification.not_isDelete_update, and_false, exists_false, or_false]
  constructor
  · intro h
    obtain ⟨hactive, vpn, hvpn, hdirect, rfl, rfl⟩ := h
    exact ⟨rfl, hactive, (Tables.mem_vpnsOnRouter.1 hvpn).1, hdirect⟩
  · intro h
    obtain ⟨rfl, hactive, hjoined, hdirect⟩ := h
    have hstored : id ∈ t.vpnIds := by
      obtain ⟨a, ha, rfl, -⟩ := hjoined
      exact h.routers a ha
    obtain ⟨vpn, hvpn⟩ := Tables.exists_vpn?_iff.2 hstored
    obtain rfl := Tables.id_of_vpn? hvpn
    exact ⟨hactive, vpn, Tables.mem_vpnsOnRouter.2 ⟨hjoined, hvpn⟩, hdirect, rfl, rfl⟩

theorem updates_interfaceRemoved {removed : String} (h : t.Owned) :
    Sends (eventPlan policy topology t (.interfaceRemoved router removed)).sent
        (IsUpdate id network) ↔
      network = removed ∧ topology.hasActivePort network = true ∧
        Rows.Joined t.networks id network := by
  simp only [sends_interfaceRemoved, Notification.isUpdate_update_make,
    Notification.not_isUpdate_delete, and_false, exists_false, false_or]
  constructor
  · intro h
    obtain ⟨hactive, vpn, hvpn, rfl, rfl⟩ := h
    exact ⟨rfl, hactive, (Tables.mem_vpnsOnNetwork.1 hvpn).1⟩
  · intro h
    obtain ⟨rfl, hactive, hjoined⟩ := h
    have hstored : id ∈ t.vpnIds := by
      obtain ⟨a, ha, rfl, -⟩ := hjoined
      exact h.networks a ha
    obtain ⟨vpn, hvpn⟩ := Tables.exists_vpn?_iff.2 hstored
    obtain rfl := Tables.id_of_vpn? hvpn
    exact ⟨hactive, vpn, Tables.mem_vpnsOnNetwork.2 ⟨hjoined, hvpn⟩, rfl, rfl⟩

end Rules
end VpnAttach
