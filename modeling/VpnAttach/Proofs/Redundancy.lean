import VpnAttach.Proofs.Service.Effects
import VpnAttach.Proofs.Service.Runs

/-!
# Nothing is told twice

The subject of an update or a deletion is a VPN on a network, that of an
attachment or a detachment is a port.  What one command sends has no subject
twice.

Lists of networks and of VPNs are without repetitions by construction, or because
no interface is there twice.  The ports of a deleted VPN are told of one by one,
and there it matters that the VPN was not associated twice with one of them.
These two facts, `Unrepeated`, hold after every run.
-/

namespace VpnAttach

/-- What a notification is about. -/
inductive Subject where
  /-- The VPN `id` on a network. -/
  | vpn (id network : String)
  | port (id : String)
  deriving DecidableEq

/-- What a notification is about. -/
def Notification.subject : Notification → Subject
  | .update payload | .delete payload => .vpn payload.id payload.network
  | .attach payload _ | .detach payload _ => .port payload.id

/-- What some notifications are about, one after the other. -/
def subjects (sent : List Notification) : List Subject :=
  sent.map Notification.subject

variable {policy : Policy} {topology : Topology} {t : Tables} {id : String} {vpn : Vpn}
  {port : Port} {networks : List String}

/-! ## Subjects of plans -/

@[simp] theorem subjects_sent_nil : subjects (Plan.sent []) = [] := rfl

@[simp] theorem subjects_sent_cons {batch : List Notification} {plan : Plan} :
    subjects (Plan.sent (batch :: plan)) = subjects batch ++ subjects plan.sent :=
  List.map_append

@[simp] theorem subjects_sent_append {plan more : Plan} :
    subjects (Plan.sent (plan ++ more)) = subjects plan.sent ++ subjects more.sent := by
  rw [Plan.sent, List.flatten_append]
  exact List.map_append

theorem subjects_sent_singleton {batch : List Notification} :
    subjects (Plan.sent [batch]) = subjects batch := by
  rw [subjects_sent_cons, subjects_sent_nil, List.append_nil]

/-- A batch about one subject at most has no subject twice. -/
theorem nodup_subjects_of_sublist {batch : List Notification} {subject : Subject}
    (h : (subjects batch).Sublist [subject]) : (subjects (Plan.sent [batch])).Nodup := by
  rw [subjects_sent_singleton]
  exact (List.nodup_singleton subject).sublist h

/-- If every batch is about one subject at most, all of them are about no more than
these. -/
theorem subjects_sent_map_sublist {α : Type} {f : α → List Notification} {g : α → Subject}
    (h : ∀ x, (subjects (f x)).Sublist [g x]) (xs : List α) :
    (subjects (Plan.sent (xs.map f))).Sublist (xs.map g) := by
  induction xs with
  | nil => exact List.Sublist.refl []
  | cons x xs ih =>
    rw [List.map_cons, List.map_cons, subjects_sent_cons]
    exact (h x).append ih

theorem nodup_map_vpn (h : networks.Nodup) (id : String) :
    (networks.map (Subject.vpn id)).Nodup :=
  h.map fun _ _ hsame => (Subject.vpn.inj hsame).2

theorem nodup_map_port {ports : List String} (h : ports.Nodup) :
    (ports.map Subject.port).Nodup :=
  h.map fun _ _ hsame => Subject.port.inj hsame

/-- Different VPNs on one network are different subjects. -/
theorem nodup_map_vpnOn {vpns : List Vpn} (h : (vpns.map (·.id)).Nodup) (network : String) :
    (vpns.map fun vpn => Subject.vpn vpn.id network).Nodup := by
  have hids : (vpns.map fun vpn => Subject.vpn vpn.id network) =
      (vpns.map (·.id)).map (Subject.vpn · network) := by
    rw [List.map_map]
    rfl
  rw [hids]
  exact h.map fun _ _ hsame => (Subject.vpn.inj hsame).1

namespace Rules

/-! ## Parts of plans -/

theorem subjects_pushUpdates :
    subjects (pushUpdates policy topology vpn networks) =
      (networks.filter topology.hasActivePort).map (Subject.vpn vpn.id) := by
  rw [subjects, pushUpdates, List.map_map]
  rfl

theorem subjects_pushDeletes :
    subjects (pushDeletes policy topology vpn networks) =
      (networks.filter topology.hasActivePort).map (Subject.vpn vpn.id) := by
  rw [subjects, pushDeletes, List.map_map]
  rfl

theorem subjects_pushUpdates_sublist {network : String} :
    (subjects (pushUpdates policy topology vpn [network])).Sublist [.vpn vpn.id network] := by
  rw [subjects_pushUpdates]
  exact List.filter_sublist.map (Subject.vpn vpn.id)

theorem subjects_pushDeletes_sublist {network : String} :
    (subjects (pushDeletes policy topology vpn [network])).Sublist [.vpn vpn.id network] := by
  rw [subjects_pushDeletes]
  exact List.filter_sublist.map (Subject.vpn vpn.id)

theorem nodup_subjects_pushUpdates (h : networks.Nodup) :
    (subjects (pushUpdates policy topology vpn networks)).Nodup := by
  rw [subjects_pushUpdates]
  exact nodup_map_vpn (h.filter _) vpn.id

/-- A withdrawal splits the networks in two parts, and each part is told of once. -/
theorem nodup_subjects_withdraw (h : networks.Nodup) :
    (subjects (withdraw policy topology t vpn networks).sent).Nodup := by
  rw [withdraw, subjects_sent_cons, subjects_sent_cons, subjects_sent_nil, List.append_nil,
    subjects_pushDeletes, subjects_pushUpdates, ← List.map_append]
  refine nodup_map_vpn (List.nodup_append.2 ⟨(h.filter _).filter _, (h.filter _).filter _, ?_⟩)
    vpn.id
  intro network hgone _ hkept hsame
  obtain rfl := hsame
  simp only [List.mem_filter] at hgone hkept
  simp [hkept.1.2] at hgone

theorem subjects_refreshPort_sublist (policy : Policy) (topology : Topology) (t : Tables)
    (id : String) : (subjects (refreshPort policy topology t id)).Sublist [.port id] := by
  rw [refreshPort]
  cases hport : topology.port? id with
  | none => exact List.nil_sublist _
  | some port =>
    obtain rfl := Topology.id_of_port? hport
    dsimp only
    split
    · exact List.nil_sublist _
    · split <;> exact List.Sublist.refl _

theorem nodup_subjects_refreshPort :
    (subjects (Plan.sent [refreshPort policy topology t id])).Nodup :=
  nodup_subjects_of_sublist (subjects_refreshPort_sublist policy topology t id)

theorem nodup_subjects_aboutOwner {owner : String} {plan : Vpn → Plan}
    (h : ∀ vpn, (subjects (plan vpn).sent).Nodup) :
    (subjects (aboutOwner t owner plan).sent).Nodup := by
  rw [aboutOwner]
  split
  · exact h _
  · exact List.nodup_nil

/-! ## Events -/

theorem subjects_attachPort_sublist :
    (subjects (attachPort policy topology t port)).Sublist [.port port.id] := by
  rw [attachPort]
  split
  · exact List.nil_sublist _
  · exact List.Sublist.refl _

theorem subjects_detachPort_sublist :
    (subjects (detachPort topology t port)).Sublist [.port port.id] := by
  rw [detachPort]
  split
  · exact List.nil_sublist _
  · exact List.Sublist.refl _

theorem subjects_notifyStatus_sublist :
    (subjects (notifyStatus policy topology t port)).Sublist [.port port.id] := by
  rw [notifyStatus]
  split
  · exact subjects_attachPort_sublist
  · exact subjects_detachPort_sublist
  · exact List.nil_sublist _

/-- An event about a port is told at most once. -/
theorem nodup_subjects_portEvent {event : TopologyEvent} (hevent : event.OfPort) :
    (subjects (eventPlan policy topology t event).sent).Nodup := by
  cases event with
  | portCreated port =>
    rw [eventPlan]
    split
    · exact List.nodup_nil
    · exact nodup_subjects_of_sublist subjects_attachPort_sublist
  | portUpdated port previous =>
    rw [eventPlan]
    split
    · exact List.nodup_nil
    · exact nodup_subjects_of_sublist subjects_notifyStatus_sublist
  | portDeleted id =>
    rw [eventPlan]
    split
    · exact List.nodup_nil
    · split
      · exact List.nodup_nil
      · exact nodup_subjects_of_sublist subjects_detachPort_sublist
  | interfaceAdded router network => exact hevent.elim
  | interfaceRemoved router network => exact hevent.elim

/-- A new interface updates every VPN around it once. -/
theorem nodup_subjects_interfaceAdded (router network : String) :
    (subjects (eventPlan policy topology t (.interfaceAdded router network)).sent).Nodup := by
  have hids : ((interfaceVpns t router network).map (·.id)).Nodup :=
    nodup_map_distinctBy _ _
  rw [eventPlan]
  split
  · refine (nodup_map_vpnOn hids network).sublist (subjects_sent_map_sublist (fun vpn => ?_) _)
    exact subjects_pushUpdates_sublist
  · exact List.nodup_nil

/-- An interface that is gone deletes or updates every VPN around it once. -/
theorem nodup_subjects_interfaceRemoved (router network : String) :
    (subjects (eventPlan policy topology t
      (.interfaceRemoved router network)).sent).Nodup := by
  have hrouter : ((t.vpnsOnRouter router).map (·.id)).Nodup :=
    Tables.nodup_map_id_vpnsWithIds t _
  have hdirect : ((t.vpnsOnNetwork network).map (·.id)).Nodup :=
    Tables.nodup_map_id_vpnsWithIds t _
  rw [eventPlan]
  split
  · -- What is deleted is not among what is updated, by the test on ids.
    have hids : ((((t.vpnsOnRouter router).filter fun vpn =>
        !(t.vpnsOnNetwork network).any (·.id == vpn.id)) ++
          t.vpnsOnNetwork network).map (·.id)).Nodup := by
      rw [List.map_append]
      refine List.nodup_append.2 ⟨hrouter.sublist (List.filter_sublist.map _), hdirect, ?_⟩
      intro id hid _ hid' hsame
      obtain rfl := hsame
      obtain ⟨gone, hgone, rfl⟩ := List.mem_map.1 hid
      obtain ⟨kept, hkept, hsame⟩ := List.mem_map.1 hid'
      have hnone := (List.mem_filter.1 hgone).2
      simp only [Bool.not_eq_true', List.any_eq_false, beq_iff_eq] at hnone
      exact hnone kept hkept hsame
    refine (nodup_map_vpnOn hids network).sublist ?_
    rw [subjects_sent_append, List.map_append]
    exact (subjects_sent_map_sublist (fun _ => subjects_pushDeletes_sublist) _).append
      (subjects_sent_map_sublist (fun _ => subjects_pushUpdates_sublist) _)
  · exact List.nodup_nil

end Rules

/-! ## Mutations -/

namespace Tables.Stages

variable {fresh : String} {m : Mutation} {staged : Staged}

/-- No mutation ties a VPN to a port a second time. -/
theorem once_ports (hm : t.Stages fresh m staged) (h : Rows.Once t.ports) :
    Rows.Once staged.committed.ports := by
  cases hm with
  | deleteVpn _ => exact h.sublist List.filter_sublist
  | createPort _ ha =>
    obtain ⟨hnew, -, hshape⟩ := Rows.make_eq_ok ha
    refine h.append ?_
    rw [hshape]
    exact hnew
  | updatePort _ _ => exact h.modify
  | deletePort _ _ => exact h.sublist List.eraseP_sublist
  | _ => exact h

/-- A mutation is announced with no subject twice. -/
theorem nodup_subjects (hm : t.Stages fresh m staged) (hports : Rows.Once t.ports)
    (hinterfaces : topology.interfaces.Nodup) :
    (subjects (Rules.plan policy topology staged.committed staged.change).sent).Nodup := by
  have hupdates {vpn : Vpn} {networks : List String} (h : networks.Nodup) :
      (subjects (Plan.sent [Rules.pushUpdates policy topology vpn networks])).Nodup := by
    rw [subjects_sent_singleton]
    exact Rules.nodup_subjects_pushUpdates h
  have hnetworks := Topology.nodup_networksOf hinterfaces
  cases hm with
  | createVpn _ => exact hupdates (nodup_networksOf topology _)
  | updateVpn _ =>
    rw [Rules.plan]
    split
    · exact hupdates (nodup_networksOf topology _)
    · exact List.nodup_nil
  | @deleteVpn id row _ =>
    have hrefreshed : (subjects (Plan.sent ((t.fill row).ports.map
        (Rules.refreshPort policy topology (t.without id))))).Sublist
          ((t.fill row).ports.map Subject.port) :=
      subjects_sent_map_sublist (Rules.subjects_refreshPort_sublist policy topology _) _
    rw [Rules.plan, subjects_sent_cons, Rules.subjects_pushDeletes]
    refine List.nodup_append.2 ⟨nodup_map_vpn ((nodup_networksOf topology _).filter _) _,
      (nodup_map_port (hports.nodup_targetsOf row.id)).sublist hrefreshed, ?_⟩
    -- What is deleted is about networks, and the rest is about ports.
    intro _ hnetwork _ hport hsame
    obtain ⟨_, -, rfl⟩ := List.mem_map.1 hnetwork
    obtain ⟨_, -, rfl⟩ := List.mem_map.1 (hrefreshed.subset hport)
    cases hsame
  | createNetwork _ _ =>
    exact Rules.nodup_subjects_aboutOwner fun _ => hupdates (List.nodup_singleton _)
  | deleteNetwork _ _ =>
    exact Rules.nodup_subjects_aboutOwner fun _ =>
      Rules.nodup_subjects_withdraw (List.nodup_singleton _)
  | createRouter _ _ =>
    exact Rules.nodup_subjects_aboutOwner fun _ => hupdates (hnetworks _)
  | updateRouter _ _ =>
    rw [Rules.plan]
    split
    · exact Rules.nodup_subjects_aboutOwner fun _ => hupdates (hnetworks _)
    · exact List.nodup_nil
  | deleteRouter _ _ =>
    exact Rules.nodup_subjects_aboutOwner fun _ =>
      Rules.nodup_subjects_withdraw (hnetworks _)
  | createPort _ _ => exact Rules.nodup_subjects_refreshPort
  | updatePort _ _ =>
    rw [Rules.plan]
    split
    · exact List.nodup_nil
    · exact Rules.nodup_subjects_refreshPort
  | deletePort _ _ => exact Rules.nodup_subjects_refreshPort

end Tables.Stages

/-! ## Commands -/

/-- No VPN is associated twice with a port, and no interface is there twice. -/
structure Unrepeated (topology : Topology) (t : Tables) : Prop where
  ports : Rows.Once t.ports
  interfaces : topology.interfaces.Nodup

namespace Service

variable {setup : Setup} {s : Service} {c : Command} {tables : Tables}
  {sent : List Notification}

/-- Accepted commands repeat nothing. -/
theorem Accepts.unrepeated (h : Accepts setup s c tables topology sent)
    (hs : Unrepeated s.topology s.tables) : Unrepeated topology tables := by
  obtain ⟨hports, hinterfaces⟩ := hs
  cases h with
  | mutate hstages _ => exact ⟨hstages.once_ports hports, hinterfaces⟩
  | plug _ _ => exact ⟨hports, Topology.nodup_interfaces_plug hinterfaces⟩
  | unplug _ => exact ⟨hports, Topology.nodup_interfaces_unplug hinterfaces⟩
  | _ => exact ⟨hports, hinterfaces⟩

/-- An accepted command sends nothing twice. -/
theorem Accepts.nodup_subjects (h : Accepts setup s c tables topology sent)
    (hs : Unrepeated s.topology s.tables) : (subjects sent).Nodup := by
  cases h with
  | mutate hstages _ => exact hstages.nodup_subjects hs.ports hs.interfaces
  | createPort port => exact Rules.nodup_subjects_portEvent (ofPort_portEvent port)
  | updatePort port => exact Rules.nodup_subjects_portEvent (ofPort_portEvent port)
  | setPortStatus _ _ => exact Rules.nodup_subjects_portEvent (ofPort_portEvent _)
  | deletePort _ => exact Rules.nodup_subjects_portEvent trivial
  | plug _ _ => exact Rules.nodup_subjects_interfaceAdded _ _
  | unplug _ => exact Rules.nodup_subjects_interfaceRemoved _ _
  | _ => exact List.nodup_nil

theorem unrepeated_applyAll (setup : Setup) (commands : List Command) :
    Unrepeated (applyAll setup {} commands).topology
      (applyAll setup {} commands).tables :=
  state_applyAll (P := fun t topology => Unrepeated topology t)
    ⟨Rows.Once.nil, List.nodup_nil⟩ (fun _ _ _ _ _ hs h => h.unrepeated hs) commands

/-- After every run, no command tells the agent twice about a VPN on a network or
about a port. -/
theorem nodup_subjects_sentBy (setup : Setup) (commands : List Command) (c : Command) :
    (subjects ((applyAll setup {} commands).sentBy setup c)).Nodup := by
  rcases apply_cases setup (applyAll setup {} commands) c with hkept | haccepts
  · rw [sentBy, hkept, List.drop_length]
    exact List.nodup_nil
  · exact haccepts.nodup_subjects (unrepeated_applyAll setup commands)

end Service
end VpnAttach
