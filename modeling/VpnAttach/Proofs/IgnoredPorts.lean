import VpnAttach.Proofs.Exclusivity
import VpnAttach.Proofs.Service.Effects
import VpnAttach.Scenario.Samples

/-!
# What ignored ports cause

The agent is not told of ports that are ignored, but such a port counts where a
network is asked for an active one.  So a VPN may be pushed to a network all of
whose ports are ignored, among them a network that faces the provider and that a
router leads to.

`Notification.Warranted` says what does hold of everything that is sent: a push
goes to a network with an active port, and an attachment or a detachment is about
a port that is not ignored.  No part of a plan sends anything else, whatever the
tables are.
-/

namespace VpnAttach

variable {policy : Policy} {topology : Topology} {t : Tables} {id network router : String}
  {vpn : Vpn} {port : Port} {n : Notification} {sent : List Notification}

namespace Notification

/-- A notification may be sent in view of a topology: a push goes to a network with
an active port, and a port that is attached or detached is known and not ignored. -/
def Warranted (policy : Policy) (topology : Topology) : Notification → Prop
  | .update payload | .delete payload =>
    ∃ port ∈ topology.ports, port.network = payload.network ∧ port.status = .active
  | .attach payload _ | .detach payload _ =>
    ∃ port, topology.port? payload.id = some port ∧ ignoresPort policy topology port = false

/-- The network that a VPN is pushed to. -/
def pushedTo? : Notification → Option String
  | .update payload | .delete payload => some payload.network
  | .attach _ _ | .detach _ _ => none

end Notification

open Notification (Warranted)

/-- The port that an event reports as it is now. -/
def TopologyEvent.reported? : TopologyEvent → Option Port
  | .portCreated port | .portUpdated port _ => some port
  | .portDeleted _ | .interfaceAdded _ _ | .interfaceRemoved _ _ => none

namespace Rules

variable {networks : List String}

/-! ## Parts of plans -/

theorem warranted_pushUpdates
    (h : Sends (pushUpdates policy topology vpn networks) (n = ·)) :
    n.Warranted policy topology := by
  obtain ⟨network, -, hactive, rfl⟩ := sends_pushUpdates.1 h
  exact Topology.hasActivePort_eq_true.1 hactive

theorem warranted_pushDeletes
    (h : Sends (pushDeletes policy topology vpn networks) (n = ·)) :
    n.Warranted policy topology := by
  obtain ⟨network, -, hactive, rfl⟩ := sends_pushDeletes.1 h
  exact Topology.hasActivePort_eq_true.1 hactive

theorem warranted_withdraw
    (h : Sends (withdraw policy topology t vpn networks).sent (n = ·)) :
    n.Warranted policy topology := by
  rw [withdraw, sends_sent_cons, sends_sent_singleton] at h
  rcases h with h | h
  · exact warranted_pushDeletes h
  · exact warranted_pushUpdates h

theorem warranted_attachPort (hport : topology.port? port.id = some port)
    (hheeded : ignoresPort policy topology port = false)
    (h : Sends (attachPort policy topology t port) (n = ·)) :
    n.Warranted policy topology := by
  obtain ⟨-, rfl⟩ := sends_attachPort.1 h
  exact ⟨port, hport, hheeded⟩

theorem warranted_detachPort (hport : topology.port? port.id = some port)
    (hheeded : ignoresPort policy topology port = false)
    (h : Sends (detachPort topology t port) (n = ·)) :
    n.Warranted policy topology := by
  obtain ⟨-, rfl⟩ := sends_detachPort.1 h
  exact ⟨port, hport, hheeded⟩

theorem warranted_refreshPort (h : Sends (refreshPort policy topology t id) (n = ·)) :
    n.Warranted policy topology := by
  obtain ⟨port, hport, ⟨hheeded, -⟩, hsent⟩ := sends_refreshPort.1 h
  obtain rfl := Topology.id_of_port? hport
  rcases hsent with ⟨-, rfl⟩ | ⟨-, rfl⟩
  · exact ⟨port, hport, hheeded⟩
  · exact ⟨port, hport, hheeded⟩

/-! ## Plans -/

/-- Whatever is announced of a change is warranted, whatever the tables are. -/
theorem warranted_plan {change : Change}
    (h : Sends (plan policy topology t change).sent (n = ·)) :
    n.Warranted policy topology := by
  cases change with
  | vpnCreated vpn => exact warranted_pushUpdates (sends_sent_singleton.1 h)
  | vpnUpdated old new =>
    rw [plan] at h
    split at h
    · exact warranted_pushUpdates (sends_sent_singleton.1 h)
    · exact (not_sends_sent_nil h).elim
  | vpnDeleted vpn =>
    rw [plan, sends_sent_cons, sends_sent_map] at h
    rcases h with h | ⟨_, -, h⟩
    · exact warranted_pushDeletes h
    · exact warranted_refreshPort h
  | networkCreated a =>
    obtain ⟨vpn, -, h⟩ := sends_aboutOwner.1 h
    exact warranted_pushUpdates (sends_sent_singleton.1 h)
  | networkDeleted a =>
    obtain ⟨vpn, -, h⟩ := sends_aboutOwner.1 h
    exact warranted_withdraw h
  | routerCreated a =>
    obtain ⟨vpn, -, h⟩ := sends_aboutOwner.1 h
    exact warranted_pushUpdates (sends_sent_singleton.1 h)
  | routerUpdated old new =>
    rw [plan] at h
    split at h
    · obtain ⟨vpn, -, h⟩ := sends_aboutOwner.1 h
      exact warranted_pushUpdates (sends_sent_singleton.1 h)
    · exact (not_sends_sent_nil h).elim
  | routerDeleted a =>
    obtain ⟨vpn, -, h⟩ := sends_aboutOwner.1 h
    exact warranted_withdraw h
  | portCreated a => exact warranted_refreshPort (sends_sent_singleton.1 h)
  | portUpdated old new =>
    rw [plan] at h
    split at h
    · exact (not_sends_sent_nil h).elim
    · exact warranted_refreshPort (sends_sent_singleton.1 h)
  | portDeleted a => exact warranted_refreshPort (sends_sent_singleton.1 h)

/-- So is whatever is told of an event, if the port that is reported is the one
that is known. -/
theorem warranted_eventPlan {event : TopologyEvent}
    (hknown : ∀ port, event.reported? = some port → topology.port? port.id = some port)
    (h : Sends (eventPlan policy topology t event).sent (n = ·)) :
    n.Warranted policy topology := by
  cases event with
  | portCreated port =>
    obtain ⟨⟨hheeded, -⟩, h⟩ := sends_portCreated.1 h
    exact warranted_attachPort (hknown port rfl) hheeded h
  | portUpdated port previous =>
    have hport := hknown port rfl
    obtain ⟨-, hheeded, ⟨-, h⟩ | ⟨-, h⟩⟩ := sends_portUpdated.1 h
    · exact warranted_attachPort hport hheeded h
    · exact warranted_detachPort hport hheeded h
  | portDeleted id =>
    obtain ⟨port, hport, ⟨hheeded, -⟩, hdetach⟩ := sends_portDeleted.1 h
    obtain rfl := Topology.id_of_port? hport
    exact warranted_detachPort hport hheeded hdetach
  | interfaceAdded router network =>
    obtain ⟨hactive, vpn, -, rfl⟩ := sends_interfaceAdded.1 h
    exact Topology.hasActivePort_eq_true.1 hactive
  | interfaceRemoved router network =>
    obtain ⟨hactive, ⟨vpn, -, -, rfl⟩ | ⟨vpn, -, rfl⟩⟩ := sends_interfaceRemoved.1 h
    · exact Topology.hasActivePort_eq_true.1 hactive
    · exact Topology.hasActivePort_eq_true.1 hactive

end Rules

/-! ## Commands -/

/-- The topology in view of which a command sends: a deletion of a port is told of
before the port is removed, everything else afterwards. -/
def Command.seen (before after : Topology) : Command → Topology
  | .deletePort _ => before
  | _ => after

namespace Service

variable {setup : Setup} {s : Service} {c : Command} {tables : Tables}

theorem reported?_portEvent (s : Service) (port : Port) :
    (s.portEvent port).reported? = some port := by
  unfold portEvent
  cases s.topology.port? port.id <;> rfl

theorem warranted_portEvent
    (h : Sends (Rules.eventPlan policy (s.topology.putPort port) t (s.portEvent port)).sent
      (n = ·)) : n.Warranted policy (s.topology.putPort port) := by
  -- A port is reported right after it was put into the topology.
  refine Rules.warranted_eventPlan (fun reported hreported => ?_) h
  obtain rfl : port = reported :=
    Option.some.inj ((reported?_portEvent s port).symm.trans hreported)
  exact Topology.port?_putPort s.topology port

/-- Whatever an accepted command sends is warranted. -/
theorem Accepts.warranted (h : Accepts setup s c tables topology sent) (hn : n ∈ sent) :
    n.Warranted setup.policy (c.seen s.topology topology) := by
  have hsends := sends_of_mem hn
  cases h with
  | mutate _ _ => exact Rules.warranted_plan hsends
  | createPort port => exact warranted_portEvent hsends
  | updatePort port => exact warranted_portEvent hsends
  | setPortStatus _ _ => exact warranted_portEvent hsends
  | deletePort _ => exact Rules.warranted_eventPlan (fun _ hnone => by cases hnone) hsends
  | plug _ _ => exact Rules.warranted_eventPlan (fun _ hnone => by cases hnone) hsends
  | unplug _ => exact Rules.warranted_eventPlan (fun _ hnone => by cases hnone) hsends
  | _ => exact (not_sends_nil hsends).elim

/-- A new association with a network is announced on that network, which does not
face the provider. -/
theorem Accepts.internal {owner : String} {request : NetworkAssociationRequest}
    (h : Accepts setup s (.mutate (.createNetwork owner request)) tables topology sent)
    (hn : n ∈ sent) (hnetwork : n.pushedTo? = some network) :
    topology.isExternal network = false := by
  obtain ⟨staged, hstages, hcheck, -, rfl, rfl⟩ := h.of_mutate
  cases hstages with
  | @createNetwork _ _ _ a _ _ =>
    have hinternal : s.topology.isExternal a.target = false :=
      Rules.internal_of_checkNetwork hcheck
    obtain ⟨vpn, -, h⟩ := Rules.sends_aboutOwner.1 (sends_of_mem hn)
    obtain ⟨target, htarget, -, rfl⟩ := Rules.sends_pushUpdates.1 (sends_sent_singleton.1 h)
    obtain rfl := List.mem_singleton.1 htarget
    obtain rfl : a.target = network := Option.some.inj hnetwork
    exact hinternal

/-- Whatever a command sends is warranted, and a new association with a network is
pushed to no network that faces the provider. -/
theorem warranted_sentBy (setup : Setup) (s : Service) (c : Command) :
    let seen := c.seen s.topology (s.apply setup c).service.topology
    ∀ n ∈ s.sentBy setup c,
      n.Warranted setup.policy seen ∧
        ∀ owner request network, c = .mutate (.createNetwork owner request) →
          n.pushedTo? = some network → seen.isExternal network = false := by
  intro seen n hn
  rcases apply_cases setup s c with hkept | haccepts
  · rw [sentBy, hkept, List.drop_length] at hn
    cases hn
  · refine ⟨haccepts.warranted hn, ?_⟩
    intro owner request network hc hnetwork
    subst hc
    exact haccepts.internal hn hnetwork

/-- A router on a network that faces the provider and on one of the tenant's, where
only the router's own port is active. -/
def platformAndExternal : List Command := [
  .addNetwork (Scenario.externalNetwork "ext"),
  .addNetwork (Scenario.tenantNetwork "net"),
  .createPort (Scenario.activePort "p1" "ext"),
  .createPort (Scenario.routerPort "p2" "net"),
  .addInterface "router" "ext",
  .addInterface "router" "net",
  .mutate (.createVpn (Scenario.vpn .l3 "vpn" [⟨"64512:5", by decide⟩]))]

/-- All ports are ignored, and still both networks are told of the VPN. -/
theorem pushed_platformAndExternal :
    let s := applyAll .plain {} platformAndExternal
    let c := Command.mutate (.createRouter "vpn" (Scenario.association "a" "router" {}))
    let seen := c.seen s.topology (s.apply .plain c).service.topology
    Reachable .plain s ∧
      (s.sentBy .plain c).map (·.pushedTo?) = [some "ext", some "net"] ∧
      seen.isExternal "ext" = true ∧ seen.isExternal "net" = false ∧
      ∀ port ∈ seen.ports, ignoresPort Setup.plain.policy seen port = true :=
  ⟨Reachable.start.applyAll (by decide), by decide, by decide, by decide, by decide⟩

theorem warranted_sentBy_platformPort :
    let s := applyAll .plain {} platformAndExternal
    let c := Command.mutate (.createNetwork "vpn" (Scenario.association "a" "net" ()))
    let n := Notification.update ⟨"vpn", "net", [("l3vpn", ⟨["64512:5"], ["64512:5"]⟩)]⟩
    n ∈ s.sentBy .plain c ∧ n.Warranted Setup.plain.policy s.topology ∧
      s.topology.isExternal "net" = false := by
  intro s c n
  have hn : n ∈ s.sentBy .plain c := by decide
  obtain ⟨hwarranted, hinternal⟩ := warranted_sentBy .plain s c n hn
  exact ⟨hn, hwarranted, hinternal "vpn" _ "net" rfl rfl⟩

end Service
end VpnAttach
