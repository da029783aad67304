import VpnAttach.Proofs.Rules.Announcement
import VpnAttach.Proofs.Service.Steps

/-!
# Effects on reach

Which VPN reaches what depends on the tables and on the interfaces of routers.
These change by mutations and by plugging or unplugging a router.  All other
commands leave them alone and tell the agent at most about ports.
-/

namespace VpnAttach.Service

variable {setup : Setup} {s : Service} {c : Command} {tables : Tables}
  {topology : Topology} {sent : List Notification}

theorem ofPort_portEvent (port : Port) : (s.portEvent port).OfPort := by
  unfold portEvent
  split <;> exact trivial

/-- Reach is as it was, and what is told is about ports. -/
structure OnPorts (s : Service) (tables : Tables) (topology : Topology)
    (sent : List Notification) : Prop where
  tables_eq : tables = s.tables
  interfaces_eq : topology.interfaces = s.topology.interfaces
  told : ∀ p, Sends sent p → (∃ payload host, p (.attach payload host)) ∨
    ∃ payload host, p (.detach payload host)

theorem OnPorts.of_nil (hinterfaces : topology.interfaces = s.topology.interfaces) :
    s.OnPorts s.tables topology [] :=
  ⟨rfl, hinterfaces, fun _ h => (not_sends_nil h).elim⟩

theorem OnPorts.of_event {policy : Policy} {seen : Topology} {event : TopologyEvent}
    (hinterfaces : topology.interfaces = s.topology.interfaces)
    (hevent : event.OfPort) :
    s.OnPorts s.tables topology (Rules.eventPlan policy seen s.tables event).sent :=
  ⟨rfl, hinterfaces, fun _ h => Rules.of_sends_portEvent hevent h⟩

/-- What an accepted mutation does. -/
theorem Accepts.of_mutate {m : Mutation}
    (h : Accepts setup s (.mutate m) tables topology sent) :
    ∃ staged, s.tables.Stages (s.freshId setup) m staged ∧
      Rules.check setup.policy s.topology staged.pending staged.change = .ok () ∧
      tables = staged.committed ∧ topology = s.topology ∧
      sent = (Rules.plan setup.policy s.topology staged.committed staged.change).sent := by
  cases h with
  | mutate hstages hcheck => exact ⟨_, hstages, hcheck, rfl, rfl, rfl⟩

/-- An accepted command is a mutation, plugs or unplugs a router, or leaves
reach alone. -/
theorem Accepts.reach_cases (h : Accepts setup s c tables topology sent) :
    (∃ m staged, c = .mutate m ∧ s.tables.Stages (s.freshId setup) m staged ∧
      Rules.check setup.policy s.topology staged.pending staged.change = .ok () ∧
      tables = staged.committed ∧ topology = s.topology ∧
      sent = (Rules.plan setup.policy s.topology staged.committed staged.change).sent) ∨
    (∃ router network, c = .addInterface router network ∧ tables = s.tables ∧
      topology = s.topology.plug router network ∧
      sent = (Rules.eventPlan setup.policy (s.topology.plug router network) s.tables
        (.interfaceAdded router network)).sent) ∨
    (∃ router network, c = .removeInterface router network ∧ tables = s.tables ∧
      s.topology.isPlugged router network = true ∧
      topology = s.topology.unplug router network ∧
      sent = (Rules.eventPlan setup.policy (s.topology.unplug router network) s.tables
        (.interfaceRemoved router network)).sent) ∨
    ((∀ router network, c ≠ .removeInterface router network) ∧
      s.OnPorts tables topology sent) := by
  cases h with
  | mutate hstages hcheck =>
    exact Or.inl ⟨_, _, rfl, hstages, hcheck, rfl, rfl, rfl⟩
  | plug _ _ => exact Or.inr (Or.inl ⟨_, _, rfl, rfl, rfl, rfl⟩)
  | unplug hplugged =>
    exact Or.inr (Or.inr (Or.inl ⟨_, _, rfl, rfl, hplugged, rfl, rfl⟩))
  | createPort port =>
    exact Or.inr (Or.inr (Or.inr ⟨fun _ _ => nofun, .of_event rfl (ofPort_portEvent port)⟩))
  | updatePort port =>
    exact Or.inr (Or.inr (Or.inr ⟨fun _ _ => nofun, .of_event rfl (ofPort_portEvent port)⟩))
  | setPortStatus _ _ =>
    exact Or.inr (Or.inr (Or.inr ⟨fun _ _ => nofun, .of_event rfl (ofPort_portEvent _)⟩))
  | deletePort _ =>
    exact Or.inr (Or.inr (Or.inr ⟨fun _ _ => nofun, .of_event rfl trivial⟩))
  | _ => exact Or.inr (Or.inr (Or.inr ⟨fun _ _ => nofun, .of_nil rfl⟩))

end VpnAttach.Service
