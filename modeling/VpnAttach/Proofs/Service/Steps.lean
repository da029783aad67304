import VpnAttach.Proofs.Tables.Staging
import VpnAttach.Service.Basic

/-!
# What a command does

`Service.Accepts` lists, command by command, the tables, the topology and the
notifications that come of a command which succeeds.  A command that fails
changes nothing (`service_of_error`), so the list says all there is to say
about a step, and the invariants of the service are proved by cases on it.
-/

namespace VpnAttach

/-- An accepted mutation was staged and passed its check. -/
theorem Lifecycle.perform_ok {σ : Type} {hooks : Hooks σ} {fresh : String}
    {t : Tables} {m : Mutation} {state : σ} {reply : Reply}
    (h : (perform hooks fresh t m state).answer = .ok reply) :
    ∃ staged, t.stage fresh m = .ok staged ∧
      (hooks.check staged.pending staged.change state).1 = .ok () := by
  cases hstage : t.stage fresh m with
  | error refusal => simp only [perform, hstage] at h; cases h
  | ok staged =>
    rcases hcheck : hooks.check staged.pending staged.change state with ⟨_ | _, state'⟩
    · simp only [perform, hstage, hcheck] at h
      cases h
    · exact ⟨staged, rfl, by rw [hcheck]⟩

/-- A refused mutation leaves the tables and the hooks alone, provided that a
check leaves the hooks alone. -/
theorem Lifecycle.perform_error {σ : Type} {hooks : Hooks σ} {fresh : String}
    {t : Tables} {m : Mutation} {state : σ} {refusal : Refusal}
    (hcheck : ∀ pending change, (hooks.check pending change state).2 = state)
    (h : (perform hooks fresh t m state).answer = .error refusal) :
    (perform hooks fresh t m state).tables = t ∧
      (perform hooks fresh t m state).hooks = state := by
  cases hstage : t.stage fresh m with
  | error _ => simp only [perform, hstage, refused, and_self]
  | ok staged =>
    have hkept := hcheck staged.pending staged.change
    rcases hchecked : hooks.check staged.pending staged.change state with ⟨_ | _, state'⟩
    · rw [hchecked] at hkept
      simpa only [perform, hstage, hchecked, refused, true_and] using hkept
    · simp only [perform, hstage, hchecked] at h
      cases h

/-- A refused mutation is put on record as denied, and that is all. -/
theorem Lifecycle.journal_of_error {σ : Type} {hooks : Hooks σ} {fresh : String}
    {t : Tables} {m : Mutation} {state : σ} {refusal : Refusal}
    (h : (perform hooks fresh t m state).answer = .error refusal) :
    (perform hooks fresh t m state).journal = [.audit (denied m refusal)] := by
  cases hstage : t.stage fresh m with
  | error _ =>
    simp only [perform, hstage, refused] at h ⊢
    rw [Except.error.inj h]
  | ok staged =>
    rcases hchecked : hooks.check staged.pending staged.change state with ⟨_ | _, state'⟩
    · simp only [perform, hstage, hchecked, refused] at h ⊢
      rw [Except.error.inj h]
    · simp only [perform, hstage, hchecked] at h
      cases h

namespace Service

variable {setup : Setup} {s : Service} {c : Command} {reply : Reply}

/-- The event that is reported when a port is taken note of. -/
def portEvent (s : Service) (port : Port) : TopologyEvent :=
  match s.topology.port? port.id with
  | some previous => .portUpdated port previous
  | none => .portCreated port

/-- A command succeeds with these tables, this topology and these
notifications. -/
inductive Accepts (setup : Setup) (s : Service) :
    Command → Tables → Topology → List Notification → Prop where
  | mutate {m : Mutation} {staged : Staged}
    (hstages : s.tables.Stages (s.freshId setup) m staged)
    (hcheck : Rules.check setup.policy s.topology staged.pending staged.change = .ok ()) :
    Accepts setup s (.mutate m) staged.committed s.topology
      (Rules.plan setup.policy s.topology staged.committed staged.change).sent
  | showVpn {id : String} {vpn : Vpn} (hvpn : s.tables.vpn? id = some vpn) :
    Accepts setup s (.showVpn id) s.tables s.topology []
  | listVpns : Accepts setup s .listVpns s.tables s.topology []
  | addNetwork (network : Network) :
    Accepts setup s (.addNetwork network) s.tables (s.topology.putNetwork network) []
  | addSubnet (subnet : Subnet) :
    Accepts setup s (.addSubnet subnet) s.tables (s.topology.putSubnet subnet) []
  | createPort (port : Port) :
    Accepts setup s (.createPort port) s.tables (s.topology.putPort port)
      (Rules.eventPlan setup.policy (s.topology.putPort port) s.tables
        (s.portEvent port)).sent
  | updatePort (port : Port) :
    Accepts setup s (.updatePort port) s.tables (s.topology.putPort port)
      (Rules.eventPlan setup.policy (s.topology.putPort port) s.tables
        (s.portEvent port)).sent
  | setPortStatus {id : String} (status : PortStatus) {port : Port}
    (hport : s.topology.port? id = some port) :
    Accepts setup s (.setPortStatus id status) s.tables
      (s.topology.putPort { port with status := status })
      (Rules.eventPlan setup.policy (s.topology.putPort { port with status := status })
        s.tables (s.portEvent { port with status := status })).sent
  | deletePort {id : String} {port : Port} (hport : s.topology.port? id = some port) :
    Accepts setup s (.deletePort id) s.tables (s.topology.removePort id)
      (Rules.eventPlan setup.policy s.topology s.tables (.portDeleted id)).sent
  | plugAgain {router network : String}
    (hcheck : Rules.checkInterface s.tables router network = .ok ())
    (hplugged : s.topology.isPlugged router network = true) :
    Accepts setup s (.addInterface router network) s.tables s.topology []
  | plug {router network : String}
    (hcheck : Rules.checkInterface s.tables router network = .ok ())
    (hplugged : s.topology.isPlugged router network = false) :
    Accepts setup s (.addInterface router network) s.tables
      (s.topology.plug router network)
      (Rules.eventPlan setup.policy (s.topology.plug router network) s.tables
        (.interfaceAdded router network)).sent
  | unplug {router network : String}
    (hplugged : s.topology.isPlugged router network = true) :
    Accepts setup s (.removeInterface router network) s.tables
      (s.topology.unplug router network)
      (Rules.eventPlan setup.policy (s.topology.unplug router network) s.tables
        (.interfaceRemoved router network)).sent

/-! ## Events -/

/-- Telling about an event changes nothing but what was sent. -/
theorem react_fst (event : TopologyEvent) :
    (s.react setup event).1 =
      { s with past := s.past ++
          (Rules.eventPlan setup.policy s.topology s.tables event).sent } := by
  simp only [react, send]
  split <;> simp_all

theorem noted_eq (event : TopologyEvent) :
    (s.noted setup event).answer = .ok .nothing ∧
      (s.noted setup event).service =
        { s with past := s.past ++
            (Rules.eventPlan setup.policy s.topology s.tables event).sent } :=
  ⟨rfl, react_fst event⟩

theorem putPort_eq (port : Port) :
    (s.putPort setup port).answer = .ok .nothing ∧
      (s.putPort setup port).service =
        { s with
          topology := s.topology.putPort port
          past := s.past ++ (Rules.eventPlan setup.policy (s.topology.putPort port)
            s.tables (s.portEvent port)).sent } := by
  unfold putPort portEvent
  cases s.topology.port? port.id with
  | none => exact noted_eq _
  | some previous => exact noted_eq _

theorem setPortStatus_eq {id : String} {port : Port} (status : PortStatus)
    (hport : s.topology.port? id = some port) :
    s.setPortStatus setup id status = s.putPort setup { port with status := status } := by
  rw [setPortStatus, hport]

theorem deletePort_eq {id : String} {port : Port} (hport : s.topology.port? id = some port) :
    (s.deletePort setup id).service =
      { s with
        topology := s.topology.removePort id
        past := s.past ++ (Rules.eventPlan setup.policy s.topology s.tables
          (.portDeleted id)).sent } := by
  simp only [deletePort, hport, react_fst]

section Interface

variable {router network : String}

theorem addInterface_of_vetoed {refusal : Refusal}
    (hcheck : Rules.checkInterface s.tables router network = .error refusal) :
    s.addInterface setup router network =
      ⟨.error refusal, s, [.audit (Rules.vetoed router network refusal)]⟩ := by
  simp only [addInterface, hcheck]

theorem addInterface_of_plugged
    (hcheck : Rules.checkInterface s.tables router network = .ok ())
    (hplugged : s.topology.isPlugged router network = true) :
    s.addInterface setup router network = ⟨.ok .nothing, s, []⟩ := by
  simp only [addInterface, hcheck, hplugged, if_true]

theorem addInterface_of_unplugged
    (hcheck : Rules.checkInterface s.tables router network = .ok ())
    (hplugged : s.topology.isPlugged router network = false) :
    s.addInterface setup router network =
      { s with topology := s.topology.plug router network }.noted setup
        (.interfaceAdded router network) := by
  simp [addInterface, hcheck, hplugged]

end Interface

/-- What a command that adds `sent` to the past has sent. -/
theorem sentBy_of_past {sent : List Notification}
    (h : (s.apply setup c).service.past = s.past ++ sent) : s.sentBy setup c = sent := by
  rw [sentBy, h, List.drop_left]

/-! ## Mutations -/

section Staged

variable {m : Mutation} {staged : Staged}

/-- A mutation is carried out if its check passes. -/
theorem mutate_of_check_ok (hstages : s.tables.Stages (s.freshId setup) m staged)
    (hcheck : Rules.check setup.policy s.topology staged.pending staged.change = .ok ()) :
    (s.apply setup (.mutate m)).answer = .ok staged.change.reply ∧
      (s.apply setup (.mutate m)).service.tables = staged.committed ∧
      (s.apply setup (.mutate m)).service.topology = s.topology := by
  simp only [apply, mutate, Lifecycle.perform, hstages.stage_eq, hooks, hcheck, and_self]

/-- The state after a mutation that is carried out. -/
theorem service_of_check_ok (hstages : s.tables.Stages (s.freshId setup) m staged)
    (hcheck : Rules.check setup.policy s.topology staged.pending staged.change = .ok ()) :
    (s.apply setup (.mutate m)).service =
      { s with
        tables := staged.committed
        past := s.past ++
          (Rules.plan setup.policy s.topology staged.committed staged.change).sent
        drawn := s.drawn + if m.needsId then 1 else 0 } := by
  simp only [apply, mutate, Lifecycle.perform, hstages.stage_eq, hooks, hcheck, Except.isOk,
    Except.toBool, Bool.and_true]

/-- What a mutation that is carried out sends is its announcement. -/
theorem sentBy_of_check_ok (hstages : s.tables.Stages (s.freshId setup) m staged)
    (hcheck : Rules.check setup.policy s.topology staged.pending staged.change = .ok ()) :
    s.sentBy setup (.mutate m) =
      (Rules.plan setup.policy s.topology staged.committed staged.change).sent :=
  sentBy_of_past (congrArg past (service_of_check_ok hstages hcheck))

/-- A mutation is refused as its check says. -/
theorem mutate_of_check_error (hstages : s.tables.Stages (s.freshId setup) m staged)
    {refusal : Refusal} (hcheck : Rules.check setup.policy s.topology staged.pending
      staged.change = .error refusal) :
    (s.apply setup (.mutate m)).answer = .error refusal := by
  simp only [apply, mutate, Lifecycle.perform, hstages.stage_eq, hooks, hcheck,
    Lifecycle.refused]

/-- A mutation that succeeds was worked out and has passed its check. -/
theorem exists_stages_of_ok (h : (s.apply setup (.mutate m)).answer = .ok reply) :
    ∃ staged, s.tables.Stages (s.freshId setup) m staged ∧
      Rules.check setup.policy s.topology staged.pending staged.change = .ok () ∧
      staged.change.reply = reply := by
  obtain ⟨staged, hstage, hcheck⟩ := Lifecycle.perform_ok h
  have hstages := Tables.stages_of_stage hstage
  have hreply := (mutate_of_check_ok hstages hcheck).1.symm.trans h
  exact ⟨staged, hstages, hcheck, Except.ok.inj hreply⟩

/-- A mutation is worked out and then checked. -/
theorem answer_mutate (setup : Setup) (s : Service) (m : Mutation) :
    (s.apply setup (.mutate m)).answer = (do
      let staged ← s.tables.stage (s.freshId setup) m
      Rules.check setup.policy s.topology staged.pending staged.change
      return staged.change.reply) := by
  cases hstage : s.tables.stage (s.freshId setup) m with
  | error refusal =>
    simp only [apply, mutate, Lifecycle.perform, hstage]
    rfl
  | ok staged =>
    have hstages := Tables.stages_of_stage hstage
    cases hcheck : Rules.check setup.policy s.topology staged.pending staged.change with
    | error refusal =>
      rw [mutate_of_check_error hstages hcheck]
      simp only [bind, Except.bind, hcheck]
    | ok _ =>
      rw [(mutate_of_check_ok hstages hcheck).1]
      simp only [bind, Except.bind, hcheck]
      rfl

end Staged

/-! ## Commands -/

/-- To find out what a command does it is enough to know its new state. -/
theorem accepts_of_service {after : Service} {sent : List Notification}
    (hservice : (s.apply setup c).service = after)
    (h : Accepts setup s c after.tables after.topology sent)
    (hpast : after.past = s.past ++ sent) :
    Accepts setup s c (s.apply setup c).service.tables
        (s.apply setup c).service.topology (s.sentBy setup c) ∧
      (s.apply setup c).service.past = s.past ++ s.sentBy setup c := by
  subst hservice
  rw [sentBy_of_past hpast]
  exact ⟨h, hpast⟩

/-- Whatever a command that succeeds does is in the list. -/
theorem accepts_of_ok (h : (s.apply setup c).answer = .ok reply) :
    Accepts setup s c (s.apply setup c).service.tables
        (s.apply setup c).service.topology (s.sentBy setup c) ∧
      (s.apply setup c).service.past = s.past ++ s.sentBy setup c := by
  cases c with
  | mutate m =>
    obtain ⟨staged, hstages, hcheck, -⟩ := exists_stages_of_ok h
    exact accepts_of_service (service_of_check_ok hstages hcheck) (.mutate hstages hcheck) rfl
  | showVpn id =>
    have hvpn : ∃ vpn, s.tables.vpn? id = some vpn := by
      cases hget : s.tables.getVpn id with
      | error refusal => rw [apply, hget] at h; cases h
      | ok vpn => exact ⟨vpn, Tables.getVpn_eq_ok.1 hget⟩
    obtain ⟨vpn, hvpn⟩ := hvpn
    exact accepts_of_service rfl (.showVpn hvpn) (List.append_nil s.past).symm
  | listVpns => exact accepts_of_service rfl .listVpns (List.append_nil s.past).symm
  | addNetwork network =>
    exact accepts_of_service rfl (.addNetwork network) (List.append_nil _).symm
  | addSubnet subnet =>
    exact accepts_of_service rfl (.addSubnet subnet) (List.append_nil _).symm
  | createPort port => exact accepts_of_service (putPort_eq port).2 (.createPort port) rfl
  | updatePort port => exact accepts_of_service (putPort_eq port).2 (.updatePort port) rfl
  | setPortStatus id status =>
    cases hport : s.topology.port? id with
    | none => simp only [apply, setPortStatus, hport] at h; cases h
    | some port =>
      have happly : s.apply setup (.setPortStatus id status) =
          s.putPort setup { port with status := status } := setPortStatus_eq status hport
      have hservice := congrArg Step.service happly
      rw [(putPort_eq { port with status := status }).2] at hservice
      exact accepts_of_service hservice (.setPortStatus status hport) rfl
  | deletePort id =>
    cases hport : s.topology.port? id with
    | none => simp only [apply, deletePort, hport] at h; cases h
    | some port =>
      exact accepts_of_service (deletePort_eq hport) (.deletePort hport) rfl
  | addInterface router network =>
    rw [apply] at h
    cases hcheck : Rules.checkInterface s.tables router network with
    | error refusal => rw [addInterface_of_vetoed hcheck] at h; cases h
    | ok _ =>
      cases hplugged : s.topology.isPlugged router network with
      | true =>
        have happly : s.apply setup (.addInterface router network) = _ :=
          addInterface_of_plugged hcheck hplugged
        exact accepts_of_service (congrArg Step.service happly) (.plugAgain hcheck hplugged)
          (List.append_nil _).symm
      | false =>
        have happly : s.apply setup (.addInterface router network) = _ :=
          addInterface_of_unplugged hcheck hplugged
        have hservice := congrArg Step.service happly
        rw [(noted_eq _).2] at hservice
        exact accepts_of_service hservice (.plug hcheck hplugged) rfl
  | removeInterface router network =>
    cases hplugged : s.topology.isPlugged router network with
    | false => simp [apply, removeInterface, hplugged, refuse] at h
    | true =>
      have happly : s.apply setup (.removeInterface router network) =
          { s with topology := s.topology.unplug router network }.noted setup
            (.interfaceRemoved router network) := by
        rw [apply, removeInterface, if_pos hplugged]
      have hservice := congrArg Step.service happly
      rw [(noted_eq _).2] at hservice
      exact accepts_of_service hservice (.unplug hplugged) rfl

theorem accepts_of_isOk (h : (s.apply setup c).answer.isOk = true) :
    Accepts setup s c (s.apply setup c).service.tables (s.apply setup c).service.topology
      (s.sentBy setup c) := by
  cases hanswer : (s.apply setup c).answer with
  | ok reply => exact (accepts_of_ok hanswer).1
  | error refusal =>
    rw [hanswer] at h
    cases h

/-- A command that fails changes nothing. -/
theorem service_of_error {refusal : Refusal}
    (h : (s.apply setup c).answer = .error refusal) : (s.apply setup c).service = s := by
  cases c with
  | mutate m =>
    obtain ⟨htables, hhooks⟩ := Lifecycle.perform_error (fun _ _ => rfl) h
    have hanswer : (Lifecycle.perform (hooks setup s.topology) (s.freshId setup)
        s.tables m s.past).answer = .error refusal := h
    simp only [apply, mutate, hanswer, htables, hhooks, Except.isOk, Except.toBool,
      Bool.and_false, Bool.false_eq_true, if_false, Nat.add_zero]
  | showVpn id => rfl
  | listVpns => rfl
  | addNetwork network => cases h
  | addSubnet subnet => cases h
  | createPort port =>
    rw [apply, (putPort_eq port).1] at h
    cases h
  | updatePort port =>
    rw [apply, (putPort_eq port).1] at h
    cases h
  | setPortStatus id status =>
    cases hport : s.topology.port? id with
    | none => simp only [apply, setPortStatus, hport, refuse]
    | some port =>
      simp only [apply, setPortStatus, hport, (putPort_eq _).1] at h
      cases h
  | deletePort id =>
    cases hport : s.topology.port? id with
    | none =>
      simp [apply, deletePort, hport, react_fst, Rules.eventPlan, Plan.sent]
    | some port => simp only [apply, deletePort, hport] at h; cases h
  | addInterface router network =>
    rw [apply] at h ⊢
    cases hcheck : Rules.checkInterface s.tables router network with
    | error _ => rw [addInterface_of_vetoed hcheck]
    | ok _ =>
      cases hplugged : s.topology.isPlugged router network with
      | true => rw [addInterface_of_plugged hcheck hplugged] at h; cases h
      | false => rw [addInterface_of_unplugged hcheck hplugged] at h; cases h
  | removeInterface router network =>
    cases hplugged : s.topology.isPlugged router network with
    | false => simp [apply, removeInterface, hplugged, refuse]
    | true => simp [apply, removeInterface, hplugged, noted] at h

/-- A command either fails without a trace or is in the list. -/
theorem apply_cases (setup : Setup) (s : Service) (c : Command) :
    (s.apply setup c).service = s ∨
      Accepts setup s c (s.apply setup c).service.tables
        (s.apply setup c).service.topology (s.sentBy setup c) := by
  cases h : (s.apply setup c).answer with
  | error refusal => exact Or.inl (service_of_error h)
  | ok reply => exact Or.inr (accepts_of_ok h).1

end Service
end VpnAttach
