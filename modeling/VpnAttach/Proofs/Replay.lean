import VpnAttach.Proofs.Service.Runs
import VpnAttach.Proofs.Topology
import VpnAttach.Proofs.Vpn.Json
import VpnAttach.Scenario.Samples

/-!
# Replaying commands

A command that sets something to a given value can be given again.  The second time it
finds what it is about as it is to be: an update has the same object before and after
(`Stages.again`), and what is put in the topology is there already.  So it succeeds with
the same answer, changes nothing, and there is nothing to tell the agent
(`replay_of_ok`).  This holds in every state, whatever the agent answers.
-/

namespace VpnAttach

/-! ## Updates applied twice -/

theorem getD_getD {α : Type} (new? : Option α) (old : α) :
    new?.getD (new?.getD old) = new?.getD old := by
  cases new? <;> rfl

theorem VpnUpdate.apply_apply (changes : VpnUpdate) (vpn : Vpn) :
    changes.apply (changes.apply vpn) = changes.apply vpn := by
  simp only [apply, getD_getD]

theorem RouterTermsUpdate.apply_apply (changes : RouterTermsUpdate) (terms : RouterTerms) :
    changes.apply (changes.apply terms) = changes.apply terms := by
  simp only [apply, getD_getD]

theorem PortTermsUpdate.apply_apply (changes : PortTermsUpdate) (terms : PortTerms) :
    changes.apply (changes.apply terms) = changes.apply terms := by
  simp only [apply, getD_getD]

/-- An update when it is made again. -/
def Change.again : Change → Change
  | .vpnUpdated _ new => .vpnUpdated new new
  | .routerUpdated _ new => .routerUpdated new new
  | .portUpdated _ new => .portUpdated new new
  | change => change

theorem Change.reply_again (change : Change) : change.again.reply = change.reply := by
  cases change <;> rfl

theorem Mutation.needsId_of_update {m : Mutation} (h : m.deed = .update) :
    m.needsId = false := by
  cases m <;> first | rfl | cases h

namespace Tables

variable {t : Tables} {fresh : String} {m : Mutation} {staged : Staged}

/-- An update is checked against the tables that it leads to. -/
theorem Stages.pending_of_update (hm : t.Stages fresh m staged) (hdeed : m.deed = .update) :
    staged.pending = staged.committed := by
  cases hm with
  | updateVpn _ | updateRouter _ _ | updatePort _ _ => rfl
  | _ => cases hdeed

/-- An update can be worked out again, and then it changes nothing. -/
theorem Stages.again (hm : t.Stages fresh m staged) (hdeed : m.deed = .update)
    (fresh' : String) :
    staged.committed.Stages fresh' m
      ⟨staged.change.again, staged.committed, staged.committed⟩ := by
  cases hm with
  | @updateVpn id changes row hrow =>
    have hfound : row? { t with vpns := updateRow id changes t.vpns } id =
        some (changes.apply row) := row?_updateVpn hrow
    have hagain : Stages _ fresh' (.updateVpn id changes) _ := .updateVpn hfound
    rw [changes.apply_apply, updateRow_eq_self hfound (changes.apply_apply row)] at hagain
    exact hagain
  | @updateRouter owner id changes row a hrow ha =>
    have hfound := Rows.find?_modify_self changes.apply ha
    have hagain : Stages { t with routers := Rows.modify owner id changes.apply t.routers }
        fresh' (.updateRouter owner id changes) _ := .updateRouter hrow hfound
    rw [Rows.modify_eq_self hfound (changes.apply_apply a.terms)] at hagain
    simp only [changes.apply_apply] at hagain
    exact hagain
  | @updatePort owner id changes row a hrow ha =>
    have hfound := Rows.find?_modify_self changes.apply ha
    have hagain : Stages { t with ports := Rows.modify owner id changes.apply t.ports }
        fresh' (.updatePort owner id changes) _ := .updatePort hrow hfound
    rw [Rows.modify_eq_self hfound (changes.apply_apply a.terms)] at hagain
    simp only [changes.apply_apply] at hagain
    exact hagain
  | _ => cases hdeed

end Tables

namespace Rules

variable (policy : Policy) (topology : Topology) (tables : Tables)

/-- The check of an update does not ask what was there before. -/
theorem check_again (change : Change) :
    check policy topology tables change.again = check policy topology tables change := by
  cases change <;> rfl

/-- There is nothing to tell about an update that changes nothing. -/
theorem plan_again {t : Tables} {fresh : String} {m : Mutation} {staged : Staged}
    (hm : t.Stages fresh m staged) (hdeed : m.deed = .update) :
    plan policy topology tables staged.change.again = [] := by
  cases hm with
  | updateVpn _ =>
    rw [Change.again, plan, if_neg]
    simp [Vpn.touches_iff]
  | updateRouter _ _ =>
    rw [Change.again, plan, if_neg]
    simp [Association.touches_routerToJson_iff]
  | updatePort _ _ => rw [Change.again, plan, if_pos (Association.isEmpty_portToJson_iff.2 rfl)]
  | _ => cases hdeed

/-- There is nothing to tell about a port that is as it was. -/
theorem eventPlan_portUpdated_self (port : Port) :
    eventPlan policy topology tables (.portUpdated port port) = [] := by
  simp [eventPlan]

end Rules

/-! ## Commands given twice -/

/-- The commands that set something to a given value. -/
inductive Command.Sets : Command → Prop where
  | updateVpn (id : String) (changes : VpnUpdate) : Sets (.mutate (.updateVpn id changes))
  | updateRouter (owner id : String) (changes : RouterTermsUpdate) :
    Sets (.mutate (.updateRouter owner id changes))
  | updatePort (owner id : String) (changes : PortTermsUpdate) :
    Sets (.mutate (.updatePort owner id changes))
  | addNetwork (network : Network) : Sets (.addNetwork network)
  | addSubnet (subnet : Subnet) : Sets (.addSubnet subnet)
  | createPort (port : Port) : Sets (.createPort port)
  | takePort (port : Port) : Sets (.updatePort port)
  | setPortStatus (id : String) (status : PortStatus) : Sets (.setPortStatus id status)
  | addInterface (router network : String) : Sets (.addInterface router network)

namespace Service

variable {setup : Setup} {s : Service} {c : Command} {reply : Reply}

/-- A command is answered with `reply` and leaves everything as it is. -/
def Rests (setup : Setup) (s : Service) (c : Command) (reply : Reply) : Prop :=
  (s.apply setup c).answer = .ok reply ∧ (s.apply setup c).service = s

/-- An update that was carried out leaves everything as it is when it is made again. -/
theorem rests_mutate {m : Mutation} (hdeed : m.deed = .update)
    (h : (s.apply setup (.mutate m)).answer = .ok reply) :
    Rests setup (s.apply setup (.mutate m)).service (.mutate m) reply := by
  obtain ⟨staged, hstages, hcheck, hreply⟩ := exists_stages_of_ok h
  obtain ⟨-, htables, htopology⟩ := mutate_of_check_ok hstages hcheck
  generalize (s.apply setup (.mutate m)).service = after at htables htopology ⊢
  have hagain : after.tables.Stages (after.freshId setup) m
      ⟨staged.change.again, staged.committed, staged.committed⟩ := by
    rw [htables]
    exact hstages.again hdeed _
  have hpass : Rules.check setup.policy after.topology staged.committed
      staged.change.again = .ok () := by
    rw [htopology, Rules.check_again, ← hstages.pending_of_update hdeed]
    exact hcheck
  refine ⟨?_, ?_⟩
  · rw [(mutate_of_check_ok hagain hpass).1, Change.reply_again, hreply]
  · rw [service_of_check_ok hagain hpass, Rules.plan_again _ _ _ hstages hdeed,
      Mutation.needsId_of_update hdeed, ← htables]
    simp [Plan.sent]

/-- Taking note of a port that is known as it is. -/
theorem putPort_of_port? {port : Port} (h : s.topology.port? port.id = some port) :
    (s.putPort setup port).answer = .ok .nothing ∧ (s.putPort setup port).service = s := by
  have hevent : s.portEvent port = .portUpdated port port := by rw [portEvent, h]
  refine ⟨(putPort_eq port).1, ?_⟩
  rw [(putPort_eq port).2, hevent, Rules.eventPlan_portUpdated_self,
    Topology.putPort_of_port? h]
  simp [Plan.sent]

/-- A port that was taken note of need not be taken note of again. -/
theorem putPort_putPort (port : Port) :
    ((s.putPort setup port).service.putPort setup port).answer = .ok .nothing ∧
      ((s.putPort setup port).service.putPort setup port).service =
        (s.putPort setup port).service := by
  have hknown : (s.putPort setup port).service.topology.port? port.id = some port := by
    rw [(putPort_eq port).2]
    exact Topology.port?_putPort s.topology port
  exact putPort_of_port? hknown

theorem rests_setPortStatus {id : String} {status : PortStatus}
    (h : (s.apply setup (.setPortStatus id status)).answer = .ok reply) :
    Rests setup (s.apply setup (.setPortStatus id status)).service
      (.setPortStatus id status) reply := by
  rw [apply] at h ⊢
  cases hport : s.topology.port? id with
  | none => rw [setPortStatus, hport] at h; cases h
  | some port =>
    obtain rfl := Topology.id_of_port? hport
    rw [setPortStatus_eq status hport] at h ⊢
    obtain rfl := Except.ok.inj ((putPort_eq _).1.symm.trans h)
    have hagain : (s.putPort setup { port with status := status }).service.topology.port?
        port.id = some { port with status := status } := by
      rw [(putPort_eq _).2]
      exact Topology.port?_putPort s.topology { port with status := status }
    rw [Rests, apply, setPortStatus_eq status hagain]
    exact putPort_putPort _

/-- The veto looks at the tables only, which plugging does not change. -/
theorem rests_addInterface {router network : String}
    (h : (s.apply setup (.addInterface router network)).answer = .ok reply) :
    Rests setup (s.apply setup (.addInterface router network)).service
      (.addInterface router network) reply := by
  rw [apply] at h ⊢
  cases hcheck : Rules.checkInterface s.tables router network with
  | error refusal => rw [addInterface_of_vetoed hcheck] at h; cases h
  | ok _ =>
    cases hplugged : s.topology.isPlugged router network with
    | true =>
      have hsame : s.addInterface setup router network = ⟨.ok .nothing, s, []⟩ :=
        addInterface_of_plugged hcheck hplugged
      rw [hsame] at h ⊢
      obtain rfl := Except.ok.inj h
      rw [Rests, apply, hsame]
      exact ⟨rfl, rfl⟩
    | false =>
      have hmem : (s.topology.plug router network).isPlugged router network = true :=
        Topology.isPlugged_eq_true.2 (Topology.mem_interfaces_plug.2 (Or.inr rfl))
      have hagain (past : List Notification) :
          { s with topology := s.topology.plug router network, past := past }.addInterface
            setup router network = ⟨.ok .nothing, _, []⟩ :=
        addInterface_of_plugged hcheck hmem
      rw [addInterface_of_unplugged hcheck hplugged] at h ⊢
      obtain rfl := Except.ok.inj ((noted_eq _).1.symm.trans h)
      rw [(noted_eq _).2, Rests, apply, hagain]
      exact ⟨rfl, rfl⟩

/-- A command that sets something and succeeds leaves everything as it is when it is
given again, and is answered in the same way. -/
theorem Rests.of_sets (hsets : c.Sets) (h : (s.apply setup c).answer = .ok reply) :
    Rests setup (s.apply setup c).service c reply := by
  cases hsets with
  | updateVpn | updateRouter | updatePort => exact rests_mutate rfl h
  | addNetwork network =>
    obtain rfl := Except.ok.inj h
    simp only [Rests, apply, Topology.putNetwork, upsert_upsert, and_self]
  | addSubnet subnet =>
    obtain rfl := Except.ok.inj h
    simp only [Rests, apply, Topology.putSubnet, upsert_upsert, and_self]
  | createPort port | takePort port =>
    obtain rfl := Except.ok.inj ((putPort_eq port).1.symm.trans h)
    exact putPort_putPort port
  | setPortStatus id status => exact rests_setPortStatus h
  | addInterface router network => exact rests_addInterface h

/-- Where a command that sets something succeeds it can be given again: it succeeds with
the same answer, tables, topology and all else stay as they are, and the agent is told
nothing. -/
theorem replay_of_ok (setup : Setup) (s : Service) (c : Command) (reply : Reply)
    (hsets : c.Sets) (hreply : (s.apply setup c).answer = .ok reply) :
    let after := (s.apply setup c).service
    (after.apply setup c).answer = .ok reply ∧ (after.apply setup c).service = after ∧
      after.sentBy setup c = [] := by
  intro after
  obtain ⟨hanswer, hservice⟩ := Rests.of_sets hsets hreply
  refine ⟨hanswer, hservice, sentBy_of_past ?_⟩
  rw [hservice, List.append_nil]

/-- A VPN behind a router that is plugged into a network with an active port. -/
def behindRouter : List Command := [
  .createPort (Scenario.activePort "p1" "n1"),
  .mutate (.createVpn (Scenario.vpn .l3 "v1" [])),
  .addInterface "r1" "n1",
  .mutate (.createRouter "v1" (Scenario.association "a1" "r1" {}))]

/-- The agent is told of new terms of the association, and only once. -/
theorem replay_of_ok_behindRouter :
    let s := applyAll .plain {} behindRouter
    let c := Command.mutate (.updateRouter "v1" "a1" { advertiseExtraRoutes := some false })
    let after := (s.apply .plain c).service
    (s.sentBy .plain c).length = 1 ∧ (after.apply .plain c).answer.isOk = true ∧
      (after.apply .plain c).service = after ∧ after.sentBy .plain c = [] := by
  intro s c after
  have hreply : (s.apply .plain c).answer =
      .ok (.router ⟨"a1", "v1", "r1", Scenario.tenant, ⟨false⟩⟩) := rfl
  obtain ⟨hanswer, hservice, hsent⟩ := replay_of_ok .plain s c _ (.updateRouter _ _ _) hreply
  exact ⟨by decide, congrArg Except.isOk hanswer, hservice, hsent⟩

end Service
end VpnAttach
