import VpnAttach.Proofs.Service.Runs
import VpnAttach.Scenario.Samples

/-!
# Failures

Two kinds of failure, and neither does any harm.

A command that is refused leaves no trace (`refused_without_trace`), although a
mutation is checked only after it was written: it is carried out on a copy of the
tables (`Lifecycle.perform_eq_performInPlace`), which is dropped.

A failure of the agent changes nothing but the journal (`views_agent`).  The
notifications of a plan are sent one after the other, and whatever the agent answers
to one of them, the next one is sent (`Plan.run_carryOut`).
-/

namespace VpnAttach

/-! ## Refused commands -/

namespace Service

variable {setup : Setup} {s : Service} {c : Command}

/-- The commands of a list that are not refused when their turn comes. -/
def accepted (setup : Setup) : Service → List Command → List Command
  | _, [] => []
  | s, c :: commands =>
    match (s.apply setup c).answer with
    | .ok _ => c :: accepted setup (s.apply setup c).service commands
    | .error _ => accepted setup (s.apply setup c).service commands

/-- Leaving out the commands that are refused makes no difference. -/
theorem applyAll_accepted (setup : Setup) (s : Service) (commands : List Command) :
    applyAll setup s (accepted setup s commands) = applyAll setup s commands := by
  induction commands generalizing s with
  | nil => rfl
  | cons c commands ih =>
    cases hanswer : (s.apply setup c).answer with
    | ok reply =>
      simp only [accepted, hanswer]
      exact ih (s.apply setup c).service
    | error refusal =>
      have hstep : applyAll setup s (c :: commands) = applyAll setup s commands := by
        rw [applyAll, List.foldl_cons, service_of_error hanswer, applyAll]
      simp only [accepted, hanswer]
      rw [hstep, service_of_error hanswer]
      exact ih s

/-- A command that is refused leaves the tables and the topology as they were and
sends nothing to the agent.  A run does as well without the commands that it refuses. -/
theorem refused_without_trace (setup : Setup) (s : Service) :
    (∀ c refusal, (s.apply setup c).answer = .error refusal →
      (s.apply setup c).service.tables = s.tables ∧
        (s.apply setup c).service.topology = s.topology ∧ s.sentBy setup c = []) ∧
      ∀ commands, applyAll setup s (accepted setup s commands) =
        applyAll setup s commands := by
  refine ⟨fun c refusal h => ?_, applyAll_accepted setup s⟩
  have hsame := service_of_error h
  have hsent : s.sentBy setup c = [] := by
    rw [sentBy, hsame, List.drop_length]
  exact ⟨congrArg tables hsame, congrArg topology hsame, hsent⟩

/-- A VPN with a port, a network and a router that is plugged into it, and another VPN
without associations. -/
def attached : List Command := [
  .addNetwork (Scenario.tenantNetwork "net"),
  .createPort (Scenario.activePort "port" "net"),
  .addInterface "router" "net",
  .mutate (.createVpn (Scenario.vpn .l3 "v1" [])),
  .mutate (.createVpn (Scenario.vpn .l3 "v2" [])),
  .mutate (.createNetwork "v1" (Scenario.association "a1" "net" ())),
  .mutate (.createPort "v1" (Scenario.association "a2" "port" {}))]

theorem refused_without_trace_attached :
    let s := applyAll .plain {} attached
    let c := Command.mutate (.createRouter "v2" (Scenario.association "a1" "router" {}))
    (∃ refusal, (s.apply .plain c).answer = .error refusal) ∧
      (s.apply .plain c).service.tables = s.tables ∧
      (s.apply .plain c).service.topology = s.topology ∧ s.sentBy .plain c = [] := by
  intro s c
  have hrefused : (s.apply .plain c).answer =
      .error (.conflict (.routerOnNetwork "router" "net" "v1")) := rfl
  exact ⟨⟨_, hrefused⟩, (refused_without_trace .plain s).1 c _ hrefused⟩

end Service

/-! ## Answers of the agent -/

namespace Plan

variable {agent : Agent}

theorem run_mapM_cons {α β : Type} (f : α → Talk β) (a : α) (as : List α)
    (past : List Notification) :
    ((a :: as).mapM f).run past =
      (((f a).run past).1 :: ((as.mapM f).run ((f a).run past).2).1,
        ((as.mapM f).run ((f a).run past).2).2) := by
  rw [List.mapM_cons]
  rfl

theorem run_call (n : Notification) (past : List Notification) :
    (call agent n).run past = (agent past n, past ++ [n]) :=
  rfl

/-- Every notification of a batch is sent, whatever comes of those before it. -/
theorem run_mapM_call (batch : List Notification) (past : List Notification) :
    (batch.mapM (call agent)).run past = (agent.answers past batch, past ++ batch) := by
  induction batch generalizing past with
  | nil => exact congrArg (Prod.mk []) (List.append_nil past).symm
  | cons n batch ih =>
    rw [run_mapM_cons, run_call, ih, List.append_assoc, List.singleton_append, Agent.answers]

theorem run_callBatch (batch : List Notification) (past : List Notification) :
    (callBatch agent batch).run past =
      (settle (agent.answers past batch), past ++ batch) := by
  rw [callBatch, StateT.run_bind, run_mapM_call]
  rfl

/-- Every batch of a plan is sent, whatever comes of those before it. -/
theorem run_mapM_callBatch (plan : Plan) (past : List Notification) :
    (plan.mapM (callBatch agent)).run past =
      (plan.results agent past, past ++ plan.sent) := by
  induction plan generalizing past with
  | nil => exact congrArg (Prod.mk []) (List.append_nil past).symm
  | cons batch plan ih =>
    rw [run_mapM_cons, run_callBatch, ih, List.append_assoc, results, sent, sent,
      List.flatten_cons]

/-- Carrying out a plan call by call has the result of the plan, and sends it. -/
theorem run_carryOut (plan : Plan) (past : List Notification) :
    (carryOut agent plan).run past = (plan.deliver agent past, past ++ plan.sent) := by
  rw [carryOut, StateT.run_bind, run_mapM_callBatch]
  rfl

end Plan

/-- Hooks that check alike, and leave the same state behind, have a mutation performed
alike.  What they answer to an announcement does not count. -/
theorem Lifecycle.perform_congr {σ : Type} (hooks other : Hooks σ)
    (hcheck : hooks.check = other.check)
    (hannounce : ∀ t change state,
      (hooks.announce t change state).2 = (other.announce t change state).2)
    (fresh : String) (t : Tables) (m : Mutation) (state : σ) :
    (perform hooks fresh t m state).answer = (perform other fresh t m state).answer ∧
      (perform hooks fresh t m state).tables = (perform other fresh t m state).tables ∧
      (perform hooks fresh t m state).hooks = (perform other fresh t m state).hooks := by
  cases hstage : t.stage fresh m with
  | error refusal => simp only [perform, hstage, refused, and_self]
  | ok staged =>
    rcases hchecked : other.check staged.pending staged.change state with
      ⟨refusal | _, state'⟩
    · simp only [perform, hstage, hcheck, hchecked, refused, and_self]
    · simp only [perform, hstage, hcheck, hchecked, true_and]
      exact hannounce staged.committed staged.change state'

namespace Service

variable {setup : Setup} {s : Service} {c : Command}

/-- Whatever is sent is sent call by call. -/
theorem send_eq_carryOut (plan : Plan) :
    s.send setup plan =
      (((Plan.carryOut setup.agent plan).run s.past).1,
        { s with past := ((Plan.carryOut setup.agent plan).run s.past).2 }) := by
  rw [Plan.run_carryOut]
  rfl

/-- Whatever is announced is announced call by call. -/
theorem announce_eq_carryOut (topology : Topology) (t : Tables) (change : Change)
    (past : List Notification) :
    (hooks setup topology).announce t change past =
      (Plan.carryOut setup.agent (Rules.plan setup.policy topology t change)).run past := by
  rw [Plan.run_carryOut]
  rfl

/-- What is seen of a command: its answer, the state it leaves, and what the agent is
sent. -/
structure View where
  answer : Except Refusal Reply
  tables : Tables
  topology : Topology
  sent : List Notification

/-- What is seen of each of some commands. -/
def views (setup : Setup) : Service → List Command → List View
  | _, [] => []
  | s, c :: commands =>
    let step := s.apply setup c
    ⟨step.answer, step.service.tables, step.service.topology, s.sentBy setup c⟩ ::
      views setup step.service commands

variable (agent : Agent)

/-- An event leaves the state that sending its plan does. -/
theorem react_eq_send (event : TopologyEvent) :
    (s.react setup event).1 =
      (s.send setup (Rules.eventPlan setup.policy s.topology s.tables event)).2 := by
  rw [react]
  rcases s.send setup (Rules.eventPlan setup.policy s.topology s.tables event) with
    ⟨e | _, s'⟩
  · rfl
  · rfl

/-- The state after an event does not depend on what the agent answers. -/
theorem react_agent (event : TopologyEvent) :
    (s.react { setup with agent := agent } event).1 = (s.react setup event).1 := by
  rw [react_eq_send, react_eq_send, send_eq_carryOut, send_eq_carryOut,
    Plan.run_carryOut, Plan.run_carryOut]

theorem noted_agent (event : TopologyEvent) :
    (s.noted { setup with agent := agent } event).answer = (s.noted setup event).answer ∧
      (s.noted { setup with agent := agent } event).service =
        (s.noted setup event).service :=
  ⟨rfl, react_agent agent event⟩

theorem putPort_agent (port : Port) :
    (s.putPort { setup with agent := agent } port).answer =
        (s.putPort setup port).answer ∧
      (s.putPort { setup with agent := agent } port).service =
        (s.putPort setup port).service := by
  rw [(putPort_eq port).1, (putPort_eq port).1, (putPort_eq port).2, (putPort_eq port).2]
  exact ⟨rfl, rfl⟩

/-- What comes of a command does not depend on what the agent answers. -/
theorem apply_agent (setup : Setup) (s : Service) (c : Command) :
    (s.apply { setup with agent := agent } c).answer = (s.apply setup c).answer ∧
      (s.apply { setup with agent := agent } c).service = (s.apply setup c).service := by
  cases c with
  | mutate m =>
    have hannounce (t : Tables) (change : Change) (past : List Notification) :
        ((hooks { setup with agent := agent } s.topology).announce t change past).2 =
          ((hooks setup s.topology).announce t change past).2 := by
      rw [announce_eq_carryOut, announce_eq_carryOut, Plan.run_carryOut, Plan.run_carryOut]
    obtain ⟨hanswer, htables, hpast⟩ := Lifecycle.perform_congr
      (hooks { setup with agent := agent } s.topology) (hooks setup s.topology) rfl hannounce
      (s.freshId setup) s.tables m s.past
    have hfresh : s.freshId { setup with agent := agent } = s.freshId setup := rfl
    refine ⟨hanswer, ?_⟩
    simp only [apply, mutate, hfresh, hanswer, htables, hpast]
  | showVpn id => exact ⟨rfl, rfl⟩
  | listVpns => exact ⟨rfl, rfl⟩
  | addNetwork network => exact ⟨rfl, rfl⟩
  | addSubnet subnet => exact ⟨rfl, rfl⟩
  | createPort port => exact putPort_agent agent port
  | updatePort port => exact putPort_agent agent port
  | setPortStatus id status =>
    rw [apply, apply, setPortStatus, setPortStatus]
    cases s.topology.port? id with
    | none => exact ⟨rfl, rfl⟩
    | some port => exact putPort_agent agent { port with status := status }
  | deletePort id =>
    simp only [apply, deletePort, react_agent agent]
    cases s.topology.port? id with
    | none => exact ⟨rfl, rfl⟩
    | some port => exact ⟨rfl, rfl⟩
  | addInterface router network =>
    rw [apply, apply, addInterface, addInterface]
    cases Rules.checkInterface s.tables router network with
    | error refusal => exact ⟨rfl, rfl⟩
    | ok _ =>
      cases s.topology.isPlugged router network with
      | true => exact ⟨rfl, rfl⟩
      | false => exact noted_agent agent (.interfaceAdded router network)
  | removeInterface router network =>
    rw [apply, apply, removeInterface, removeInterface]
    cases s.topology.isPlugged router network with
    | true => exact noted_agent agent (.interfaceRemoved router network)
    | false => exact ⟨rfl, rfl⟩

/-- What is seen of a run does not depend on what the agent answers. -/
theorem views_agent (setup : Setup) (commands : List Command) :
    views { setup with agent := agent } s commands = views setup s commands := by
  induction commands generalizing s with
  | nil => rfl
  | cons c commands ih =>
    obtain ⟨hanswer, hservice⟩ := apply_agent agent setup s c
    simp only [views, sentBy, hanswer, hservice, ih]

end Service
end VpnAttach
