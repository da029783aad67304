import VpnAttach.Journal.Json
import VpnAttach.Proofs.Delivery
import VpnAttach.Proofs.Service.Steps
import VpnAttach.Service.Stream

/-!
# The audit trail

Every mutation is put on record once: as a success with the id of its object, or as
denied with the text and the kind of the refusal.  A second record follows if and only
if the mutation was carried out and the agent failed to take one of the notifications
about it.  A vetoed interface is put on record as well, and nothing else is.

`Service.Accounted` says so of a command, and `Service.Trail` of a run.  Both spell the
records out.
-/

namespace VpnAttach

/-- The id of the object that an answer shows. -/
def Reply.objectId? : Reply → Option String
  | .vpn value => some value.id
  | .network a => some a.id
  | .router a => some a.id
  | .port a => some a.id
  | .nothing | .vpns _ | .networks _ | .routers _ | .ports _ => none

/-- The id of the object that a mutation is about: the one it is given, or that of the
object it is answered with. -/
def Mutation.objectId? (reply : Reply) : Mutation → Option String
  | .updateVpn id _ | .deleteVpn id | .deleteNetwork _ id | .updateRouter _ id _
  | .deleteRouter _ id | .updatePort _ id _ | .deletePort _ id => some id
  | .createVpn _ | .createNetwork _ _ | .createRouter _ _ | .createPort _ _ =>
    reply.objectId?

/-- The mutation is about the object that its change is about. -/
theorem Tables.Stages.objectId_eq {t : Tables} {fresh : String} {m : Mutation}
    {staged : Staged} (hm : t.Stages fresh m staged) :
    m.objectId? staged.change.reply = some staged.change.objectId := by
  cases hm with
  | createVpn _ | createNetwork _ _ | createRouter _ _ | createPort _ _ => rfl
  | updateVpn hrow | deleteVpn hrow => exact congrArg some (id_of_row? hrow).symm
  | deleteNetwork _ ha | updateRouter _ ha | deleteRouter _ ha | updatePort _ ha
  | deletePort _ ha => exact congrArg some (Rows.mem_of_find? ha).2.2.symm

namespace Service

variable {setup : Setup} {s : Service}

/-- The audit records of a command. -/
inductive Accounted (setup : Setup) (s : Service) : Command → List AuditRecord → Prop where
  /-- A mutation is carried out, and the agent takes all that it is told. -/
  | granted {m : Mutation} {reply : Reply} {id : String}
    (hanswer : (s.apply setup (.mutate m)).answer = .ok reply)
    (hid : m.objectId? reply = some id)
    (htold : ∀ answer ∈ setup.agent.answers s.past (s.sentBy setup (.mutate m)),
      answer = .ok ()) :
    Accounted setup s (.mutate m) [
      { category := m.deed.category
        source := "AssociationLifecycle"
        action := m.action
        outcome := .success
        objectId := some id
        objectType := some m.objectType.name }]
  /-- A mutation is carried out, and the agent fails to take a part of what it is
  told. -/
  | stale {m : Mutation} {reply : Reply} {id error : String}
    (hanswer : (s.apply setup (.mutate m)).answer = .ok reply)
    (hid : m.objectId? reply = some id)
    (hfailed : ∃ answer ∈ setup.agent.answers s.past (s.sentBy setup (.mutate m)),
      answer ≠ .ok ()) :
    Accounted setup s (.mutate m) [
      { category := m.deed.category
        source := "AssociationLifecycle"
        action := m.action
        outcome := .success
        objectId := some id
        objectType := some m.objectType.name },
      { category := .resourceModify
        source := "AssociationLifecycle"
        action := m.action
        outcome := .failure
        objectId := some id
        details := some (.obj [("phase", .str "postcommit")])
        error := some error }]
  /-- A mutation is refused. -/
  | denied {m : Mutation} {refusal : Refusal}
    (hanswer : (s.apply setup (.mutate m)).answer = .error refusal) :
    Accounted setup s (.mutate m) [
      { category := m.deed.category
        source := "AssociationLifecycle"
        action := m.action
        outcome := .denied
        objectId := none
        objectType := some m.objectType.name
        details := some (.obj [("error_kind", .str refusal.kind)])
        error := some refusal.message }]
  /-- An interface is vetoed. -/
  | vetoed {router network : String} {refusal : Refusal}
    (hanswer : (s.apply setup (.addInterface router network)).answer = .error refusal) :
    Accounted setup s (.addInterface router network) [
      { category := .topologyEvent
        source := "TopologyEventReactor"
        action := "router_interface_add"
        outcome := .denied
        objectId := some (router ++ ":" ++ network)
        objectType := some "router_interface"
        error := some refusal.message }]
  /-- Nothing else is put on record. -/
  | silent {c : Command} (hmutate : ∀ m, c ≠ .mutate m)
    (hplug : ∀ router network, c = .addInterface router network →
      (s.apply setup c).answer.isOk = true) :
    Accounted setup s c []

/-- The audit records of some commands, one after the other. -/
inductive Trail (setup : Setup) : Service → List Command → List AuditRecord → Prop where
  | nil {s : Service} : Trail setup s [] []
  | cons {s : Service} {c : Command} {commands : List Command}
    {records more : List AuditRecord} (haccounted : Accounted setup s c records)
    (hrest : Trail setup (s.apply setup c).service commands more) :
    Trail setup s (c :: commands) (records ++ more)

/-! ## Mutations -/

section Mutation

variable {m : Mutation} {staged : Staged}

/-- The journal of a mutation that is carried out. -/
theorem journal_of_check_ok (hstages : s.tables.Stages (s.freshId setup) m staged)
    (hcheck : Rules.check setup.policy s.topology staged.pending staged.change = .ok ()) :
    (s.apply setup (.mutate m)).journal =
      .audit (Lifecycle.granted m staged.change) ::
        Lifecycle.afterword m staged.change
          ((Rules.plan setup.policy s.topology staged.committed staged.change).deliver
            setup.agent s.past) := by
  simp only [apply, mutate, Lifecycle.perform, hstages.stage_eq, hooks, hcheck]

/-- A mutation is accounted for. -/
theorem accounted_mutate (setup : Setup) (s : Service) (m : Mutation) :
    Accounted setup s (.mutate m) (auditsOf (s.apply setup (.mutate m)).journal) := by
  cases hanswer : (s.apply setup (.mutate m)).answer with
  | error refusal =>
    have hjournal : (s.apply setup (.mutate m)).journal =
        [.audit (Lifecycle.denied m refusal)] := Lifecycle.journal_of_error hanswer
    rw [hjournal]
    exact .denied hanswer
  | ok reply =>
    obtain ⟨staged, hstages, hcheck, rfl⟩ := exists_stages_of_ok hanswer
    have hid := hstages.objectId_eq
    have htold : (Rules.plan setup.policy s.topology staged.committed
        staged.change).deliver setup.agent s.past = .ok () ↔
          ∀ answer ∈ setup.agent.answers s.past (s.sentBy setup (.mutate m)),
            answer = .ok () := by
      rw [sentBy_of_check_ok hstages hcheck]
      exact Plan.deliver_eq_ok _
    rw [journal_of_check_ok hstages hcheck]
    cases hdelivery : (Rules.plan setup.policy s.topology staged.committed
      staged.change).deliver setup.agent s.past with
    | ok _ => exact .granted hanswer hid (htold.1 hdelivery)
    | error e =>
      refine .stale hanswer hid ?_
      rw [hdelivery] at htold
      simpa using htold

end Mutation

/-! ## Other commands -/

/-- A failure to tell the agent about an event is not put on record. -/
theorem auditsOf_react (event : TopologyEvent) : auditsOf (s.react setup event).2 = [] := by
  rw [react]
  rcases s.send setup (Rules.eventPlan setup.policy s.topology s.tables event) with
    ⟨e | _, s'⟩
  · rfl
  · rfl

theorem auditsOf_noted (event : TopologyEvent) :
    auditsOf (s.noted setup event).journal = [] :=
  auditsOf_react event

theorem auditsOf_putPort (port : Port) : auditsOf (s.putPort setup port).journal = [] := by
  rw [putPort]
  cases s.topology.port? port.id with
  | none => exact auditsOf_noted _
  | some previous => exact auditsOf_noted _

/-- Every command is accounted for. -/
theorem accounted_apply (setup : Setup) (s : Service) (c : Command) :
    Accounted setup s c (auditsOf (s.apply setup c).journal) := by
  cases c with
  | mutate m => exact accounted_mutate setup s m
  | showVpn _ | listVpns | addNetwork _ | addSubnet _ => exact .silent (by simp) (by simp)
  | createPort port | updatePort port =>
    rw [apply, auditsOf_putPort]
    exact .silent (by simp) (by simp)
  | setPortStatus id status =>
    have hsilent : auditsOf (s.setPortStatus setup id status).journal = [] := by
      rw [setPortStatus]
      cases s.topology.port? id with
      | none => rfl
      | some port => exact auditsOf_putPort _
    rw [apply, hsilent]
    exact .silent (by simp) (by simp)
  | deletePort id =>
    have hsilent : auditsOf (s.deletePort setup id).journal = [] := by
      rw [deletePort]
      cases s.topology.port? id with
      | none => exact auditsOf_react _
      | some port => exact auditsOf_react _
    rw [apply, hsilent]
    exact .silent (by simp) (by simp)
  | addInterface router network =>
    cases hcheck : Rules.checkInterface s.tables router network with
    | error refusal =>
      have hveto : s.apply setup (.addInterface router network) = _ :=
        addInterface_of_vetoed hcheck
      rw [hveto]
      exact .vetoed (congrArg Step.answer hveto)
    | ok _ =>
      cases hplugged : s.topology.isPlugged router network with
      | true =>
        have hsame : s.apply setup (.addInterface router network) = _ :=
          addInterface_of_plugged hcheck hplugged
        rw [hsame]
        exact .silent (by simp) fun _ _ _ => congrArg (·.answer.isOk) hsame
      | false =>
        have hplug : s.apply setup (.addInterface router network) = _ :=
          addInterface_of_unplugged hcheck hplugged
        rw [hplug, auditsOf_noted]
        exact .silent (by simp) fun _ _ _ => congrArg (·.answer.isOk) hplug
  | removeInterface router network =>
    have hsilent : auditsOf (s.removeInterface setup router network).journal = [] := by
      rw [removeInterface]
      split
      · exact auditsOf_noted _
      · rfl
    rw [apply, hsilent]
    exact .silent (by simp) (by simp)

end Service

/-! ## Runs -/

/-- The command on a line of a stream, if there is one. -/
def Line.command? : Line → Option Command
  | .command c => some c
  | .skipped | .malformed => none

namespace Stream

theorem auditsOf_append (journal more : List Entry) :
    auditsOf (journal ++ more) = auditsOf journal ++ auditsOf more :=
  List.filterMap_append

/-- Taking a command applies it, and puts on record what the command does. -/
theorem take_command (setup : Setup) (stream : Stream) (c : Command) :
    (stream.take setup (.command c)).service = (stream.service.apply setup c).service ∧
      auditsOf (stream.take setup (.command c)).journal =
        auditsOf stream.journal ++ auditsOf (stream.service.apply setup c).journal := by
  rw [take]
  split
  · exact ⟨rfl, auditsOf_append _ _⟩
  · refine ⟨rfl, ?_⟩
    rw [auditsOf_append, auditsOf_append]
    exact List.append_nil _

/-- The lines of a stream add the trail of their commands to the journal. -/
theorem exists_trail (setup : Setup) (stream : Stream) (lines : List Line) :
    ∃ records, Service.Trail setup stream.service (lines.filterMap Line.command?) records ∧
      auditsOf (lines.foldl (take setup) stream).journal =
        auditsOf stream.journal ++ records := by
  induction lines generalizing stream with
  | nil => exact ⟨[], .nil, (List.append_nil _).symm⟩
  | cons line lines ih =>
    obtain ⟨records, htrail, hrecords⟩ := ih (stream.take setup line)
    rw [List.foldl_cons, hrecords]
    cases line with
    | skipped => exact ⟨records, htrail, rfl⟩
    | malformed =>
      refine ⟨records, htrail, ?_⟩
      rw [take, auditsOf_append]
      exact congrArg (· ++ records) (List.append_nil _)
    | command c =>
      obtain ⟨hservice, haudits⟩ := take_command setup stream c
      rw [hservice] at htrail
      refine ⟨_, .cons (Service.accounted_apply setup stream.service c) htrail, ?_⟩
      rw [haudits, List.append_assoc]

/-- Whatever the agent answers, the audit records of a stream of commands are those that
its commands are accounted for by, in their order. -/
theorem trail_stream (setup : Setup) (s : Service) (lines : List Line) :
    Service.Trail setup s (lines.filterMap Line.command?)
      (auditsOf (lines.foldl (take setup) { service := s }).journal) := by
  obtain ⟨records, htrail, hrecords⟩ := exists_trail setup { service := s } lines
  rw [hrecords]
  exact htrail

end Stream
end VpnAttach
