import VpnAttach.Command.Basic
import VpnAttach.Rules.Event

/-!
# The service

The service applies commands one after the other.  Its state are the tables,
the topology and what it has sent to the agent.  The answers of the agent are
written to the journal and have no other effect: what is stored and what is
sent does not depend on them.
-/

namespace VpnAttach

/-- What a service works with. -/
structure Setup where
  policy : Policy := {}
  agent : Agent := Agent.obliging
  /-- The ids for objects that are created without one, in the order in which
  they are used. -/
  ids : Nat → String

/-- The state of a service. -/
structure Service where
  tables : Tables := {}
  topology : Topology := {}
  /-- Everything that was sent to the agent. -/
  past : List Notification := []
  /-- How many ids were used. -/
  drawn : Nat := 0
  deriving DecidableEq

/-- What came of a command. -/
structure Step where
  answer : Except Refusal Reply
  service : Service
  journal : List Entry

namespace Service

variable (setup : Setup) (s : Service)

/-- The id for the next object that is created without one. -/
def freshId : String :=
  setup.ids s.drawn

/-- Carries out a plan. -/
def send (plan : Plan) : Delivery × Service :=
  (plan.deliver setup.agent s.past, { s with past := s.past ++ plan.sent })

/-- Tells the agent about an event; a failure is written down. -/
def react (event : TopologyEvent) : Service × List Entry :=
  match s.send setup (Rules.eventPlan setup.policy s.topology s.tables event) with
  | (.ok (), s) => (s, [])
  | (.error e, s) => (s, [.notice (event.notice e)])

/-- The rules of admission and announcement as hooks.  Their state is what was
sent to the agent. -/
def hooks (setup : Setup) (topology : Topology) : Hooks (List Notification) where
  check tables change past := (Rules.check setup.policy topology tables change, past)
  announce tables change past :=
    let plan := Rules.plan setup.policy topology tables change
    (plan.deliver setup.agent past, past ++ plan.sent)

/-- Changes one stored object. -/
def mutate (m : Mutation) : Step :=
  let outcome :=
    Lifecycle.perform (hooks setup s.topology) (s.freshId setup) s.tables m s.past
  let used := if m.needsId && outcome.answer.isOk then 1 else 0
  { answer := outcome.answer
    service := { s with
      tables := outcome.tables
      past := outcome.hooks
      drawn := s.drawn + used }
    journal := outcome.journal }

/-- A refusal without a trace. -/
def refuse (refusal : Refusal) : Step :=
  ⟨.error refusal, s, []⟩

/-- Success without an answer, after an event that the agent is told about. -/
def noted (event : TopologyEvent) : Step :=
  let (s, journal) := s.react setup event
  ⟨.ok .nothing, s, journal⟩

/-- Takes note of a port as it is now. -/
def putPort (port : Port) : Step :=
  let s' := { s with topology := s.topology.putPort port }
  match s.topology.port? port.id with
  | some previous => s'.noted setup (.portUpdated port previous)
  | none => s'.noted setup (.portCreated port)

/-- Takes note of the status of a port. -/
def setPortStatus (id : String) (status : PortStatus) : Step :=
  match s.topology.port? id with
  | some port => s.putPort setup { port with status := status }
  | none => s.refuse (.notFound "port" id)

/-- Tells the agent about the end of a port, and forgets the port. -/
def deletePort (id : String) : Step :=
  let (s', journal) := s.react setup (.portDeleted id)
  match s.topology.port? id with
  | some _ =>
    ⟨.ok .nothing, { s' with topology := s'.topology.removePort id }, journal⟩
  | none => ⟨.error (.notFound "port" id), s', journal⟩

/-- Plugs a router into a network, unless that is vetoed. -/
def addInterface (router network : String) : Step :=
  match Rules.checkInterface s.tables router network with
  | .error refusal =>
    ⟨.error refusal, s, [.audit (Rules.vetoed router network refusal)]⟩
  | .ok () =>
    if s.topology.isPlugged router network then ⟨.ok .nothing, s, []⟩
    else
      { s with topology := s.topology.plug router network }.noted setup
        (.interfaceAdded router network)

/-- Unplugs a router from a network. -/
def removeInterface (router network : String) : Step :=
  if s.topology.isPlugged router network then
    { s with topology := s.topology.unplug router network }.noted setup
      (.interfaceRemoved router network)
  else s.refuse (.notFound "router interface" (router ++ ":" ++ network))

/-- Applies a command. -/
def apply : Command → Step
  | .mutate m => s.mutate setup m
  | .showVpn id => ⟨(s.tables.getVpn id).map .vpn, s, []⟩
  | .listVpns => ⟨.ok (.vpns s.tables.listVpns), s, []⟩
  | .addNetwork network =>
    ⟨.ok .nothing, { s with topology := s.topology.putNetwork network }, []⟩
  | .addSubnet subnet =>
    ⟨.ok .nothing, { s with topology := s.topology.putSubnet subnet }, []⟩
  | .createPort port | .updatePort port => s.putPort setup port
  | .setPortStatus id status => s.setPortStatus setup id status
  | .deletePort id => s.deletePort setup id
  | .addInterface router network => s.addInterface setup router network
  | .removeInterface router network => s.removeInterface setup router network

/-- What a command sends. -/
def sentBy (command : Command) : List Notification :=
  (s.apply setup command).service.past.drop s.past.length

end Service
end VpnAttach
