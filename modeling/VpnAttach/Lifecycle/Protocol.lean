import VpnAttach.Lifecycle
import VpnAttach.Tables.Query
import VpnAttach.Tables.Request
import VpnAttach.Tables.Writing

/-!
# The protocol of hooks

What hooks may rely on, whatever they do themselves.  `performInPlace` goes about a
mutation step by step, in the order in which its parts are looked up, written and
checked.  `Hooks.noting` notes which hooks are called, and with what.  `Change.Tells`
says of a change that it is the one that was asked for, and that the tables show it.
`Protocol` lists the ways in which a mutation may go, with the calls that are made on
each of them.
-/

namespace VpnAttach

variable {σ ρ : Type}

/-- Performs a mutation step by step.  It is written and checked on a copy of the
tables, and announced in view of those that are committed. -/
def Lifecycle.performInPlace (hooks : Hooks σ) (fresh : String) (t : Tables)
    (m : Mutation) (s : σ) : Outcome σ :=
  match Writing.transact (Writing.attempt hooks.check fresh m) t s with
  | (.error refusal, t, s) => refused t s m refusal
  | (.ok change, t, s) =>
    let (delivery, s) := hooks.announce t change s
    { answer := .ok change.reply
      tables := t
      hooks := s
      journal := .audit (granted m change) :: afterword m change delivery }

/-- The outcome with another view of the state of the hooks. -/
def Lifecycle.Outcome.map (f : σ → ρ) (outcome : Outcome σ) : Outcome ρ :=
  { outcome with hooks := f outcome.hooks }

/-! ## Calls -/

/-- A call of a hook, with what the hook is shown. -/
inductive HookCall where
  | check (tables : Tables) (change : Change)
  | announce (tables : Tables) (change : Change)
  deriving DecidableEq

/-- Hooks that do what the given ones do, and note when they are called. -/
def Hooks.noting (hooks : Hooks σ) : Hooks (σ × List HookCall) where
  check tables change s :=
    let (verdict, state) := hooks.check tables change s.1
    (verdict, state, s.2 ++ [.check tables change])
  announce tables change s :=
    let (delivery, state) := hooks.announce tables change s.1
    (delivery, state, s.2 ++ [.announce tables change])

/-! ## What a change tells -/

/-- The query for the object that a mutation addresses. -/
def Mutation.query? : Mutation → Option Query
  | .updateVpn id _ | .deleteVpn id => some (.getVpn id)
  | .deleteNetwork owner id => some (.getNetwork owner id)
  | .updateRouter owner id _ | .deleteRouter owner id => some (.getRouter owner id)
  | .updatePort owner id _ | .deletePort owner id => some (.getPort owner id)
  | .createVpn _ | .createNetwork _ _ | .createRouter _ _ | .createPort _ _ => none

/-- The tables in which a change is pending: a deletion still has to be made, anything
else is made already. -/
def Mutation.pending (m : Mutation) (before after : Tables) : Tables :=
  if m.deed = .delete then before else after

/-- The words for an object of this type in messages. -/
def ObjectType.phrase : ObjectType → String
  | .vpn => "bgpvpn"
  | .association kind => kind.phrase

namespace Change

/-- The query for the object that a change is about. -/
def query : Change → Query
  | .vpnCreated vpn | .vpnUpdated _ vpn | .vpnDeleted vpn => .getVpn vpn.id
  | .networkCreated a | .networkDeleted a => .getNetwork a.owner a.id
  | .routerCreated a | .routerUpdated _ a | .routerDeleted a => .getRouter a.owner a.id
  | .portCreated a | .portUpdated _ a | .portDeleted a => .getPort a.owner a.id

/-- The object as it was before, if there was one. -/
def before? : Change → Option Reply
  | .vpnUpdated old _ | .vpnDeleted old => some (.vpn old)
  | .networkDeleted old => some (.network old)
  | .routerUpdated old _ | .routerDeleted old => some (.router old)
  | .portUpdated old _ | .portDeleted old => some (.port old)
  | .vpnCreated _ | .networkCreated _ | .routerCreated _ | .portCreated _ => none

/-- A change tells what a mutation does: it leads from some tables to others, and
`object` is what it has written or removed; `fresh` is the id of an object that is
created without one. -/
structure Tells (change : Change) (fresh : String) (m : Mutation) (before after : Tables)
    (object : Reply) : Prop where
  /-- It is a change of the kind that was asked for. -/
  action : change.action = m.action
  /-- It is about the object that is addressed. -/
  addressed : ∀ query ∈ m.query?, change.query = query
  /-- It shows the object as it was. -/
  found : m.deed ≠ .create → ∃ old, change.before? = some old ∧
    change.query.answer before = .ok old
  /-- A new or updated object has the values that were asked for. -/
  asked : m.deed ≠ .delete → m.AsksFor fresh before object
  /-- A new or updated object is stored as it is shown. -/
  stored : m.deed ≠ .delete → change.reply = object ∧ change.query.answer after = .ok object
  /-- A deleted object is the one that was there. -/
  removed : m.deed = .delete → change.before? = some object ∧ change.reply = .nothing
  /-- A deleted object is not found any more. -/
  gone : m.deed = .delete →
    change.query.answer after = .error (.notFound m.objectType.phrase change.objectId)

end Change

namespace Lifecycle

/-- The ways in which a mutation may go, each with its answer, the tables after it, the
state of the hooks and the calls that were made. -/
inductive Protocol (hooks : Hooks σ) (state : σ) (fresh : String) (t : Tables)
    (m : Mutation) : Except Refusal Reply → Tables → σ → List HookCall → Prop where
  /-- It cannot be made, and no hook is called. -/
  | failed {refusal : Refusal}
    (notWritten : (Writing.write fresh m).run t = .error refusal t) :
    Protocol hooks state fresh t m (.error refusal) t state []
  /-- The check rejects it, and nothing is committed or announced. -/
  | rejected {object : Reply} {after : Tables} {change : Change} {refusal : Refusal}
    {state' : σ} (written : (Writing.write fresh m).run t = .ok object after)
    (tells : change.Tells fresh m t after object)
    (verdict : hooks.check (m.pending t after) change state = (.error refusal, state')) :
    Protocol hooks state fresh t m (.error refusal) t state'
      [.check (m.pending t after) change]
  /-- The check accepts it, and it is committed and then announced; what comes of the
  announcement does not matter. -/
  | accepted {object : Reply} {after : Tables} {change : Change} {delivery : Delivery}
    {state' state'' : σ} (written : (Writing.write fresh m).run t = .ok object after)
    (tells : change.Tells fresh m t after object)
    (verdict : hooks.check (m.pending t after) change state = (.ok (), state'))
    (announced : hooks.announce after change state' = (delivery, state'')) :
    Protocol hooks state fresh t m (.ok change.reply) after state''
      [.check (m.pending t after) change, .announce after change]

end Lifecycle
end VpnAttach
