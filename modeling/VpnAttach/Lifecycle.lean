import VpnAttach.Journal.Basic
import VpnAttach.Tables.Mutation

/-!
# The lifecycle of a mutation

A mutation is staged, checked, committed and announced.  Hooks do the checking
and the announcing.  The check looks at the pending tables and may refuse the
change, which is then dropped; the announcement comes after the commit and
looks at the committed tables, and its failure is only written down.

Hooks have a state `σ` of their own, which `perform` hands from one call to
the next.  A hook that is not called leaves no trace in it.
-/

namespace VpnAttach

/-- What is done before and after a change is committed. -/
structure Hooks (σ : Type) where
  /-- May refuse a change. -/
  check : Tables → Change → σ → Except Refusal Unit × σ
  /-- Tells others about a committed change. -/
  announce : Tables → Change → σ → Delivery × σ

/-- Hooks that accept everything and tell nobody. -/
def Hooks.idle {σ : Type} : Hooks σ where
  check _ _ s := (.ok (), s)
  announce _ _ s := (.ok (), s)

/-- The name of a mutation, as a command and in the journal. -/
def Mutation.action : Mutation → String
  | .createVpn _ => "create_bgpvpn"
  | .updateVpn _ _ => "update_bgpvpn"
  | .deleteVpn _ => "delete_bgpvpn"
  | .createNetwork _ _ => "create_net_assoc"
  | .deleteNetwork _ _ => "delete_net_assoc"
  | .createRouter _ _ => "create_router_assoc"
  | .updateRouter _ _ _ => "update_router_assoc"
  | .deleteRouter _ _ => "delete_router_assoc"
  | .createPort _ _ => "create_port_assoc"
  | .updatePort _ _ _ => "update_port_assoc"
  | .deletePort _ _ => "delete_port_assoc"

/-- The name of the mutation that makes a change. -/
def Change.action : Change → String
  | .vpnCreated _ => "create_bgpvpn"
  | .vpnUpdated _ _ => "update_bgpvpn"
  | .vpnDeleted _ => "delete_bgpvpn"
  | .networkCreated _ => "create_net_assoc"
  | .networkDeleted _ => "delete_net_assoc"
  | .routerCreated _ => "create_router_assoc"
  | .routerUpdated _ _ => "update_router_assoc"
  | .routerDeleted _ => "delete_router_assoc"
  | .portCreated _ => "create_port_assoc"
  | .portUpdated _ _ => "update_port_assoc"
  | .portDeleted _ => "delete_port_assoc"

/-- The category under which a deed is audited. -/
def Deed.category : Deed → AuditCategory
  | .create => .resourceCreate
  | .update => .resourceModify
  | .delete => .resourceDelete

namespace Lifecycle

/-- The component that the audit records name. -/
def source : String := "AssociationLifecycle"

/-- The record of a mutation, as a success. -/
def decision (m : Mutation) : AuditRecord where
  category := m.deed.category
  source := source
  action := m.action
  objectType := some m.objectType.name

/-- The record of a mutation that was committed. -/
def granted (m : Mutation) (change : Change) : AuditRecord :=
  { decision m with objectId := some change.objectId }

/-- The record of a mutation that was refused. -/
def denied (m : Mutation) (refusal : Refusal) : AuditRecord :=
  { (decision m).denied refusal.message with
    details := some (.obj [("error_kind", .str refusal.kind)]) }

/-- The record of a committed mutation that the agent could not be told. -/
def unannounced (m : Mutation) (change : Change) (error : NotifyError) :
    AuditRecord where
  category := .resourceModify
  source := source
  action := m.action
  outcome := .failure
  objectId := some change.objectId
  details := some (.obj [("phase", .str "postcommit")])
  error := some error.message

/-- What is written down about an announcement. -/
def afterword (m : Mutation) (change : Change) : Delivery → List Entry
  | .ok () => []
  | .error e =>
    [.notice (.staleAgent m.action change.objectId e),
     .audit (unannounced m change e)]

/-- What came of a mutation. -/
structure Outcome (σ : Type) where
  answer : Except Refusal Reply
  tables : Tables
  hooks : σ
  journal : List Entry

/-- A mutation that was refused. -/
def refused {σ : Type} (t : Tables) (s : σ) (m : Mutation) (refusal : Refusal) :
    Outcome σ where
  answer := .error refusal
  tables := t
  hooks := s
  journal := [.audit (denied m refusal)]

/-- Performs a mutation; `fresh` is the id of an object that is created without
one. -/
def perform {σ : Type} (hooks : Hooks σ) (fresh : String) (t : Tables)
    (m : Mutation) (s : σ) : Outcome σ :=
  match t.stage fresh m with
  | .error refusal => refused t s m refusal
  | .ok staged =>
    match hooks.check staged.pending staged.change s with
    | (.error refusal, s) => refused t s m refusal
    | (.ok (), s) =>
      let (delivery, s) := hooks.announce staged.committed staged.change s
      { answer := .ok staged.change.reply
        tables := staged.committed
        hooks := s
        journal := .audit (granted m staged.change) ::
          afterword m staged.change delivery }

end Lifecycle
end VpnAttach
