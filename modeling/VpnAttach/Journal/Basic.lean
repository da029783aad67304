import VpnAttach.Agent
import VpnAttach.Journal.Audit
import VpnAttach.Refusal

/-!
# The journal

What is written down while requests are handled: audit records, and notices of
failures that are not reported to the one who asked.
-/

namespace VpnAttach

/-- How urgent a journal entry is. -/
inductive Level where
  | info
  | warn
  | error
  deriving DecidableEq

/-- The name of a level. -/
def Level.name : Level → String
  | .info => "INFO"
  | .warn => "WARN"
  | .error => "ERROR"

/-- A failure that is only written down. -/
inductive Notice where
  /-- A change was committed, but the agent could not be told. -/
  | staleAgent (action objectId : String) (error : NotifyError)
  | portCreation (port : String) (error : NotifyError)
  | portUpdate (port : String) (error : NotifyError)
  | portDeletion (port : String) (error : NotifyError)
  | interfaceAddition (router network : String) (error : NotifyError)
  | interfaceRemoval (router network : String) (error : NotifyError)
  /-- A command of a stream was refused. -/
  | rejectedCommand (command : String) (refusal : Refusal)
  /-- A line of a stream is not a command. -/
  | malformedCommand
  deriving DecidableEq

namespace Notice

/-- How urgent a notice is. -/
def level : Notice → Level
  | .staleAgent _ _ _ | .rejectedCommand _ _ | .malformedCommand => .warn
  | _ => .error

/-- The text of a notice. -/
def message : Notice → String
  | .staleAgent _ _ _ =>
    "Postcommit notification failed, agent state may be stale"
  | .portCreation _ _ => "Failed to handle port creation"
  | .portUpdate _ _ => "Failed to handle port update"
  | .portDeletion _ _ => "Failed to handle port deletion"
  | .interfaceAddition _ _ _ => "Failed to handle router interface addition"
  | .interfaceRemoval _ _ _ => "Failed to handle router interface removal"
  | .rejectedCommand _ _ => "Command rejected"
  | .malformedCommand => "Malformed command, skipping"

/-- The named values that go with a notice. -/
def fields : Notice → List (String × String)
  | .staleAgent action objectId error =>
    [("action", action), ("object_id", objectId), ("error", error.message)]
  | .portCreation port error | .portUpdate port error
  | .portDeletion port error => [("port_id", port), ("error", error.message)]
  | .interfaceAddition router network error
  | .interfaceRemoval router network error =>
    [("router_id", router), ("network_id", network), ("error", error.message)]
  | .rejectedCommand command refusal =>
    [("command", command), ("error", refusal.message), ("kind", refusal.kind)]
  | .malformedCommand => []

end Notice

/-- An entry of the journal. -/
inductive Entry where
  | audit (record : AuditRecord)
  | notice (notice : Notice)

/-- A record is urgent unless it is about a success. -/
def AuditRecord.level (record : AuditRecord) : Level :=
  if record.outcome = .success then .info else .warn

end VpnAttach
