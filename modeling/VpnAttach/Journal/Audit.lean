import VpnAttach.Json.Record

/-!
# Audit records

Every decision about a request is put on record: what was asked for, how it
ended, and why if it did not succeed.
-/

namespace VpnAttach

/-- What kind of event a record is about. -/
inductive AuditCategory where
  | resourceCreate
  | resourceModify
  | resourceDelete
  | topologyEvent
  | systemLifecycle
  deriving DecidableEq

namespace AuditCategory

/-- The name of a category. -/
def name : AuditCategory → String
  | .resourceCreate => "RESOURCE_CREATE"
  | .resourceModify => "RESOURCE_MODIFY"
  | .resourceDelete => "RESOURCE_DELETE"
  | .topologyEvent => "TOPOLOGY_EVENT"
  | .systemLifecycle => "SYSTEM_LIFECYCLE"

/-- Every category. -/
def all : List AuditCategory :=
  [.resourceCreate, .resourceModify, .resourceDelete, .topologyEvent,
   .systemLifecycle]

/-- The category with a name. -/
def ofName? (s : String) : Option AuditCategory :=
  all.find? (·.name == s)

end AuditCategory

/-- How an action ended. -/
inductive AuditOutcome where
  | success
  /-- Done, but the agent could not be told. -/
  | failure
  /-- Refused; nothing was changed. -/
  | denied
  deriving DecidableEq

namespace AuditOutcome

/-- The name of an outcome. -/
def name : AuditOutcome → String
  | .success => "success"
  | .failure => "failure"
  | .denied => "denied"

/-- Every outcome. -/
def all : List AuditOutcome :=
  [.success, .failure, .denied]

/-- The outcome with a name. -/
def ofName? (s : String) : Option AuditOutcome :=
  all.find? (·.name == s)

end AuditOutcome

/-- An audit record, without the time at which it was written. -/
structure AuditRecord where
  category : AuditCategory
  source : String
  action : String
  outcome : AuditOutcome := .success
  objectId : Option String := none
  objectType : Option String := none
  details : Option Json := none
  error : Option String := none

namespace AuditRecord

/-- The record of a failure after the fact. -/
def failed (record : AuditRecord) (error : String) : AuditRecord :=
  { record with outcome := .failure, error := some error }

/-- The record of a refusal. -/
def denied (record : AuditRecord) (error : String) : AuditRecord :=
  { record with outcome := .denied, error := some error }

/-- The members of the encoding. -/
def toMembers (record : AuditRecord) : List (String × Json) :=
  [("category", .str record.category.name),
   ("source", .str record.source),
   ("action", .str record.action),
   ("outcome", .str record.outcome.name)] ++
    Json.memberIf "object_id" .str record.objectId ++
    Json.memberIf "object_type" .str record.objectType ++
    Json.memberIf "details" id record.details ++
    Json.memberIf "error" .str record.error

/-- The line under which a record is logged. -/
def summary (record : AuditRecord) : String :=
  record.action ++ " " ++ record.outcome.name

end AuditRecord
end VpnAttach
