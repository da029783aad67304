import VpnAttach.Journal.Basic

/-!
# Journal entries as JSON
-/

namespace VpnAttach

open Json

/-- The encoding of an audit record, with its level and its line in the log. -/
def AuditRecord.toJson (record : AuditRecord) : Json :=
  .obj (record.toMembers ++
    [("level", .str record.level.name), ("log", .str record.summary)])

/-- The encoding of a notice, with its level and its text. -/
def Notice.toJson (notice : Notice) : Json :=
  .obj (notice.fields.map (fun (key, value) => (key, Json.str value)) ++
    [("message", .str notice.message), ("level", .str notice.level.name)])

/-- The audit records of a journal. -/
def auditsOf (journal : List Entry) : List AuditRecord :=
  journal.filterMap fun
    | .audit record => some record
    | .notice _ => none

/-- The notices of a journal. -/
def noticesOf (journal : List Entry) : List Notice :=
  journal.filterMap fun
    | .audit _ => none
    | .notice notice => some notice

end VpnAttach
