import VpnAttach.Journal.Audit
import VpnAttach.Json.Writer
import VpnAttach.Time.Timestamp

/-!
# Stamped audit records

An audit record with the time at which it was written, as it is shipped: one
line of JSON with its members in a fixed order.
-/

namespace VpnAttach

open Json

/-- An audit record with its time. -/
structure StampedRecord where
  time : Timestamp
  record : AuditRecord

/-- Decodes a timestamp. -/
def Timestamp.ofJson? : Json → Option Timestamp
  | .str s => Timestamp.ofChars? s.toList
  | _ => none

/-- The category a name stands for. -/
def AuditCategory.ofJson? (dialect : Dialect) (json : Json) :
    Option AuditCategory :=
  json.name? dialect >>= AuditCategory.ofName?

/-- The outcome a name stands for. -/
def AuditOutcome.ofJson? (dialect : Dialect) (json : Json) :
    Option AuditOutcome :=
  json.name? dialect >>= AuditOutcome.ofName?

namespace StampedRecord

/-- The members of a stamped record. -/
def memberNames : List String :=
  ["timestamp", "category", "source", "action", "outcome", "object_id",
   "object_type", "details", "error"]

/-- Whether a value is an array that does not have all items.  The last
members of a stamped record may be missing from an object only. -/
def isShort : Json → Bool
  | .arr items => items.length < memberNames.length
  | _ => false

/-- Decodes a stamped record. -/
def ofJson? (dialect : Dialect) (json : Json) : Option StampedRecord := do
  if isShort json then none
  let [time, category, source, action, outcome, objectId, objectType, details,
    error] ← json.record? dialect memberNames | none
  return {
    time := ← required Timestamp.ofJson? time
    record := {
      category := ← required (AuditCategory.ofJson? dialect) category
      source := ← required string? source
      action := ← required string? action
      outcome := ← required (AuditOutcome.ofJson? dialect) outcome
      objectId := ← ifGiven string? objectId
      objectType := ← ifGiven string? objectType
      details := ← ifGiven kept? details
      error := ← ifGiven string? error } }

/-- The encoding of a stamped record. -/
def toJson (stamped : StampedRecord) : Json :=
  .obj (("timestamp", .str stamped.time.text) :: stamped.record.toMembers)

/-- The line that is shipped. -/
def line (stamped : StampedRecord) : String :=
  stamped.toJson.text

end StampedRecord
end VpnAttach
