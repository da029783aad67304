import VpnAttach.Config
import VpnAttach.Journal.Json
import VpnAttach.Json.Writer
import VpnAttach.Payload.Json

/-!
# Lines of the log

How journal entries and sent notifications are written to the log: as text
with the fields behind the message, or as one JSON object per line.
-/

namespace VpnAttach

/-- A line of the log. -/
structure LogLine where
  level : Level
  /-- The part of the service that the line is about. -/
  target : String
  message : String
  fields : List (String × String)

namespace LogLine

/-- The line for a notification that was sent. -/
def ofNotification (n : Notification) : LogLine where
  level := .info
  target := "agent"
  message := "Agent notification"
  fields := [("op", n.operation.name), ("payload", n.toJson.text)]

/-- The line for a journal entry. -/
def ofEntry : Entry → LogLine
  | .audit record =>
    { level := record.level
      target := "audit"
      message := record.summary
      fields := [("audit_json", (Json.obj record.toMembers).text)] }
  | .notice notice =>
    { level := notice.level
      target := "service"
      message := notice.message
      fields := notice.fields }

/-- A field behind the message. -/
def fieldText (field : String × String) : String :=
  " " ++ field.1 ++ "=" ++ field.2

/-- The text of a line. -/
def render (format : LogFormat) (line : LogLine) : String :=
  match format with
  | .text =>
    line.level.name ++ " " ++ line.target ++ ": " ++ line.message ++
      String.join (line.fields.map fieldText)
  | .json =>
    (Json.obj ([("level", .str line.level.name), ("target", .str line.target),
      ("message", .str line.message)] ++
      line.fields.map fun (key, value) => (key, .str value))).text

/-- Whether a filter lets a line through.  Other filters than the names of
levels let everything through. -/
def passes (filter : String) (line : LogLine) : Bool :=
  match filter with
  | "off" => false
  | "error" => line.level == .error
  | "warn" => line.level != .info
  | _ => true

end LogLine
end VpnAttach
