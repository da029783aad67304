import VpnAttach.Json.Record
import VpnAttach.Policy
import VpnAttach.Text.Blank
import VpnAttach.Toml.Reader
import VpnAttach.Vpn.Json

/-!
# Configuration

The settings of the service: its policy, and how it logs.  They are read from
a TOML document, in which every setting may be left out.  A file that does not
exist counts as one that leaves out everything.
-/

namespace VpnAttach

open Json

/-- How the lines of the log are written. -/
inductive LogFormat where
  | text
  | json
  deriving DecidableEq

/-- The name of a format. -/
def LogFormat.name : LogFormat → String
  | .text => "text"
  | .json => "json"

/-- The format a name stands for. -/
def LogFormat.ofJson? (dialect : Dialect) (json : Json) : Option LogFormat := do
  let name ← json.name? dialect
  [LogFormat.text, LogFormat.json].find? (·.name == name)

/-- What is logged, and how. -/
structure Logging where
  /-- The filter for log lines. -/
  level : String := "info"
  format : LogFormat := .text
  deriving DecidableEq

/-- All settings. -/
structure Config where
  policy : Policy := {}
  logging : Logging := {}
  deriving DecidableEq

/-! ## Encoding and decoding -/

namespace Policy

/-- The encoding of a policy. -/
def toJson (policy : Policy) : Json :=
  .obj [
    ("network_owner_prefix", .str policy.ownerPrefix),
    ("probe_owners", strings policy.probeOwners),
    ("emitted_vpn_types", .arr (policy.emitted.map VpnKind.toJson)),
    ("max_router_assocs_per_bgpvpn", .int policy.routerLimit)]

/-- The members of a policy. -/
def memberNames : List String :=
  ["network_owner_prefix", "probe_owners", "emitted_vpn_types",
   "max_router_assocs_per_bgpvpn"]

/-- Decodes a policy. -/
def ofJson? (dialect : Dialect) (json : Json) : Option Policy := do
  let [ownerPrefix, probeOwners, emitted, routerLimit] ←
    json.record? dialect memberNames | none
  let default : Policy := {}
  return {
    ownerPrefix := ← withDefault default.ownerPrefix string? ownerPrefix
    probeOwners := ← withDefault default.probeOwners (list? string?) probeOwners
    emitted := ← withDefault default.emitted
      (list? (VpnKind.ofJson? dialect)) emitted
    routerLimit := ← withDefault default.routerLimit
      (natBelow? UInt64.size) routerLimit }

end Policy

namespace Logging

/-- The encoding of the logging settings. -/
def toJson (logging : Logging) : Json :=
  .obj [("level", .str logging.level), ("format", .str logging.format.name)]

/-- Decodes the logging settings. -/
def ofJson? (dialect : Dialect) (json : Json) : Option Logging := do
  let [level, format] ← json.record? dialect ["level", "format"] | none
  let default : Logging := {}
  return {
    level := ← withDefault default.level string? level
    format := ← withDefault default.format (LogFormat.ofJson? dialect) format }

end Logging

namespace Config

/-- The encoding of all settings. -/
def toJson (config : Config) : Json :=
  .obj [("driver", config.policy.toJson), ("logging", config.logging.toJson)]

/-- Decodes all settings. -/
def ofJson? (dialect : Dialect) (json : Json) : Option Config := do
  let [policy, logging] ← json.record? dialect ["driver", "logging"] | none
  return {
    policy := ← withDefault {} (Policy.ofJson? dialect) policy
    logging := ← withDefault {} (Logging.ofJson? dialect) logging }

end Config

/-! ## Reading -/

/-- Why a configuration cannot be used. -/
inductive ConfigFault where
  /-- The file is there, but its text cannot be read. -/
  | unreadable
  /-- The text is not a document, or has settings of the wrong type. -/
  | malformed
  /-- A setting has a value that makes no sense. -/
  | invalid (setting demand : String)
  deriving DecidableEq

/-- The text of a fault. -/
def ConfigFault.message : ConfigFault → String
  | .unreadable => "Failed to read configuration file"
  | .malformed => "Failed to parse configuration"
  | .invalid setting demand =>
    "Invalid configuration for " ++ setting ++ ": " ++ demand

/-- What is found where a configuration file should be. -/
inductive ConfigFile where
  | missing
  | unreadable
  | document (text : String)
  deriving DecidableEq

namespace Config

/-- Checks the settings one after the other. -/
def check (config : Config) : Except ConfigFault Unit := do
  if config.policy.ownerPrefix.isEmpty then
    throw (.invalid "driver.network_owner_prefix" "must not be empty")
  if config.policy.routerLimit = 0 then
    throw (.invalid "driver.max_router_assocs_per_bgpvpn" "must be > 0")
  if (Text.trim config.logging.level.toList).isEmpty then
    throw (.invalid "logging.level" "must not be empty")

/-- The settings in a document. -/
def ofString (s : String) : Except ConfigFault Config := do
  match Toml.ofString? s >>= fun toml => ofJson? .document toml.toJson with
  | none => throw .malformed
  | some config =>
    config.check
    return config

/-- The settings in a file. -/
def ofFile : ConfigFile → Except ConfigFault Config
  | .missing => .ok {}
  | .unreadable => .error .unreadable
  | .document text => ofString text

end Config
end VpnAttach
