import VpnAttach.Address.Fault
import VpnAttach.Address.Ip
import VpnAttach.Address.Json
import VpnAttach.Address.Mac
import VpnAttach.Address.Prefix
import VpnAttach.Address.RouteTarget
import VpnAttach.Agent
import VpnAttach.Command.Basic
import VpnAttach.Command.Json
import VpnAttach.Config
import VpnAttach.Decimal.Nearest
import VpnAttach.Decimal.Shortest
import VpnAttach.Difference
import VpnAttach.Distinct
import VpnAttach.Journal.Audit
import VpnAttach.Journal.Basic
import VpnAttach.Journal.Json
import VpnAttach.Journal.Log
import VpnAttach.Journal.Stamped
import VpnAttach.Json.Basic
import VpnAttach.Json.Number
import VpnAttach.Json.Reader
import VpnAttach.Json.Record
import VpnAttach.Json.Writer
import VpnAttach.Lifecycle
import VpnAttach.Lifecycle.Protocol
import VpnAttach.Main
import VpnAttach.Options
import VpnAttach.Payload.Basic
import VpnAttach.Payload.Json
import VpnAttach.Payload.Targets
import VpnAttach.Policy
import VpnAttach.Proofs.Address.Ip
import VpnAttach.Proofs.Address.Ipv4
import VpnAttach.Proofs.Address.Ipv6
import VpnAttach.Proofs.Address.Json
import VpnAttach.Proofs.Address.Mac
import VpnAttach.Proofs.Address.Prefix
import VpnAttach.Proofs.Address.RouteTarget
import VpnAttach.Proofs.AttachPayload
import VpnAttach.Proofs.AuditTrail
import VpnAttach.Proofs.Binding
import VpnAttach.Proofs.Command.Json
import VpnAttach.Proofs.Delivery
import VpnAttach.Proofs.Difference
import VpnAttach.Proofs.Distinct
import VpnAttach.Proofs.Drafts
import VpnAttach.Proofs.Exclusivity
import VpnAttach.Proofs.FailureCounts
import VpnAttach.Proofs.Failures
import VpnAttach.Proofs.HookProtocol
import VpnAttach.Proofs.IgnoredPorts
import VpnAttach.Proofs.Json.Double
import VpnAttach.Proofs.Json.Equality
import VpnAttach.Proofs.Json.Plain
import VpnAttach.Proofs.Json.Record
import VpnAttach.Proofs.Payload
import VpnAttach.Proofs.Payload.Json
import VpnAttach.Proofs.Payload.Targets
import VpnAttach.Proofs.Permanence
import VpnAttach.Proofs.PortAdmission
import VpnAttach.Proofs.PortLifetime
import VpnAttach.Proofs.Reach
import VpnAttach.Proofs.ReachAnnounced
import VpnAttach.Proofs.ReachDirections
import VpnAttach.Proofs.Redundancy
import VpnAttach.Proofs.Replay
import VpnAttach.Proofs.RouteReferences
import VpnAttach.Proofs.Rules.Admission
import VpnAttach.Proofs.Rules.Announcement
import VpnAttach.Proofs.Service.Effects
import VpnAttach.Proofs.Service.Runs
import VpnAttach.Proofs.Service.Steps
import VpnAttach.Proofs.Sorted
import VpnAttach.Proofs.StaleAttachment
import VpnAttach.Proofs.Stream
import VpnAttach.Proofs.SymmetricDifference
import VpnAttach.Proofs.Tables.Lookup
import VpnAttach.Proofs.Tables.Request
import VpnAttach.Proofs.Tables.Rows
import VpnAttach.Proofs.Tables.Separation
import VpnAttach.Proofs.Tables.Soundness
import VpnAttach.Proofs.Tables.Staging
import VpnAttach.Proofs.Tables.Views
import VpnAttach.Proofs.Tables.Writing
import VpnAttach.Proofs.Text.Lines
import VpnAttach.Proofs.Text.Numeral
import VpnAttach.Proofs.Text.Split
import VpnAttach.Proofs.Text.Utf8
import VpnAttach.Proofs.Topology
import VpnAttach.Proofs.Topology.Json
import VpnAttach.Proofs.Truthfulness
import VpnAttach.Proofs.Updates
import VpnAttach.Proofs.Vpn.Json
import VpnAttach.Proofs.Vpn.Records
import VpnAttach.Proofs.Withdrawal
import VpnAttach.Reach
import VpnAttach.Refusal
import VpnAttach.Rules.Admission
import VpnAttach.Rules.Announcement
import VpnAttach.Rules.Event
import VpnAttach.Scenario.Samples
import VpnAttach.Scenario.Verify
import VpnAttach.Service.Basic
import VpnAttach.Service.Ids
import VpnAttach.Service.Reachable
import VpnAttach.Service.Stream
import VpnAttach.Sorted
import VpnAttach.Tables.Basic
import VpnAttach.Tables.Json
import VpnAttach.Tables.Mutation
import VpnAttach.Tables.Query
import VpnAttach.Tables.Request
import VpnAttach.Tables.Rows
import VpnAttach.Tables.Transaction
import VpnAttach.Tables.Writing
import VpnAttach.Text.Blank
import VpnAttach.Text.Lines
import VpnAttach.Text.Numeral
import VpnAttach.Text.Quoted
import VpnAttach.Text.Split
import VpnAttach.Text.Unprintable
import VpnAttach.Time.Date
import VpnAttach.Time.Timestamp
import VpnAttach.Toml.Moment
import VpnAttach.Toml.Number
import VpnAttach.Toml.Reader
import VpnAttach.Toml.Scalar
import VpnAttach.Toml.Text
import VpnAttach.Toml.Tree
import VpnAttach.Topology.Basic
import VpnAttach.Topology.Json
import VpnAttach.Topology.State
import VpnAttach.Vpn.Association
import VpnAttach.Vpn.Basic
import VpnAttach.Vpn.Json
