import Grouproxy.Library.Address
import Grouproxy.Library.AddressText
import Grouproxy.Library.Buckets
import Grouproxy.Library.Calendar
import Grouproxy.Library.Chain
import Grouproxy.Library.Checks
import Grouproxy.Library.Collection
import Grouproxy.Library.CompleteLines
import Grouproxy.Library.DateTime
import Grouproxy.Library.Digits
import Grouproxy.Library.Entries
import Grouproxy.Library.Eviction
import Grouproxy.Library.FirstMatch
import Grouproxy.Library.Groups
import Grouproxy.Library.Handlers
import Grouproxy.Library.Interruptions
import Grouproxy.Library.Ipaddress
import Grouproxy.Library.IpaddressText
import Grouproxy.Library.Json
import Grouproxy.Library.JsonReader
import Grouproxy.Library.Lines
import Grouproxy.Library.Loops
import Grouproxy.Library.Outcomes
import Grouproxy.Library.Prefix
import Grouproxy.Library.Programs
import Grouproxy.Library.PyValue
import Grouproxy.Library.Ranking
import Grouproxy.Library.SlidingWindow
import Grouproxy.Library.Steps
import Grouproxy.Library.Text
import Grouproxy.Library.Transitions
import Grouproxy.Library.Tree
import Grouproxy.Library.TreePaths
import Grouproxy.Library.TreeReading
import Grouproxy.Library.TreeText
import Grouproxy.Library.Urllib
import Grouproxy.Library.Value
import Grouproxy.Model.AccessControl
import Grouproxy.Model.AccessLog
import Grouproxy.Model.AccessMigration
import Grouproxy.Model.Agent
import Grouproxy.Model.AgentApi
import Grouproxy.Model.Apply
import Grouproxy.Model.Audit
import Grouproxy.Model.Auth
import Grouproxy.Model.Backups
import Grouproxy.Model.BlacklistHandlers
import Grouproxy.Model.BlacklistMigration
import Grouproxy.Model.Bundle
import Grouproxy.Model.BundleRepair
import Grouproxy.Model.Bundles
import Grouproxy.Model.Cidr
import Grouproxy.Model.ConnectionArchive
import Grouproxy.Model.Connections
import Grouproxy.Model.Crypto
import Grouproxy.Model.Enforcement
import Grouproxy.Model.Formats
import Grouproxy.Model.Inspection
import Grouproxy.Model.LiveState
import Grouproxy.Model.Liveness
import Grouproxy.Model.Migration
import Grouproxy.Model.NodeProbes
import Grouproxy.Model.Policy
import Grouproxy.Model.Preview
import Grouproxy.Model.Probes
import Grouproxy.Model.Probing
import Grouproxy.Model.ProxySelection
import Grouproxy.Model.RateLimit
import Grouproxy.Model.Releases
import Grouproxy.Model.Restart
import Grouproxy.Model.Retention
import Grouproxy.Model.RouteTargets
import Grouproxy.Model.Routing
import Grouproxy.Model.RoutingImport
import Grouproxy.Model.RoutingPolicy
import Grouproxy.Model.Runtime
import Grouproxy.Model.Singbox
import Grouproxy.Model.SingleNode
import Grouproxy.Model.Sites
import Grouproxy.Model.SourceFetch
import Grouproxy.Model.Spool
import Grouproxy.Model.Store
import Grouproxy.Model.Subscription
import Grouproxy.Model.Tasks
import Grouproxy.Model.Telemetry
import Grouproxy.Model.Workers
import Grouproxy.Verification.Agent.Crash
import Grouproxy.Verification.Agent.Exits
import Grouproxy.Verification.Agent.Failures
import Grouproxy.Verification.Agent.Frames
import Grouproxy.Verification.Agent.LastGood
import Grouproxy.Verification.Agent.Legacy
import Grouproxy.Verification.Agent.Probing
import Grouproxy.Verification.Agent.Restart
import Grouproxy.Verification.Agent.Rollback
import Grouproxy.Verification.Agent.Runs
import Grouproxy.Verification.Audit.Chain
import Grouproxy.Verification.Audit.Redaction
import Grouproxy.Verification.Auth.AccountRuns
import Grouproxy.Verification.Auth.Accounts
import Grouproxy.Verification.Auth.Codes
import Grouproxy.Verification.Auth.Sessions
import Grouproxy.Verification.Backend.AccessPreview
import Grouproxy.Verification.Backend.Acknowledgements
import Grouproxy.Verification.Backend.ActiveReleases
import Grouproxy.Verification.Backend.AllOrNothing
import Grouproxy.Verification.Backend.BlacklistChanges
import Grouproxy.Verification.Backend.BlacklistMigration
import Grouproxy.Verification.Backend.BlacklistRestart
import Grouproxy.Verification.Backend.BlacklistRows
import Grouproxy.Verification.Backend.BundleRepair
import Grouproxy.Verification.Backend.Bundles
import Grouproxy.Verification.Backend.CanonicalDomains
import Grouproxy.Verification.Backend.Circuits
import Grouproxy.Verification.Backend.Deliveries
import Grouproxy.Verification.Backend.DraftCalls
import Grouproxy.Verification.Backend.EndpointClasses
import Grouproxy.Verification.Backend.Frames
import Grouproxy.Verification.Backend.Idempotency
import Grouproxy.Verification.Backend.ImportedRoutes
import Grouproxy.Verification.Backend.Inheritance
import Grouproxy.Verification.Backend.Migration
import Grouproxy.Verification.Backend.PolicyAgreement
import Grouproxy.Verification.Backend.ProxySelections
import Grouproxy.Verification.Backend.Publications
import Grouproxy.Verification.Backend.RateLimiter
import Grouproxy.Verification.Backend.ReleaseRuns
import Grouproxy.Verification.Backend.RepairAgreement
import Grouproxy.Verification.Backend.Rollbacks
import Grouproxy.Verification.Backend.RouteTargets
import Grouproxy.Verification.Backend.RoutingImport
import Grouproxy.Verification.Backend.RoutingLock
import Grouproxy.Verification.Backend.RoutingPolicy
import Grouproxy.Verification.Backend.Selections
import Grouproxy.Verification.Backend.Serving
import Grouproxy.Verification.Backend.SiteSteps
import Grouproxy.Verification.Backend.TargetedRules
import Grouproxy.Verification.Backend.Telemetry
import Grouproxy.Verification.Backend.Versions
import Grouproxy.Verification.Backups.Chunks
import Grouproxy.Verification.Backups.MemberNames
import Grouproxy.Verification.Backups.Promises
import Grouproxy.Verification.Backups.ReadBack
import Grouproxy.Verification.Backups.Recovery
import Grouproxy.Verification.Backups.Restore
import Grouproxy.Verification.Backups.Retained
import Grouproxy.Verification.Backups.Retention
import Grouproxy.Verification.Backups.RetentionPass
import Grouproxy.Verification.Policy.Acceptance
import Grouproxy.Verification.Policy.AccessMigration
import Grouproxy.Verification.Policy.Coverage
import Grouproxy.Verification.Policy.Enforcement
import Grouproxy.Verification.Policy.Networks
import Grouproxy.Verification.Policy.Patterns
import Grouproxy.Verification.Policy.PlainRequests
import Grouproxy.Verification.Policy.Portability
import Grouproxy.Verification.Policy.Preview
import Grouproxy.Verification.Policy.Resolution
import Grouproxy.Verification.Policy.Script
import Grouproxy.Verification.Signing
import Grouproxy.Verification.Singbox.AutoGroup
import Grouproxy.Verification.Singbox.AutoNames
import Grouproxy.Verification.Singbox.Endpoints
import Grouproxy.Verification.Singbox.References
import Grouproxy.Verification.Singbox.Refresh
import Grouproxy.Verification.Subscriptions.FormatTrees
import Grouproxy.Verification.Subscriptions.Formats
import Grouproxy.Verification.Subscriptions.NodeLinks
import Grouproxy.Verification.Subscriptions.OutboundValues
import Grouproxy.Verification.Subscriptions.SingleNode
import Grouproxy.Verification.Subscriptions.SourceFetch
import Grouproxy.Verification.Subscriptions.VlessLinks
import Grouproxy.Verification.Tasks.Cancellations
import Grouproxy.Verification.Tasks.Claims
import Grouproxy.Verification.Tasks.NodeProbes
import Grouproxy.Verification.Tasks.Retries
import Grouproxy.Verification.Tasks.Steps
import Grouproxy.Verification.Tasks.Survival
import Grouproxy.Verification.Tasks.Terminal
import Grouproxy.Verification.Telemetry.AccessLog
import Grouproxy.Verification.Telemetry.ConnectionArchive
import Grouproxy.Verification.Telemetry.Connections
import Grouproxy.Verification.Telemetry.Freshness
import Grouproxy.Verification.Telemetry.Liveness
import Grouproxy.Verification.Telemetry.Spool
import Grouproxy.Verification.Telemetry.SpoolOrder

/-! # Grouproxy

A model of the monitor and of the backend, and its verification.
-/
