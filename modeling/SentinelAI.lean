import SentinelAI.Support.Calendar
import SentinelAI.Support.Counting
import SentinelAI.Support.Csv
import SentinelAI.Support.DateTime
import SentinelAI.Support.Dict
import SentinelAI.Support.FixedWindow
import SentinelAI.Support.Interleaving
import SentinelAI.Support.Jaccard
import SentinelAI.Support.Json
import SentinelAI.Support.JsonTexts
import SentinelAI.Support.Occurrence
import SentinelAI.Support.Pairs
import SentinelAI.Support.Percentile
import SentinelAI.Support.PyStr
import SentinelAI.Support.Regex
import SentinelAI.Support.Runs
import SentinelAI.Support.Schema
import SentinelAI.Support.Session
import SentinelAI.Support.Spans
import SentinelAI.Support.Spelling
import SentinelAI.Support.Splitting
import SentinelAI.Support.Stages
import SentinelAI.Support.Table
import SentinelAI.Support.Text
import SentinelAI.Support.Tiling
import SentinelAI.Support.Trail
import SentinelAI.Proxy.AgentActions
import SentinelAI.Proxy.AgentPolicy
import SentinelAI.Proxy.Api
import SentinelAI.Proxy.ApiKeys
import SentinelAI.Proxy.Auth
import SentinelAI.Proxy.Ci
import SentinelAI.Proxy.CiClient
import SentinelAI.Proxy.Config
import SentinelAI.Proxy.Dashboard
import SentinelAI.Proxy.DbSession
import SentinelAI.Proxy.Engine
import SentinelAI.Proxy.Events
import SentinelAI.Proxy.Findings
import SentinelAI.Proxy.Generate
import SentinelAI.Proxy.GenerateCalls
import SentinelAI.Proxy.HallucinationScorer
import SentinelAI.Proxy.Http
import SentinelAI.Proxy.InjectionDetector
import SentinelAI.Proxy.Models
import SentinelAI.Proxy.PiiScanner
import SentinelAI.Proxy.Plugins
import SentinelAI.Proxy.Projects
import SentinelAI.Proxy.Provider
import SentinelAI.Proxy.PyAuth
import SentinelAI.Proxy.PyGenerate
import SentinelAI.Proxy.PyMessages
import SentinelAI.Proxy.RateLimiter
import SentinelAI.Proxy.Regression
import SentinelAI.Proxy.Remediation
import SentinelAI.Proxy.Reports
import SentinelAI.Proxy.Routes
import SentinelAI.Proxy.Runner
import SentinelAI.Proxy.SchemaValidator
import SentinelAI.Proxy.Schemas
import SentinelAI.Proxy.Sessions
import SentinelAI.Proxy.Timestamps
import SentinelAI.Gateway.Encoding
import SentinelAI.Gateway.Main
import SentinelAI.Gateway.Pipeline
import SentinelAI.Agents.Forensics
import SentinelAI.Agents.Graph
import SentinelAI.Frontend.AuthClient
import SentinelAI.Frontend.DashboardData
import SentinelAI.Frontend.Playground
import SentinelAI.Frontend.Review
import SentinelAI.Frontend.SampleAttacks
import SentinelAI.Frontend.WeaknessHeuristics
import SentinelAI.Properties.AccountEncoding
import SentinelAI.Properties.AccountRaces
import SentinelAI.Properties.Accounting
import SentinelAI.Properties.Accounts
import SentinelAI.Properties.ActionIsolation
import SentinelAI.Properties.Approval
import SentinelAI.Properties.AuditTrail
import SentinelAI.Properties.AuthLimiter
import SentinelAI.Properties.Baselines
import SentinelAI.Properties.BrowserSession
import SentinelAI.Properties.BuiltInSuite
import SentinelAI.Properties.CallLogs
import SentinelAI.Properties.CiBootstrap
import SentinelAI.Properties.CiGate
import SentinelAI.Properties.CiJob
import SentinelAI.Properties.Comparison
import SentinelAI.Properties.Concurrency
import SentinelAI.Properties.Conversation
import SentinelAI.Properties.Credentials
import SentinelAI.Properties.ElaCoverage
import SentinelAI.Properties.Emails
import SentinelAI.Properties.Exports
import SentinelAI.Properties.FallbackChains
import SentinelAI.Properties.FraudPipeline
import SentinelAI.Properties.Gate
import SentinelAI.Properties.GatewayCredential
import SentinelAI.Properties.GatewayEncoding
import SentinelAI.Properties.GatewayMetadata
import SentinelAI.Properties.GatewayProtocol
import SentinelAI.Properties.GatewayRedaction
import SentinelAI.Properties.GeminiKeys
import SentinelAI.Properties.GroundedScore
import SentinelAI.Properties.Isolation
import SentinelAI.Properties.KeyLifecycle
import SentinelAI.Properties.KeyRaces
import SentinelAI.Properties.LiveFindings
import SentinelAI.Properties.Migration
import SentinelAI.Properties.Monitoring
import SentinelAI.Properties.Patterns
import SentinelAI.Properties.Playground
import SentinelAI.Properties.Policy
import SentinelAI.Properties.ProfileRoundTrip
import SentinelAI.Properties.ProviderErrors
import SentinelAI.Properties.ProxyMetadata
import SentinelAI.Properties.Quota
import SentinelAI.Properties.Redaction
import SentinelAI.Properties.RedactionFrame
import SentinelAI.Properties.Replay
import SentinelAI.Properties.ReportPeriod
import SentinelAI.Properties.Retention
import SentinelAI.Properties.Scrubbing
import SentinelAI.Properties.SelfConsistency
import SentinelAI.Properties.Sessions
import SentinelAI.Properties.StructuredOutput
import SentinelAI.Properties.Suites
import SentinelAI.Properties.Summaries
import SentinelAI.Properties.SyncAtomicity
import SentinelAI.Properties.SyncFindings
import SentinelAI.Properties.Timestamps
import SentinelAI.Properties.Verbatim
import SentinelAI.Properties.Verdict
import SentinelAI.Properties.WeaknessCoach
import SentinelAI.Properties.Writes
