import RestConformance.Assertion
import RestConformance.Credentials
import RestConformance.Harness
import RestConformance.Http.Basic
import RestConformance.Http.Client
import RestConformance.Http.Request
import RestConformance.Http.Message
import RestConformance.Http.Preparation
import RestConformance.Http.Wire
import RestConformance.Json.Basic
import RestConformance.Json.Printer
import RestConformance.Json.Reader
import RestConformance.Link.Basic
import RestConformance.Link.Document
import RestConformance.Link.Inputs
import RestConformance.Main
import RestConformance.Outcome
import RestConformance.Program.Connection
import RestConformance.Proofs.Coupling
import RestConformance.Proofs.Ensures
import RestConformance.Proofs.Expansion
import RestConformance.Proofs.Suite.Bracketing
import RestConformance.Proofs.Suite.Coupling
import RestConformance.Proofs.Suite.Course
import RestConformance.Proofs.Suite.Crashes
import RestConformance.Proofs.Suite.History
import RestConformance.Proofs.Suite.LinkServer
import RestConformance.Proofs.Suite.LinkSet
import RestConformance.Proofs.Suite.OrderIndependence
import RestConformance.Proofs.Suite.Recording
import RestConformance.Proofs.Suite.Reports
import RestConformance.Proofs.Suite.Script
import RestConformance.Registry
import RestConformance.Report.Basic
import RestConformance.Report.Json
import RestConformance.Report.RunId
import RestConformance.Settings
import RestConformance.Suite.FixtureClient
import RestConformance.Suite.Runner
import RestConformance.Suite.Trace
import RestConformance.TestCase
import RestConformance.Text.Bytes
import RestConformance.Text.Basic
import RestConformance.Text.Numerals
import RestConformance.Text.Quoted
import RestConformance.Time.Calendar
import RestConformance.Time.Instant
import RestConformance.Url.Basic
import RestConformance.Url.Percent
import RestConformance.Url.Host
import RestConformance.Url.Idna.CombiningTable
import RestConformance.Url.Idna.Composition
import RestConformance.Url.Idna.Direction
import RestConformance.Url.Idna.Domain
import RestConformance.Url.Idna.Mapping
import RestConformance.Url.Idna.MappingTable
import RestConformance.Url.Idna.Marks
import RestConformance.Url.Idna.Status
import RestConformance.Url.Ipv4
import RestConformance.Url.Ipv6
import RestConformance.Url.Parser
import RestConformance.Url.Punycode
import RestConformance.Url.Reference
import RestConformance.Proofs.Notes
import RestConformance.Proofs.Suite.Leftovers
import RestConformance.Proofs.Server.Authorization
import RestConformance.Proofs.Server.BelowBase
import RestConformance.Proofs.Server.LongLabels
import RestConformance.Proofs.Server.Completeness
import RestConformance.Proofs.Server.Secrecy
import RestConformance.Proofs.Suite.RestCalls
import RestConformance.Proofs.Server.LinkAddresses
import RestConformance.Proofs.Text.Occurrences
import RestConformance.Proofs.Envelopes
import RestConformance.Proofs.Server.Preparation
import RestConformance.Proofs.Server.ConnectFailures
import RestConformance.Proofs.Suite.Narration
import RestConformance.Proofs.Server.Usability
import RestConformance.Proofs.Link.Groups
import RestConformance.Proofs.Link.Payload
import RestConformance.Proofs.Identifiers
import RestConformance.Proofs.Server.PseudoUser
import RestConformance.Proofs.Server.Captures
import RestConformance.Proofs.Settings.Credentials
import RestConformance.Proofs.Settings.WrittenBack
import RestConformance.Proofs.Server.PathJoining
import RestConformance.Proofs.Report.Counters
import RestConformance.Proofs.Json.Records
