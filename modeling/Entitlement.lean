import Entitlement.Command.Line
import Entitlement.Command.Startup
import Entitlement.Config.Build
import Entitlement.Config.Check
import Entitlement.Config.Error
import Entitlement.Config.Reader
import Entitlement.Config.Settings
import Entitlement.Count
import Entitlement.Credential.Keys
import Entitlement.Credential.Provider
import Entitlement.Credential.Signer
import Entitlement.Credential.Source
import Entitlement.Credential.Token
import Entitlement.Digest.Hmac
import Entitlement.Digest.Sha256
import Entitlement.Environment
import Entitlement.Error
import Entitlement.Filter
import Entitlement.Fresh
import Entitlement.Gate
import Entitlement.Http.MediaType
import Entitlement.Http.Reply
import Entitlement.Http.Router
import Entitlement.Identity
import Entitlement.Json.Printer
import Entitlement.Json.Reader
import Entitlement.Json.Token
import Entitlement.Log
import Entitlement.Main
import Entitlement.Override
import Entitlement.Permission
import Entitlement.Pool.Registry
import Entitlement.Pool.Rehearsal
import Entitlement.Pool.Settings
import Entitlement.Pool.Staged
import Entitlement.Pool.TenantPool
import Entitlement.Proofs.Order
import Entitlement.Proofs.Override
import Entitlement.Proofs.Role.Build
import Entitlement.Proofs.Role.Cycle
import Entitlement.Proofs.Role.Layers
import Entitlement.Proofs.Run
import Entitlement.Proofs.Service.Calls
import Entitlement.Proofs.Service.Event
import Entitlement.Proofs.Service.Gather
import Entitlement.Proofs.Service.Resolve
import Entitlement.Proofs.View
import Entitlement.Proofs.Wire.Decision
import Entitlement.Proofs.Wire.Graph
import Entitlement.Role.Build
import Entitlement.Role.Closure
import Entitlement.Role.Cycle
import Entitlement.Role.Map
import Entitlement.Service.Calls
import Entitlement.Service.Gather
import Entitlement.Service.Parts
import Entitlement.Service.Resolve
import Entitlement.Sql.Database
import Entitlement.Sql.Row
import Entitlement.Sql.Statement
import Entitlement.Sql.Store
import Entitlement.Store.Dataset
import Entitlement.Store.Fault
import Entitlement.Store.Memory
import Entitlement.Store.Query
import Entitlement.Store.Run
import Entitlement.Store.Transaction
import Entitlement.Table
import Entitlement.Text.Blank
import Entitlement.Text.CaseTable
import Entitlement.Text.Digits
import Entitlement.Text.Hex
import Entitlement.Text.Lower
import Entitlement.Text.Percent
import Entitlement.Text.PrintTable
import Entitlement.Text.Quoted
import Entitlement.Text.Range
import Entitlement.Text.Utf8
import Entitlement.Time.Calendar
import Entitlement.Time.Moment
import Entitlement.Time.Span
import Entitlement.Time.Stamp
import Entitlement.Toml.Document
import Entitlement.Toml.Scalar
import Entitlement.Toml.Scan
import Entitlement.Toml.Value
import Entitlement.Url.Domain
import Entitlement.Url.DomainTable
import Entitlement.Url.Error
import Entitlement.Url.Host
import Entitlement.Url.Ipv4
import Entitlement.Url.Ipv6
import Entitlement.Url.Parse
import Entitlement.Url.Punycode
import Entitlement.View
import Entitlement.Wire.Graph
import Entitlement.Wire.Request
import Entitlement.Wire.Response
import Entitlement.Proofs.Service.Work
import Entitlement.Proofs.Store.Transcript
import Entitlement.Proofs.Service.Discipline
import Entitlement.Proofs.Service.Fanout
import Entitlement.Proofs.Service.Filtering
import Entitlement.Proofs.Service.Flattening
import Entitlement.Proofs.Store.Contract
import Entitlement.Proofs.Store.Isolation
import Entitlement.Proofs.Store.Shuffle
import Entitlement.Proofs.Service.Outcome
import Entitlement.Proofs.Service.Overrides
import Entitlement.Proofs.Text.Lower
import Entitlement.Sql.Pattern
import Entitlement.Proofs.Filter
import Entitlement.Proofs.Credential.Provider
import Entitlement.Proofs.Pool.Registry
import Entitlement.Proofs.Pool.TenantPool
import Entitlement.Proofs.Text.Digits
import Entitlement.Proofs.Time.Calendar
import Entitlement.Proofs.Time.Stamp
import Entitlement.Proofs.Text.Percent
import Entitlement.Proofs.Credential.Query
import Entitlement.Proofs.Credential.Verifier
import Entitlement.Proofs.Url.Name
import Entitlement.Proofs.Url.Parse
import Entitlement.Proofs.Credential.Expiry
import Entitlement.Proofs.Credential.Parameter
import Entitlement.Proofs.Json.Format
import Entitlement.Proofs.Json.Spelling
import Entitlement.Proofs.Json.Printer
import Entitlement.Proofs.Json.Skipping
import Entitlement.Proofs.Json.Reader
import Entitlement.Proofs.Wire.Spelling
import Entitlement.Proofs.Wire.RoundTrip
import Entitlement.Proofs.Http.Router
import Entitlement.Proofs.Store.Exchange
import Entitlement.Proofs.Role.Queries
import Entitlement.Proofs.Role.Diagnosis
import Entitlement.Proofs.Role.Canonical
import Entitlement.Proofs.Role.Visits
import Entitlement.Proofs.Config
