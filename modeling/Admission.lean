import Admission.Address.Basic
import Admission.Address.Reading
import Admission.Binary64.Basic
import Admission.Binary64.Bits
import Admission.Bucket
import Admission.CommandLine
import Admission.Crowd
import Admission.Decimal.Layout
import Admission.Decimal.Reading
import Admission.Decimal.Shortest
import Admission.Error
import Admission.Event
import Admission.Failure
import Admission.Http
import Admission.Identifier
import Admission.Json.Quoted
import Admission.Layer
import Admission.Limits
import Admission.Log.Filter
import Admission.Log.Line
import Admission.Main
import Admission.Program
import Admission.Readiness
import Admission.Reclaimer
import Admission.Rejection
import Admission.Roster
import Admission.Routes
import Admission.Server
import Admission.Session
import Admission.Settings.Basic
import Admission.Settings.Coerce
import Admission.Settings.KeyPath
import Admission.Settings.Source
import Admission.Settings.Value
import Admission.Site
import Admission.Store
import Admission.Text.Alphanumeric
import Admission.Text.Escaped
import Admission.Text.Hidden
import Admission.Text.Runs
import Admission.Text.Terminal
import Admission.Time
import Admission.Yaml.Cursor
import Admission.Yaml.Document
import Admission.Yaml.Layout
import Admission.Yaml.Node
import Admission.Yaml.Plain
import Admission.Yaml.Quoted
import Admission.Yaml.Token
import Admission.Proofs.Binary64.Arithmetic
import Admission.Proofs.Bucket.Refill
import Admission.Proofs.Bucket.Conservation
import Admission.Proofs.Bucket.Drift
import Admission.Proofs.Session.Isolation
import Admission.Proofs.Session.History
import Admission.Proofs.Store.Soundness
import Admission.Proofs.Store.Eviction
import Admission.Proofs.Session.Eviction
import Admission.Proofs.Store.Absorption
import Admission.Proofs.Session.Recency
import Admission.Proofs.Store.Overtaking
import Admission.Proofs.Crowd.Sections
import Admission.Proofs.Crowd.Linearization
import Admission.Proofs.Store.Capacity
import Admission.Proofs.Session.Capacity
import Admission.Proofs.Crowd.Overshoot
import Admission.Proofs.Crowd.Refusal
import Admission.Proofs.Crowd.Passes
import Admission.Proofs.Layer.Course
import Admission.Proofs.Layer.Protocol
import Admission.Proofs.Site.Charges
import Admission.Proofs.Site.Routes
import Admission.Proofs.Reclaimer.Ticker
import Admission.Proofs.Session.Schedule
import Admission.Upkeep
import Admission.Proofs.Upkeep.Loops
import Admission.Proofs.Upkeep.Orderly
import Admission.Proofs.Upkeep.Lifecycle
import Admission.Proofs.Bucket.Polling
import Admission.Proofs.Bucket.Waiting
import Admission.Proofs.Bucket.Inspection
import Admission.Proofs.Bucket.Growth
import Admission.Proofs.Bucket.Quota
import Admission.Proofs.Limits.Construction
import Admission.Proofs.Session.Compliance
import Admission.Proofs.Session.Quota
import Admission.Proofs.Crowd.Grants
import Admission.Proofs.Settings.Standing
import Admission.Proofs.Settings.Layers
import Admission.Proofs.Decimal.Numerals
import Admission.Proofs.Settings.Integers
import Admission.Proofs.Yaml.Line
import Admission.Proofs.Address.Written
import Admission.Proofs.Identifier.Naming
import Admission.Proofs.Identifier.Order
import Admission.Proofs.Identifier.Padding
import Admission.Proofs.Address.Distinct
import Admission.Proofs.Identifier.Lines
import Admission.Proofs.Identifier.Sources
import Admission.Proofs.Json.Strings
import Admission.Proofs.Json.Grammar
import Admission.Proofs.Rejection.Disclosure
import Admission.Proofs.Session.Logbook
import Admission.Proofs.Readiness.Custody
import Admission.Proofs.Readiness.Discipline
import Admission.Proofs.Readiness.Answers
