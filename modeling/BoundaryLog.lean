import BoundaryLog.Backend.Basic
import BoundaryLog.Backend.Memory
import BoundaryLog.Backend.Rehearsed
import BoundaryLog.Clause.Formula
import BoundaryLog.Clause.Grammar
import BoundaryLog.Clause.Reading
import BoundaryLog.Clause.Token
import BoundaryLog.Count
import BoundaryLog.Decimal.Binary64
import BoundaryLog.Decimal.Shortest
import BoundaryLog.Decimal.Text
import BoundaryLog.Deployment
import BoundaryLog.Event
import BoundaryLog.Failure
import BoundaryLog.Feed
import BoundaryLog.Gateway
import BoundaryLog.Guard
import BoundaryLog.Journal
import BoundaryLog.Json.Basic
import BoundaryLog.Json.Listing
import BoundaryLog.Json.Reader
import BoundaryLog.Json.Shape
import BoundaryLog.Json.Writer
import BoundaryLog.LabelSet
import BoundaryLog.Position
import BoundaryLog.Predicate
import BoundaryLog.Program
import BoundaryLog.Proofs.Lexing
import BoundaryLog.Proofs.Texts
import BoundaryLog.Proofs.Writing
import BoundaryLog.Query.Basic
import BoundaryLog.Query.Plan
import BoundaryLog.Query.Scan
import BoundaryLog.Query.Selection
import BoundaryLog.Record
import BoundaryLog.Row
import BoundaryLog.Statement
import BoundaryLog.Text.Blank
import BoundaryLog.Text.Cut
import BoundaryLog.Text.Join
import BoundaryLog.Text.Letter
import BoundaryLog.Text.Numeral
import BoundaryLog.Text.Quoted
import BoundaryLog.Text.Ranges
import BoundaryLog.Text.Visible
import BoundaryLog.Time.Calendar
import BoundaryLog.Time.Instant
import BoundaryLog.Time.Stamp
import BoundaryLog.Timepiece
import BoundaryLog.Timepiece.System
import BoundaryLog.Proofs.Clauses
import BoundaryLog.Proofs.Statements
import BoundaryLog.Proofs.Refusals
import BoundaryLog.Proofs.Plans
import BoundaryLog.Proofs.Scans
import BoundaryLog.Proofs.Effects
import BoundaryLog.Proofs.Appends
import BoundaryLog.Proofs.Stamps
import BoundaryLog.Proofs.Rows
import BoundaryLog.Proofs.Selections
import BoundaryLog.Proofs.Clients
import BoundaryLog.Proofs.Boundaries
import BoundaryLog.Proofs.Agreement
import BoundaryLog.Proofs.Namespaces
import BoundaryLog.Proofs.Histories
import BoundaryLog.Proofs.Contests
import BoundaryLog.Proofs.Paging
import BoundaryLog.Proofs.Literals
import BoundaryLog.Proofs.RoundTrips
import BoundaryLog.Proofs.Deliveries
import BoundaryLog.Proofs.Isolation
import BoundaryLog.Proofs.SingleWrites
import BoundaryLog.Proofs.Sessions
import BoundaryLog.Proofs.Expectations
import BoundaryLog.Proofs.LastEvents
import BoundaryLog.Proofs.Pulls
import BoundaryLog.Proofs.Limits
import BoundaryLog.Proofs.BadLiterals
import BoundaryLog.Proofs.Alternatives
import BoundaryLog.Proofs.Grammar
import BoundaryLog.Proofs.GuardedWrites
import BoundaryLog.Proofs.Numerals
import BoundaryLog.Proofs.Shapes
import BoundaryLog.Proofs.Decoding
import BoundaryLog.Proofs.NormalForms
import BoundaryLog.Proofs.StoredTimes
import BoundaryLog.Proofs.DistinctTexts
import BoundaryLog.Proofs.Documents
import BoundaryLog.Proofs.Counters
import BoundaryLog.Proofs.Rounds
import BoundaryLog.Proofs.Descents
import BoundaryLog.Proofs.LabelSets
