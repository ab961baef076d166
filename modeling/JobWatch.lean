import JobWatch.Feed.Script
import JobWatch.Main
import JobWatch.Proofs.Feed.Lines
import JobWatch.Proofs.Json.TrailingBlank
import JobWatch.Proofs.Feed.Framing
import JobWatch.Proofs.Text.Utf8
import JobWatch.Proofs.Text.Digits
import JobWatch.Proofs.Json.Text
import JobWatch.Proofs.Json.RoundTrip
import JobWatch.Proofs.Json.Depth
import JobWatch.Proofs.Json.Generic
import JobWatch.Proofs.Json.Format
import JobWatch.Proofs.Json.Normal
import JobWatch.Proofs.Json.Schema
import JobWatch.Proofs.Json.Record
import JobWatch.Proofs.Json.Nested
import JobWatch.Proofs.Calendar
import JobWatch.Proofs.Timestamp
import JobWatch.Proofs.Snapshot.Schema
import JobWatch.Proofs.Report.Schema
import JobWatch.Proofs.Report.RoundTrip
import JobWatch.Proofs.Report.Envelope
import JobWatch.Proofs.Watch.Trace
import JobWatch.Proofs.Watch.Reports
import JobWatch.Proofs.Display.Agreement
import JobWatch.Proofs.Display.Drawing
import JobWatch.Proofs.Display.Console
import JobWatch.Proofs.Display.InPlace
import JobWatch.Proofs.Display.Trace
import JobWatch.Proofs.Display.Header
import JobWatch.Proofs.Session.Interplay
import JobWatch.Proofs.Session.Steps
import JobWatch.Proofs.Session.Showing
import JobWatch.Proofs.Session.Teardown
import JobWatch.Proofs.Session.Following
import JobWatch.Proofs.Session.Accord
import JobWatch.Proofs.Session.Progress
import JobWatch.Proofs.Session.Outcome
import JobWatch.Proofs.Feed.Reader
import JobWatch.Proofs.Session.Schedules
import JobWatch.Proofs.Session.Scripted
import JobWatch.Proofs.Program.Lockstep
import JobWatch.Proofs.Program.Modes
import JobWatch.Proofs.Json.Truncation
import JobWatch.Proofs.Json.Controls
import JobWatch.Proofs.Beginning
import JobWatch.Proofs.Feed.Reports
import JobWatch.Proofs.Feed.CutShort
import JobWatch.Proofs.Feed.Records
import JobWatch.Proofs.Cancellation.Callers
import JobWatch.Proofs.Watch.Delivery
import JobWatch.Proofs.Program.Printed
import JobWatch.Proofs.Display.Redraws
import JobWatch.Proofs.Watch.Departure
import JobWatch.Proofs.Program.Subscription
import JobWatch.Proofs.Program.LastLine
import JobWatch.Proofs.Json.ByValue
import JobWatch.Proofs.Report.Lookup
import JobWatch.Proofs.Feed.Bounded
import JobWatch.Proofs.Span.Compact
import JobWatch.Proofs.Span.Text
import JobWatch.Proofs.Url.Path
import JobWatch.Proofs.Endpoint
import JobWatch.Proofs.Binary64
import JobWatch.Proofs.ByteCount
import JobWatch.Proofs.Configuration
import JobWatch.Proofs.Display.Frame
import JobWatch.Proofs.Display.Rows
