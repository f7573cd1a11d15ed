import Recurrence.Calendar.Civil
import Recurrence.Calendar.Date
import Recurrence.Calendar.Shift
import Recurrence.Calendar.Weekday
import Recurrence.CommandLine.Grammar
import Recurrence.CommandLine.Invocation
import Recurrence.CommandLine.Reach
import Recurrence.CommandLine.Refusal
import Recurrence.CommandLine.Run
import Recurrence.CommandLine.Word
import Recurrence.Document.Assignments
import Recurrence.Document.Json.Printer
import Recurrence.Document.Json.Reader
import Recurrence.Document.Yaml.BlockText
import Recurrence.Document.Yaml.Cursor
import Recurrence.Document.Yaml.Document
import Recurrence.Document.Yaml.Fault
import Recurrence.Document.Yaml.Node
import Recurrence.Document.Yaml.Plain
import Recurrence.Document.Yaml.Property
import Recurrence.Document.Yaml.Quoted
import Recurrence.Document.Yaml.Scalar
import Recurrence.Document.Yaml.Tag
import Recurrence.Document.Yaml.Token
import Recurrence.Expansion.Candidate
import Recurrence.Expansion.Generate
import Recurrence.Expansion.Projection
import Recurrence.Expansion.Run
import Recurrence.Expansion.Walk
import Recurrence.Iso.Basic
import Recurrence.Iso.Clock
import Recurrence.Iso.Date
import Recurrence.Iso.Literal
import Recurrence.Log.Journal
import Recurrence.Log.Notice
import Recurrence.Log.Record
import Recurrence.Main
import Recurrence.Moment.Basic
import Recurrence.Moment.Conversion
import Recurrence.Moment.Error
import Recurrence.Moment.Literal
import Recurrence.Moment.Lookup
import Recurrence.Moment.Reader
import Recurrence.Moment.Text
import Recurrence.Proofs.Calendar.DayNumber
import Recurrence.Proofs.Calendar.MonthDays
import Recurrence.Proofs.Calendar.Stride
import Recurrence.Proofs.Expansion.Ascending
import Recurrence.Proofs.Expansion.CapReport
import Recurrence.Proofs.Expansion.Bounded
import Recurrence.Proofs.Expansion.CalendarEnd
import Recurrence.Proofs.Expansion.Course
import Recurrence.Proofs.Expansion.DayWalk
import Recurrence.Proofs.Expansion.Departure
import Recurrence.Proofs.Expansion.GenerateFailure
import Recurrence.Proofs.Expansion.MonthSteps
import Recurrence.Proofs.Expansion.NthWeekday
import Recurrence.Proofs.Expansion.Occurrence
import Recurrence.Proofs.Expansion.ShownDates
import Recurrence.Proofs.Expansion.Steps
import Recurrence.Proofs.Expansion.Window
import Recurrence.Proofs.Moment.Compact
import Recurrence.Proofs.Moment.CompactText
import Recurrence.Proofs.Moment.Order
import Recurrence.Proofs.Moment.Pinning
import Recurrence.Proofs.Outcome
import Recurrence.Proofs.Rule.Declaration
import Recurrence.Proofs.Rule.Meaning
import Recurrence.Proofs.Rule.PlainText
import Recurrence.Proofs.Rule.Redeclared
import Recurrence.Proofs.Rule.Values
import Recurrence.Proofs.Rule.Written
import Recurrence.Proofs.Rule.Zoned
import Recurrence.Proofs.Rule.ZonedText
import Recurrence.Proofs.Text.Integer
import Recurrence.Proofs.Text.Rendering
import Recurrence.Proofs.Text.Search
import Recurrence.Proofs.Zone.Fall
import Recurrence.Rule.Basic
import Recurrence.Rule.Document
import Recurrence.Rule.Fields
import Recurrence.Rule.Plain
import Recurrence.Rule.Remarks
import Recurrence.Rule.Segment
import Recurrence.Rule.Written
import Recurrence.Rule.Zoned
import Recurrence.Settings.Basic
import Recurrence.Settings.Load
import Recurrence.Settings.Overrides
import Recurrence.Settings.Source
import Recurrence.Storage.FileTree
import Recurrence.Storage.Path
import Recurrence.Text.Blank
import Recurrence.Text.Digit
import Recurrence.Text.Hexadecimal
import Recurrence.Text.Numeral
import Recurrence.Text.Printable
import Recurrence.Text.Quoted
import Recurrence.Text.Split
import Recurrence.Value
import Recurrence.Value.Check
import Recurrence.Value.Decimal
import Recurrence.Value.Merge
import Recurrence.Workspace
import Recurrence.Zone.Basic
import Recurrence.Zone.Catalogue
import Recurrence.Zone.Database
import Recurrence.Zone.Minute
import Recurrence.Zone.Table.Africa
import Recurrence.Zone.Table.America
import Recurrence.Zone.Table.Asia
import Recurrence.Zone.Table.Europe
import Recurrence.Zone.Table.Oceania
import Recurrence.Proofs.Expansion.Narrower
import Recurrence.Proofs.Expansion.Count
import Recurrence.Proofs.Expansion.Resumed
import Recurrence.Proofs.Rule.Agreement
import Recurrence.Proofs.Rule.SegmentOrder
import Recurrence.Proofs.Expansion.RelevantFields
import Recurrence.Proofs.Expansion.Generated
import Recurrence.Proofs.Moment.Stamp
import Recurrence.Proofs.CommandLine.Expand
import Recurrence.Proofs.CommandLine.Words
import Recurrence.Proofs.Moment.SameDate
import Recurrence.Proofs.Settings.Definitions
import Recurrence.Proofs.Settings.Loaded
import Recurrence.Proofs.Settings.Precedence
import Recurrence.Proofs.Settings.SectionShape
import Recurrence.Proofs.Settings.UsableLimits
import Recurrence.Proofs.Settings.Variables
import Recurrence.Proofs.Value.Entries
import Recurrence.Proofs.Moment.Fallback
import Recurrence.Proofs.Moment.Route
import Recurrence.Proofs.Zone.Counted
import Recurrence.Proofs.Zone.Joined
import Recurrence.Proofs.Zone.Listed
import Recurrence.Proofs.Zone.Probe
import Recurrence.Proofs.Zone.ShownOnce
import Recurrence.Proofs.Zone.Sound
import Recurrence.Proofs.Zone.Timetable
import Recurrence.Proofs.Moment.LiteralFaults
import Recurrence.Proofs.Moment.DateText
import Recurrence.Proofs.Moment.ClockText
import Recurrence.Proofs.Moment.ClockAsDate
import Recurrence.Proofs.Moment.ReferenceOffset
import Recurrence.Proofs.Text.LineEnds
import Recurrence.Proofs.Rule.LineEnds
import Recurrence.Proofs.Expansion.PickedWeekday
import Recurrence.Proofs.Moment.Shifting
import Recurrence.Proofs.Zone.Remembered
import Recurrence.Proofs.Log.History
import Recurrence.Proofs.Moment.CompactReading
