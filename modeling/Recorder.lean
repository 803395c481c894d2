import Recorder.Automation.Assembly
import Recorder.Automation.Document
import Recorder.Automation.KeyNames
import Recorder.Automation.Pause
import Recorder.Automation.Rule
import Recorder.Automation.RuleCompiler
import Recorder.CommandLine.Arguments
import Recorder.CommandLine.Program
import Recorder.Config.Endpoints
import Recorder.Config.EnvironmentFile
import Recorder.Config.Manifest
import Recorder.Config.Settings
import Recorder.Connection.Basic
import Recorder.Connection.Lifecycle
import Recorder.Endpoint.Options
import Recorder.Entries
import Recorder.Event.Basic
import Recorder.Event.Reading
import Recorder.Event.Writing
import Recorder.Json.Basic
import Recorder.Json.Display
import Recorder.Json.Printer
import Recorder.Json.Reader
import Recorder.Json.Table
import Recorder.Log.Basic
import Recorder.Log.Level
import Recorder.Log.LogFile
import Recorder.Log.Notice
import Recorder.Log.SizeLimit
import Recorder.Main
import Recorder.Number.Digits
import Recorder.Number.Double
import Recorder.Number.Notation
import Recorder.Proofs.Automation.Base
import Recorder.Proofs.Automation.HandOver
import Recorder.Proofs.Automation.Pauses
import Recorder.Proofs.Automation.Positions
import Recorder.Proofs.Automation.Settled
import Recorder.Proofs.Automation.SpaceBar
import Recorder.Proofs.Automation.Spacing
import Recorder.Proofs.Automation.Stretches
import Recorder.Proofs.Automation.Tokens
import Recorder.Proofs.Automation.Waits
import Recorder.Proofs.Config.Manifest
import Recorder.Proofs.Connection.Batching
import Recorder.Proofs.Connection.Frames
import Recorder.Proofs.Connection.Growth
import Recorder.Proofs.Connection.Handshake
import Recorder.Proofs.Connection.Life
import Recorder.Proofs.Connection.LifeCycle
import Recorder.Proofs.Connection.Watch
import Recorder.Proofs.Endpoint.RoundTrip
import Recorder.Proofs.Event.Acceptance
import Recorder.Proofs.Event.Envelope
import Recorder.Proofs.Event.RoundTrip
import Recorder.Proofs.Json.Fields
import Recorder.Proofs.Json.Finite
import Recorder.Proofs.Json.Limits
import Recorder.Proofs.Json.Rest
import Recorder.Proofs.Number.Numeral
import Recorder.Proofs.Number.Range
import Recorder.Proofs.Number.Shortest
import Recorder.Proofs.Outcome
import Recorder.Proofs.Schema.Conversions
import Recorder.Proofs.Schema.DecimalText
import Recorder.Proofs.Schema.NumberParts
import Recorder.Proofs.Schema.WholeText
import Recorder.Proofs.Session.Compilation
import Recorder.Proofs.Session.Conservation
import Recorder.Proofs.Session.Delivery
import Recorder.Proofs.Session.Duration
import Recorder.Proofs.Session.Flight
import Recorder.Proofs.Session.Ingestion
import Recorder.Proofs.Session.Order
import Recorder.Proofs.Session.Primary
import Recorder.Proofs.Session.Recompilation
import Recorder.Proofs.Session.Reliability
import Recorder.Proofs.Session.Repeats
import Recorder.Proofs.Session.Replay
import Recorder.Proofs.Session.Resolution
import Recorder.Proofs.Session.Retry
import Recorder.Proofs.Session.Stopping
import Recorder.Proofs.Session.Visible
import Recorder.Proofs.Session.WellFormed
import Recorder.Proofs.Storage.Buffers
import Recorder.Proofs.Storage.Keys
import Recorder.Proofs.Storage.Preservation
import Recorder.Proofs.Text.Occurrence
import Recorder.Proofs.Timeline.Earliest
import Recorder.Proofs.Timeline.Known
import Recorder.Proofs.Timeline.MaximalRuns
import Recorder.Proofs.Timeline.Order
import Recorder.Proofs.Timeline.Segmentation
import Recorder.Proofs.Timeline.Sources
import Recorder.Proofs.Timeline.Stability
import Recorder.Proofs.Timeline.Survivors
import Recorder.Schema.Checked
import Recorder.Schema.Scalar
import Recorder.Session.Basic
import Recorder.Session.Replay
import Recorder.Session.Stop
import Recorder.Storage.Buffers
import Recorder.Storage.FileTree
import Recorder.Storage.Path
import Recorder.Text.Blank
import Recorder.Text.CaseTable
import Recorder.Text.CharacterName
import Recorder.Text.Digit
import Recorder.Text.Integer
import Recorder.Text.LetterCase
import Recorder.Text.Pattern.Basic
import Recorder.Text.Pattern.Matching
import Recorder.Text.Pattern.Reading
import Recorder.Text.Printable
import Recorder.Text.Quoted
import Recorder.Text.Ranges
import Recorder.Text.Word
import Recorder.Timeline.Group
import Recorder.Timeline.Interaction
import Recorder.Timeline.Merge
import Recorder.Timeline.Surface
