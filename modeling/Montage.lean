import Montage.Agent.Action
import Montage.Agent.Reply
import Montage.Analysis.Features
import Montage.Caption.Image
import Montage.Checksum.Hash
import Montage.Clip.Basic
import Montage.CommandLine.Arguments
import Montage.CommandLine.Inputs
import Montage.CommandLine.Run
import Montage.Disk.Basic
import Montage.Disk.Change
import Montage.Disk.Mode
import Montage.Disk.Path
import Montage.Document.Agent
import Montage.Document.Edit
import Montage.Document.Plan
import Montage.Document.Segment
import Montage.Document.Timeline
import Montage.Edit.Basic
import Montage.Edit.Normal
import Montage.Editor.Command
import Montage.Editor.Job
import Montage.Editor.Reader
import Montage.Editor.Run
import Montage.Encoder.Arguments
import Montage.Encoder.Basic
import Montage.Encoder.Scripted
import Montage.Encoder.Tools
import Montage.Environment.Variables
import Montage.Export.Error
import Montage.Export.Run
import Montage.Export.Timeline
import Montage.Filter.Basic
import Montage.Filter.Graph
import Montage.Json.Basic
import Montage.Json.Members
import Montage.Json.Parser
import Montage.Json.Printer
import Montage.Json.Source
import Montage.Main
import Montage.Music.Source
import Montage.Number.Binary64
import Montage.Number.Decimal
import Montage.Number.Elementary
import Montage.Number.Exponential
import Montage.Number.Floating
import Montage.Number.Numeral
import Montage.Number.Power
import Montage.Number.Scalar
import Montage.Plan.Basic
import Montage.Plan.Build
import Montage.Proofs.Agent.Calls
import Montage.Proofs.Agent.Length
import Montage.Proofs.Agent.Payload
import Montage.Proofs.Agent.ReadBack
import Montage.Proofs.Analysis.Segmentation
import Montage.Proofs.Caption.Image
import Montage.Proofs.Clip.Attributes
import Montage.Proofs.Clip.Cuts
import Montage.Proofs.Clip.Fewest
import Montage.Proofs.Clip.Placement
import Montage.Proofs.Clip.Split
import Montage.Proofs.Clip.Tempo
import Montage.Proofs.Disk.Create
import Montage.Proofs.Disk.Entries
import Montage.Proofs.Disk.Locate
import Montage.Proofs.Disk.Move
import Montage.Proofs.Disk.Path
import Montage.Proofs.Disk.Way
import Montage.Proofs.Edit.Normal
import Montage.Proofs.Edit.Usable
import Montage.Proofs.Encoder.Arguments
import Montage.Proofs.Export.Agree
import Montage.Proofs.Export.Calls
import Montage.Proofs.Export.Course
import Montage.Proofs.Export.Inputs
import Montage.Proofs.Export.Order
import Montage.Proofs.Export.Outcome
import Montage.Proofs.Export.Settled
import Montage.Proofs.Export.Words
import Montage.Proofs.Export.Workspace
import Montage.Proofs.Filter.Frame
import Montage.Proofs.Filter.FrameSize
import Montage.Proofs.Filter.Graph
import Montage.Proofs.Filter.Labels
import Montage.Proofs.Filter.Measure
import Montage.Proofs.Filter.Picture
import Montage.Proofs.Filter.Signal
import Montage.Proofs.Filter.Wiring
import Montage.Proofs.Json.Bare
import Montage.Proofs.Json.Extent
import Montage.Proofs.Json.Fences
import Montage.Proofs.Json.Letters
import Montage.Proofs.Json.Printed
import Montage.Proofs.Json.Reader
import Montage.Proofs.Json.Sorted
import Montage.Proofs.Music.Best
import Montage.Proofs.Number.Binary64
import Montage.Proofs.Number.Decimal
import Montage.Proofs.Number.Exact
import Montage.Proofs.Number.Lawful
import Montage.Proofs.Number.Printed
import Montage.Proofs.Number.RationalText
import Montage.Proofs.Plan.Build
import Montage.Proofs.Plan.Crops
import Montage.Proofs.Plan.Inputs
import Montage.Proofs.Plan.Meaning
import Montage.Proofs.Plan.Outputs
import Montage.Proofs.Plan.Pace
import Montage.Proofs.Plan.Pads
import Montage.Proofs.Plan.Windows
import Montage.Proofs.Plan.Wiring
import Montage.Proofs.Plan.Words
import Montage.Proofs.Selection.Filling
import Montage.Proofs.Selection.Greedy
import Montage.Proofs.Sorting
import Montage.Proofs.Span
import Montage.Proofs.Text.Removal
import Montage.Proofs.Text.Utf8
import Montage.Proofs.Text.Words
import Montage.Proofs.Timeline.Attributes
import Montage.Proofs.Timeline.Clocks
import Montage.Proofs.Timeline.Concatenation
import Montage.Proofs.Timeline.Coverage
import Montage.Proofs.Timeline.Deletes
import Montage.Proofs.Timeline.Edges
import Montage.Proofs.Timeline.EditOrder
import Montage.Proofs.Timeline.Faster
import Montage.Proofs.Timeline.Fixpoint
import Montage.Proofs.Timeline.Names
import Montage.Proofs.Timeline.Order
import Montage.Proofs.Timeline.Overlays
import Montage.Proofs.Timeline.Pieces
import Montage.Proofs.Timeline.Redundant
import Montage.Proofs.Timeline.Unusable
import Montage.Random.Stream
import Montage.Record.Expression
import Montage.Record.Function
import Montage.Record.Job
import Montage.Record.Program
import Montage.Record.Reader
import Montage.Record.Run
import Montage.Record.Separator
import Montage.Record.Token
import Montage.Record.Value
import Montage.Regex.Match
import Montage.Regex.Reader
import Montage.Segment
import Montage.Selection
import Montage.Settings
import Montage.Shell.Arithmetic
import Montage.Shell.Builtin
import Montage.Shell.Bytes
import Montage.Shell.Command
import Montage.Shell.Expansion
import Montage.Shell.Format
import Montage.Shell.Machine
import Montage.Shell.Pattern
import Montage.Shell.Process
import Montage.Shell.Program
import Montage.Shell.Reader
import Montage.Shell.Run
import Montage.Shell.Script
import Montage.Shell.Starting
import Montage.Shell.State
import Montage.Shell.Test
import Montage.Shell.Token
import Montage.Shell.Word
import Montage.Span
import Montage.Text.Alphanumeric
import Montage.Text.Classes
import Montage.Text.Escape
import Montage.Text.LetterCase
import Montage.Text.Lines
import Montage.Text.Quoted
import Montage.Text.Utf8
import Montage.Timeline.Basic
import Montage.Timeline.Compile
import Montage.Utility.Calendar
import Montage.Utility.Carry
import Montage.Utility.Columns
import Montage.Utility.Difference
import Montage.Utility.Digest
import Montage.Utility.Dump
import Montage.Utility.Edit
import Montage.Utility.Excerpt
import Montage.Utility.Exchange
import Montage.Utility.Expression
import Montage.Utility.Input
import Montage.Utility.Launch
import Montage.Utility.Listing
import Montage.Utility.Options
import Montage.Utility.Records
import Montage.Utility.Search
import Montage.Utility.Sort
import Montage.Utility.Transfer
import Montage.Utility.Tree
import Montage.Utility.Walk
import Montage.Utility.Words
