import Pipework.Builtin
import Pipework.Catalogue.AliasWords
import Pipework.Catalogue.Basic
import Pipework.Catalogue.Table
import Pipework.Channel.Backlog
import Pipework.Channel.Basic
import Pipework.Channel.Ring
import Pipework.Command.Basic
import Pipework.Command.Record
import Pipework.CommandLine.Parse
import Pipework.CommandLine.Token
import Pipework.Dict
import Pipework.Disk
import Pipework.Effect
import Pipework.Fault
import Pipework.FileStore
import Pipework.Filesystem
import Pipework.Host.Basic
import Pipework.Host.Bench
import Pipework.Host.Factory
import Pipework.Json
import Pipework.Launch
import Pipework.LineBuffer
import Pipework.Main
import Pipework.Options
import Pipework.Outcome
import Pipework.Pattern.Basic
import Pipework.Pattern.ByteRows
import Pipework.Pattern.CharSet
import Pipework.Pattern.Expr
import Pipework.Pattern.Flaw
import Pipework.Pattern.Machine
import Pipework.Pattern.Reach
import Pipework.Pattern.Reader
import Pipework.Pattern.Tree
import Pipework.Program
import Pipework.Proofs.Aliases
import Pipework.Proofs.Chains
import Pipework.Proofs.Channel
import Pipework.Proofs.Channel.Cursors
import Pipework.Proofs.Channel.Queue
import Pipework.Proofs.Chunking
import Pipework.Proofs.CommandLine.Assigning
import Pipework.Proofs.CommandLine.Grammar
import Pipework.Proofs.CommandLine.Quoting
import Pipework.Proofs.CommandLine.Segments
import Pipework.Proofs.CommandLine.Separating
import Pipework.Proofs.Continuing
import Pipework.Proofs.Delivering
import Pipework.Proofs.Dict
import Pipework.Proofs.Dictation
import Pipework.Proofs.Editing
import Pipework.Proofs.Footprint
import Pipework.Proofs.Host
import Pipework.Proofs.Images
import Pipework.Proofs.Kinds
import Pipework.Proofs.Lines
import Pipework.Proofs.Lookup
import Pipework.Proofs.LossyDecoding
import Pipework.Proofs.Overlapping
import Pipework.Proofs.Passing
import Pipework.Proofs.Reading
import Pipework.Proofs.Records
import Pipework.Proofs.Rehearsing
import Pipework.Proofs.Reporting
import Pipework.Proofs.Resolving
import Pipework.Proofs.Run.Accounts
import Pipework.Proofs.Run.Change
import Pipework.Proofs.Run.Completion
import Pipework.Proofs.Run.Counters
import Pipework.Proofs.Run.EndOfInput
import Pipework.Proofs.Run.EventQueue
import Pipework.Proofs.Run.Failing
import Pipework.Proofs.Run.Fold
import Pipework.Proofs.Run.Merging
import Pipework.Proofs.Run.OneStage
import Pipework.Proofs.Run.Order
import Pipework.Proofs.Run.Pipeline
import Pipework.Proofs.Run.Reached
import Pipework.Proofs.Run.Relay
import Pipework.Proofs.Run.StageOutputs
import Pipework.Proofs.Run.Status
import Pipework.Proofs.Run.Steps
import Pipework.Proofs.Run.Streaming
import Pipework.Proofs.Run.TypedLines
import Pipework.Proofs.Run.Updates
import Pipework.Proofs.Run.Window
import Pipework.Proofs.Script.Acceptance
import Pipework.Proofs.Script.Composing
import Pipework.Proofs.Script.Copying
import Pipework.Proofs.Script.Counting
import Pipework.Proofs.Script.Expansion
import Pipework.Proofs.Script.Filter
import Pipework.Proofs.Script.Fusion
import Pipework.Proofs.Script.Rehearsing
import Pipework.Proofs.Script.Sequence
import Pipework.Proofs.Script.Sharing
import Pipework.Proofs.Shell
import Pipework.Proofs.Trimming
import Pipework.Proofs.Yield
import Pipework.Rehearsal
import Pipework.Resolve
import Pipework.Routine.Basic
import Pipework.Routine.Reply
import Pipework.Run.Basic
import Pipework.Run.Journal
import Pipework.Run.Mailbox
import Pipework.Run.Schedule
import Pipework.Run.Series
import Pipework.Script.Basic
import Pipework.Script.Compile
import Pipework.Script.Expand
import Pipework.Script.Rehearse
import Pipework.Script.Run
import Pipework.Settings.Basic
import Pipework.Settings.LogFilter
import Pipework.Settings.Reading
import Pipework.Settings.Session
import Pipework.Settings.Surroundings
import Pipework.Shell
import Pipework.Snapshot
import Pipework.Stage
import Pipework.Text.Blank
import Pipework.Text.LetterCase
import Pipework.Text.Lines
import Pipework.Text.Name
import Pipework.Text.Numeral
import Pipework.Text.Utf8
import Pipework.Toml.Basic
import Pipework.Toml.Document
import Pipework.Toml.Scalar
import Pipework.Unicode.Age
import Pipework.Unicode.Boundary
import Pipework.Unicode.CaseFold
import Pipework.Unicode.CaseMap
import Pipework.Unicode.Category
import Pipework.Unicode.Kind
import Pipework.Unicode.Listed
import Pipework.Unicode.Property
import Pipework.Unicode.RangeSet
import Pipework.Unicode.Script
import Pipework.Unicode.ScriptExtension
