import Codemod.Burndown.Basic
import Codemod.Burndown.Json
import Codemod.Cancellation
import Codemod.Cli.Completion
import Codemod.Cli.Failure
import Codemod.Cli.Parse
import Codemod.Cli.Run
import Codemod.Client.Call
import Codemod.Client.Launch
import Codemod.Decimal
import Codemod.Duration
import Codemod.Environment
import Codemod.FileSystem.Basic
import Codemod.FileSystem.Record
import Codemod.FileSystem.Scratch
import Codemod.FileSystem.Text
import Codemod.Glob
import Codemod.Instance
import Codemod.Json.Basic
import Codemod.Json.Printer
import Codemod.Json.Reader
import Codemod.Log
import Codemod.Main
import Codemod.Migration.Report
import Codemod.Migration.Run
import Codemod.Migration.Script
import Codemod.Migration.Step
import Codemod.Migration.World
import Codemod.Model.Answer
import Codemod.Model.Prompt
import Codemod.Proofs.Burndown
import Codemod.Proofs.Burndown.Recording
import Codemod.Proofs.Client.Call
import Codemod.Proofs.Client.Launches
import Codemod.Proofs.FileSystem.Naming
import Codemod.Proofs.FileSystem.Overwriting
import Codemod.Proofs.FileSystem.Scratch
import Codemod.Proofs.FileSystem.Workspace
import Codemod.Proofs.Json.Number
import Codemod.Proofs.Json.Printing
import Codemod.Proofs.Json.Spelling
import Codemod.Proofs.Migration.Agreement
import Codemod.Proofs.Migration.Batch
import Codemod.Proofs.Migration.Bystanders
import Codemod.Proofs.Migration.Cancelling
import Codemod.Proofs.Migration.FirstMatch
import Codemod.Proofs.Migration.Flag
import Codemod.Proofs.Migration.Frame
import Codemod.Proofs.Migration.Given
import Codemod.Proofs.Migration.KnownCount
import Codemod.Proofs.Migration.Legs
import Codemod.Proofs.Migration.Loops
import Codemod.Proofs.Migration.Magnitude
import Codemod.Proofs.Migration.OnDisk
import Codemod.Proofs.Migration.Parallel
import Codemod.Proofs.Migration.Preconditions
import Codemod.Proofs.Migration.Proposal
import Codemod.Proofs.Migration.Protocol
import Codemod.Proofs.Migration.Refusal
import Codemod.Proofs.Migration.Remaining
import Codemod.Proofs.Migration.Restoration
import Codemod.Proofs.Migration.Room
import Codemod.Proofs.Migration.Rounds
import Codemod.Proofs.Migration.Scan
import Codemod.Proofs.Migration.Scene
import Codemod.Proofs.Migration.Sparing
import Codemod.Proofs.Migration.Stage
import Codemod.Proofs.Migration.Steady
import Codemod.Proofs.Migration.Step
import Codemod.Proofs.Migration.Stopping
import Codemod.Proofs.Migration.Sums
import Codemod.Proofs.Migration.Survey
import Codemod.Proofs.Migration.Totals
import Codemod.Proofs.Migration.Trail
import Codemod.Proofs.Migration.Verification
import Codemod.Proofs.Migration.Written
import Codemod.Proofs.Model.Blocks
import Codemod.Proofs.Model.Counting
import Codemod.Proofs.Model.Presentation
import Codemod.Proofs.Model.Unwrapping
import Codemod.Proofs.Retry.Backoff
import Codemod.Proofs.Retry.Calls
import Codemod.Proofs.Settings.Merging
import Codemod.Proofs.Settings.Precedence
import Codemod.Proofs.Settings.Reading
import Codemod.Proofs.Stream.Delivery
import Codemod.Proofs.Stream.Kinds
import Codemod.Proofs.Stream.PlainText
import Codemod.Proofs.Stream.Reported
import Codemod.Proofs.Stream.Transcript
import Codemod.Proofs.Text.Decoding
import Codemod.Proofs.Text.Lines
import Codemod.Proofs.Text.Truncation
import Codemod.Proofs.Walk
import Codemod.Proofs.Walk.Listing
import Codemod.Proofs.Walk.Order
import Codemod.Proofs.Walk.Pruning
import Codemod.Request.Basic
import Codemod.Request.Json
import Codemod.Retry
import Codemod.Settings.Basic
import Codemod.Settings.Decode
import Codemod.Settings.Document
import Codemod.Settings.Load
import Codemod.Shell.Arithmetic
import Codemod.Shell.Assignment
import Codemod.Shell.Awk.Basic
import Codemod.Shell.Awk.Evaluation
import Codemod.Shell.Awk.Grammar
import Codemod.Shell.Awk.Program
import Codemod.Shell.Awk.Session
import Codemod.Shell.Awk.Token
import Codemod.Shell.Awk.Value
import Codemod.Shell.Brace
import Codemod.Shell.BuiltIn.Declaration
import Codemod.Shell.BuiltIn.Naming
import Codemod.Shell.BuiltIn.Place
import Codemod.Shell.BuiltIn.Reading
import Codemod.Shell.Calculation
import Codemod.Shell.Calendar
import Codemod.Shell.Changes
import Codemod.Shell.Command
import Codemod.Shell.Control
import Codemod.Shell.Expand
import Codemod.Shell.Explore.Basic
import Codemod.Shell.Explore.Picture
import Codemod.Shell.Explore.Reading
import Codemod.Shell.Grammar
import Codemod.Shell.Lookup
import Codemod.Shell.Machine
import Codemod.Shell.Octets
import Codemod.Shell.Permission
import Codemod.Shell.Program
import Codemod.Shell.Proposition
import Codemod.Shell.Redirect
import Codemod.Shell.Regex.Basic
import Codemod.Shell.Regex.Ordered
import Codemod.Shell.Regex.Reading
import Codemod.Shell.Run
import Codemod.Shell.Runner
import Codemod.Shell.Script
import Codemod.Shell.Signal
import Codemod.Shell.Snippet.Evaluation
import Codemod.Shell.Snippet.Function
import Codemod.Shell.Snippet.Grammar
import Codemod.Shell.Snippet.Program
import Codemod.Shell.Snippet.Session
import Codemod.Shell.Snippet.Token
import Codemod.Shell.Stream
import Codemod.Shell.Token
import Codemod.Shell.Tool.Batch
import Codemod.Shell.Tool.Bench
import Codemod.Shell.Tool.Catalogue
import Codemod.Shell.Tool.Columns
import Codemod.Shell.Tool.Copying
import Codemod.Shell.Tool.Date
import Codemod.Shell.Tool.Difference.Basic
import Codemod.Shell.Tool.Difference.Pattern
import Codemod.Shell.Tool.Digest
import Codemod.Shell.Tool.Dump
import Codemod.Shell.Tool.Edit.Basic
import Codemod.Shell.Tool.Edit.Command
import Codemod.Shell.Tool.Edit.Desk
import Codemod.Shell.Tool.Edit.Reading
import Codemod.Shell.Tool.Encode
import Codemod.Shell.Tool.Exchange
import Codemod.Shell.Tool.Extent
import Codemod.Shell.Tool.Format
import Codemod.Shell.Tool.Identity
import Codemod.Shell.Tool.Lines
import Codemod.Shell.Tool.Listing
import Codemod.Shell.Tool.Magnitude
import Codemod.Shell.Tool.Making
import Codemod.Shell.Tool.Neighbours
import Codemod.Shell.Tool.Options
import Codemod.Shell.Tool.PathName
import Codemod.Shell.Tool.Print
import Codemod.Shell.Tool.Removal
import Codemod.Shell.Tool.Search
import Codemod.Shell.Tool.Sequence
import Codemod.Shell.Tool.Sort
import Codemod.Shell.Tool.Status
import Codemod.Shell.Tool.Test
import Codemod.Shell.Wildcard
import Codemod.Stream.Transcript
import Codemod.SystemError
import Codemod.Text.Blank
import Codemod.Text.Quoted
import Codemod.Text.Search
import Codemod.Text.Utf8
import Codemod.Timestamp
import Codemod.Toml.Scalar
import Codemod.Toml.Table
import Codemod.Walk
import Codemod.Yaml.Document
import Codemod.Yaml.Lexer
import Codemod.Yaml.Node
import Codemod.Yaml.Tag
import Codemod.Yaml.Token
