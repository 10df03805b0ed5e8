import ContainerLogs.Archive.Dump
import ContainerLogs.Archive.Item
import ContainerLogs.Archive.Key
import ContainerLogs.Archive.Location
import ContainerLogs.Archive.Output
import ContainerLogs.Archive.Reader
import ContainerLogs.Archive.Rendering
import ContainerLogs.Archive.Value
import ContainerLogs.Archive.Writer
import ContainerLogs.Collection.Collector
import ContainerLogs.Collection.Ownership
import ContainerLogs.Collection.Schedule
import ContainerLogs.Collection.Snapshot
import ContainerLogs.Collection.Surroundings
import ContainerLogs.CommandLine.Aggregate
import ContainerLogs.CommandLine.Config
import ContainerLogs.CommandLine.Dump
import ContainerLogs.CommandLine.Fault
import ContainerLogs.CommandLine.Option
import ContainerLogs.CommandLine.Program
import ContainerLogs.CommandLine.Reach
import ContainerLogs.CommandLine.Resolve
import ContainerLogs.CommandLine.Run
import ContainerLogs.CommandLine.Usage
import ContainerLogs.Console.Emoji
import ContainerLogs.Console.EmojiTable
import ContainerLogs.Console.Escape
import ContainerLogs.Console.Layout
import ContainerLogs.Console.Markup
import ContainerLogs.Console.Table
import ContainerLogs.FileTree.Basic
import ContainerLogs.FileTree.Change
import ContainerLogs.FileTree.Errno
import ContainerLogs.FileTree.Lookup
import ContainerLogs.FileTree.Operation
import ContainerLogs.Floating
import ContainerLogs.Floating.Form
import ContainerLogs.Identifier
import ContainerLogs.Json.Document
import ContainerLogs.Json.Text
import ContainerLogs.Log.Line
import ContainerLogs.Log.Place
import ContainerLogs.Log.Severity
import ContainerLogs.Log.Template
import ContainerLogs.Main
import ContainerLogs.Path
import ContainerLogs.Proofs.Archive.Conduct
import ContainerLogs.Proofs.Archive.Decoding
import ContainerLogs.Proofs.Archive.Delivery
import ContainerLogs.Proofs.Archive.Directories
import ContainerLogs.Proofs.Archive.Dumping
import ContainerLogs.Proofs.Archive.Failing
import ContainerLogs.Proofs.Archive.FilesToText
import ContainerLogs.Proofs.Archive.Filtering
import ContainerLogs.Proofs.Archive.Grammar
import ContainerLogs.Proofs.Archive.Item
import ContainerLogs.Proofs.Archive.Key
import ContainerLogs.Proofs.Archive.Location
import ContainerLogs.Proofs.Archive.Moments
import ContainerLogs.Proofs.Archive.Output
import ContainerLogs.Proofs.Archive.Parsing
import ContainerLogs.Proofs.Archive.Permission
import ContainerLogs.Proofs.Archive.Progress
import ContainerLogs.Proofs.Archive.Recording
import ContainerLogs.Proofs.Archive.Rendering
import ContainerLogs.Proofs.Archive.Retrieval
import ContainerLogs.Proofs.Archive.RoundTrip
import ContainerLogs.Proofs.Archive.Run
import ContainerLogs.Proofs.Archive.Session
import ContainerLogs.Proofs.Archive.Start
import ContainerLogs.Proofs.Archive.Streams
import ContainerLogs.Proofs.Archive.Supply
import ContainerLogs.Proofs.Archive.Truncation
import ContainerLogs.Proofs.Archive.ValueGrammar
import ContainerLogs.Proofs.Collection.Accounting
import ContainerLogs.Proofs.Collection.Apart
import ContainerLogs.Proofs.Collection.Completion
import ContainerLogs.Proofs.Collection.Confidentiality
import ContainerLogs.Proofs.Collection.Copying
import ContainerLogs.Proofs.Collection.Framing
import ContainerLogs.Proofs.Collection.Isolation
import ContainerLogs.Proofs.Collection.Listing
import ContainerLogs.Proofs.Collection.Provenance
import ContainerLogs.Proofs.Collection.Quiescence
import ContainerLogs.Proofs.Collection.Steps
import ContainerLogs.Proofs.Collection.Survey
import ContainerLogs.Proofs.Collection.Visits
import ContainerLogs.Proofs.CommandLine.Conclusion
import ContainerLogs.Proofs.CommandLine.Failing
import ContainerLogs.Proofs.CommandLine.Rejection
import ContainerLogs.Proofs.CommandLine.Reporting
import ContainerLogs.Proofs.CommandLine.Retrieval
import ContainerLogs.Proofs.CommandLine.Sparing
import ContainerLogs.Proofs.Console.Fitting
import ContainerLogs.Proofs.Console.Layout
import ContainerLogs.Proofs.Console.Markup
import ContainerLogs.Proofs.FileTree.Addition
import ContainerLogs.Proofs.FileTree.Alike
import ContainerLogs.Proofs.FileTree.Concealment
import ContainerLogs.Proofs.FileTree.Contents
import ContainerLogs.Proofs.FileTree.Directories
import ContainerLogs.Proofs.FileTree.Frame
import ContainerLogs.Proofs.FileTree.Keeping
import ContainerLogs.Proofs.FileTree.Layout
import ContainerLogs.Proofs.FileTree.Leads
import ContainerLogs.Proofs.FileTree.Making
import ContainerLogs.Proofs.FileTree.Naming
import ContainerLogs.Proofs.FileTree.Persistence
import ContainerLogs.Proofs.FileTree.Reading
import ContainerLogs.Proofs.FileTree.Refusals
import ContainerLogs.Proofs.FileTree.Renaming
import ContainerLogs.Proofs.FileTree.Way
import ContainerLogs.Proofs.Identifier
import ContainerLogs.Proofs.Identifier.Grammar
import ContainerLogs.Proofs.Identifier.Limits
import ContainerLogs.Proofs.Identifier.RoundTrip
import ContainerLogs.Proofs.Json.Document
import ContainerLogs.Proofs.Json.Text
import ContainerLogs.Proofs.Log.Line
import ContainerLogs.Proofs.Log.Template
import ContainerLogs.Proofs.Path
import ContainerLogs.Proofs.Running
import ContainerLogs.Proofs.Service.Address
import ContainerLogs.Proofs.Service.Port
import ContainerLogs.Proofs.Service.Resolution
import ContainerLogs.Proofs.Settings.Loading
import ContainerLogs.Proofs.Settings.Overlay
import ContainerLogs.Proofs.Settings.Saving
import ContainerLogs.Proofs.Settings.Store
import ContainerLogs.Proofs.Text.Blank
import ContainerLogs.Proofs.Text.Cells
import ContainerLogs.Proofs.Text.IllFormed
import ContainerLogs.Proofs.Text.Numeral
import ContainerLogs.Proofs.Text.Sequence
import ContainerLogs.Proofs.Text.Utf8
import ContainerLogs.Proofs.Text.WellFormed
import ContainerLogs.Proofs.Toml.Document
import ContainerLogs.Proofs.Toml.Printer
import ContainerLogs.Proofs.Toml.Text
import ContainerLogs.Proofs.Toml.Value
import ContainerLogs.Proofs.Watched
import ContainerLogs.Proofs.Wire.Exact
import ContainerLogs.Proofs.Wire.Feed
import ContainerLogs.Proofs.Wire.Integer
import ContainerLogs.Service.Address
import ContainerLogs.Service.Protocol
import ContainerLogs.Settings.Basic
import ContainerLogs.Settings.Check
import ContainerLogs.Settings.Environment
import ContainerLogs.Settings.Store
import ContainerLogs.Settings.Value
import ContainerLogs.Text.Blank
import ContainerLogs.Text.CellWidth
import ContainerLogs.Text.Cluster
import ContainerLogs.Text.DecimalDigit
import ContainerLogs.Text.Likeness
import ContainerLogs.Text.Numeral
import ContainerLogs.Text.Printable
import ContainerLogs.Text.Quoted
import ContainerLogs.Text.Utf8
import ContainerLogs.Toml.Document
import ContainerLogs.Toml.Node
import ContainerLogs.Toml.Number
import ContainerLogs.Toml.Printer
import ContainerLogs.Toml.Text
import ContainerLogs.Toml.Value
import ContainerLogs.Wire.Fault
import ContainerLogs.Wire.Feed
import ContainerLogs.Wire.Integer
import ContainerLogs.Wire.Source
