import AsmExplorer.CommandLine.Arguments
import AsmExplorer.CommandLine.Help
import AsmExplorer.CommandLine.Run
import AsmExplorer.CompileCache
import AsmExplorer.Compiler.Compile
import AsmExplorer.Compiler.Data
import AsmExplorer.Compiler.Error
import AsmExplorer.Compiler.Info
import AsmExplorer.Compiler.Kind
import AsmExplorer.Compiler.Manager
import AsmExplorer.Compiler.Output
import AsmExplorer.Compiler.Store
import AsmExplorer.Config.Basic
import AsmExplorer.Config.Data
import AsmExplorer.Config.Load
import AsmExplorer.Data.Json
import AsmExplorer.Data.Toml
import AsmExplorer.Data.Toml.Moment
import AsmExplorer.Data.Toml.Scalar
import AsmExplorer.Data.Toml.Table
import AsmExplorer.Data.Value
import AsmExplorer.Editor.Host
import AsmExplorer.Emitter
import AsmExplorer.Listing.CompiledUnit
import AsmExplorer.Listing.Data
import AsmExplorer.Listing.Filters
import AsmExplorer.Listing.Gas
import AsmExplorer.Listing.Index
import AsmExplorer.Listing.Line
import AsmExplorer.Listing.Masm
import AsmExplorer.Listing.Report
import AsmExplorer.Listing.Scan
import AsmExplorer.Machine.Basic
import AsmExplorer.Machine.CharSet
import AsmExplorer.Machine.Files
import AsmExplorer.Machine.Glob
import AsmExplorer.Machine.Grep
import AsmExplorer.Machine.Printf
import AsmExplorer.Machine.Process
import AsmExplorer.Machine.Regex
import AsmExplorer.Machine.Sed
import AsmExplorer.Machine.Shell.Builtin
import AsmExplorer.Machine.Shell.Parse
import AsmExplorer.Machine.Shell.Run
import AsmExplorer.Machine.Shell.State
import AsmExplorer.Machine.Shell.Sum
import AsmExplorer.Machine.Shell.Syntax
import AsmExplorer.Machine.Tools
import AsmExplorer.Machine.Tools.Basic
import AsmExplorer.Machine.Tools.Columns
import AsmExplorer.Machine.Tools.Copies
import AsmExplorer.Machine.Tools.Links
import AsmExplorer.Main
import AsmExplorer.Path
import AsmExplorer.Proofs.Cache.Accounting
import AsmExplorer.Proofs.Cache.Bursts
import AsmExplorer.Proofs.Cache.Clock
import AsmExplorer.Proofs.Cache.Isolation
import AsmExplorer.Proofs.Cache.Outcomes
import AsmExplorer.Proofs.Cache.Phases
import AsmExplorer.Proofs.Cache.Requests
import AsmExplorer.Proofs.Cache.Run
import AsmExplorer.Proofs.Cache.Step
import AsmExplorer.Proofs.Compiler.Changes
import AsmExplorer.Proofs.Compiler.Demangling
import AsmExplorer.Proofs.Compiler.Endings
import AsmExplorer.Proofs.Compiler.Located
import AsmExplorer.Proofs.Compiler.Scratch
import AsmExplorer.Proofs.Compiler.Store
import AsmExplorer.Proofs.Compiler.Toolchains
import AsmExplorer.Proofs.Config.Manager
import AsmExplorer.Proofs.Config.Settings
import AsmExplorer.Proofs.Config.Warnings
import AsmExplorer.Proofs.Data.Json
import AsmExplorer.Proofs.Data.ReadBack
import AsmExplorer.Proofs.Data.Records
import AsmExplorer.Proofs.Data.SortedMap
import AsmExplorer.Proofs.Data.Spelling
import AsmExplorer.Proofs.Emitter.Deliveries
import AsmExplorer.Proofs.Emitter.Moments
import AsmExplorer.Proofs.Emitter.Registrations
import AsmExplorer.Proofs.Listing.Attribution
import AsmExplorer.Proofs.Listing.Correspondence
import AsmExplorer.Proofs.Listing.Hiding
import AsmExplorer.Proofs.Listing.Index
import AsmExplorer.Proofs.Listing.Labels
import AsmExplorer.Proofs.Listing.LibraryBlocks
import AsmExplorer.Proofs.Listing.LineNumbers
import AsmExplorer.Proofs.Listing.Markers
import AsmExplorer.Proofs.Listing.PlainNames
import AsmExplorer.Proofs.Listing.References
import AsmExplorer.Proofs.Listing.RenamedLines
import AsmExplorer.Proofs.Listing.RenamedListings
import AsmExplorer.Proofs.Listing.Renaming
import AsmExplorer.Proofs.Listing.Shown
import AsmExplorer.Proofs.Listing.SourceMap
import AsmExplorer.Proofs.Listing.Verbatim
import AsmExplorer.Proofs.Path.Joining
import AsmExplorer.Proofs.Path.Names
import AsmExplorer.Proofs.Path.Normal
import AsmExplorer.Proofs.Path.NormalForm
import AsmExplorer.Proofs.Path.Relative
import AsmExplorer.Proofs.Registry.Closing
import AsmExplorer.Proofs.Registry.Delivery
import AsmExplorer.Proofs.Registry.FileChanges
import AsmExplorer.Proofs.Registry.Run
import AsmExplorer.Proofs.Registry.Scripts
import AsmExplorer.Proofs.Registry.Sharing
import AsmExplorer.Proofs.Registry.Work
import AsmExplorer.Proofs.Text.Columns
import AsmExplorer.Proofs.Text.Percent
import AsmExplorer.Proofs.Text.Squashing
import AsmExplorer.Proofs.Text.Strings
import AsmExplorer.Proofs.Text.Tokens
import AsmExplorer.Proofs.Text.Utf8
import AsmExplorer.Proofs.Uri.Document
import AsmExplorer.Proofs.Uri.Extensions
import AsmExplorer.Proofs.Uri.Files
import AsmExplorer.Proofs.Uri.Segments
import AsmExplorer.Proofs.Uri.Views
import AsmExplorer.Proofs.View.Bounds
import AsmExplorer.Proofs.View.Calls
import AsmExplorer.Proofs.View.Churn
import AsmExplorer.Proofs.View.Current
import AsmExplorer.Proofs.View.Dimming
import AsmExplorer.Proofs.View.Documents
import AsmExplorer.Proofs.View.Highlight
import AsmExplorer.Proofs.View.Leftovers
import AsmExplorer.Proofs.View.Marks
import AsmExplorer.Proofs.View.Navigation
import AsmExplorer.Proofs.View.Puts
import AsmExplorer.Proofs.View.Reactions
import AsmExplorer.Proofs.View.Repetition
import AsmExplorer.Proofs.View.Replacement
import AsmExplorer.Proofs.View.Replay
import AsmExplorer.Proofs.View.Scene
import AsmExplorer.Proofs.View.Screen
import AsmExplorer.Proofs.View.Scrolling
import AsmExplorer.Proofs.View.Tidy
import AsmExplorer.Proofs.View.Toggle
import AsmExplorer.Proofs.View.Unledgered
import AsmExplorer.Simulation
import AsmExplorer.Text.Blank
import AsmExplorer.Text.Canonical
import AsmExplorer.Text.Canonical.Table
import AsmExplorer.Text.CharTable
import AsmExplorer.Text.Columns
import AsmExplorer.Text.Percent
import AsmExplorer.Text.Spans
import AsmExplorer.Text.Squash
import AsmExplorer.Text.Utf8
import AsmExplorer.Text.Word
import AsmExplorer.Uri.Basic
import AsmExplorer.Uri.Document
import AsmExplorer.Uri.Domain
import AsmExplorer.Uri.Domain.Label
import AsmExplorer.Uri.Domain.Script
import AsmExplorer.Uri.Domain.Table
import AsmExplorer.Uri.Host
import AsmExplorer.Uri.Parse
import AsmExplorer.Uri.Punycode
import AsmExplorer.View.Data
import AsmExplorer.View.Ledger
import AsmExplorer.View.Registry
import AsmExplorer.View.Synchronizer
import AsmExplorer.View.Visible
