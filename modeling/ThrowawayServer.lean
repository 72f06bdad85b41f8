import ThrowawayServer.Catalog.ArchiveStore
import ThrowawayServer.Catalog.Artifact
import ThrowawayServer.Catalog.Distribution
import ThrowawayServer.Catalog.FilePath
import ThrowawayServer.Catalog.LinuxBuilds
import ThrowawayServer.Catalog.Match
import ThrowawayServer.Catalog.MatchForm
import ThrowawayServer.Catalog.OtherBuilds
import ThrowawayServer.Catalog.Program
import ThrowawayServer.Catalog.Resolver
import ThrowawayServer.Catalog.Rule
import ThrowawayServer.CommandLine.Arguments
import ThrowawayServer.CommandLine.Parse
import ThrowawayServer.CommandLine.Reader
import ThrowawayServer.CommandLine.Report
import ThrowawayServer.CommandLine.Session
import ThrowawayServer.Json.Forms
import ThrowawayServer.Json.Value
import ThrowawayServer.Main
import ThrowawayServer.Net.IpAddress
import ThrowawayServer.Pattern.Basic
import ThrowawayServer.Pattern.Match
import ThrowawayServer.Pattern.Parse
import ThrowawayServer.Platform.Basic
import ThrowawayServer.Platform.Detect
import ThrowawayServer.Platform.OsRelease
import ThrowawayServer.Platform.Override
import ThrowawayServer.Process.OsError
import ThrowawayServer.Process.Signal
import ThrowawayServer.Rehearsal.FileTree
import ThrowawayServer.Rehearsal.Launch
import ThrowawayServer.Rehearsal.Machine
import ThrowawayServer.Rehearsal.Program
import ThrowawayServer.Rehearsal.ScriptedProcess
import ThrowawayServer.Rehearsal.Shell.Arithmetic
import ThrowawayServer.Rehearsal.Shell.Builtin
import ThrowawayServer.Rehearsal.Shell.Condition
import ThrowawayServer.Rehearsal.Shell.Expand
import ThrowawayServer.Rehearsal.Shell.Parse
import ThrowawayServer.Rehearsal.Shell.Printing
import ThrowawayServer.Rehearsal.Shell.Redirect
import ThrowawayServer.Rehearsal.Shell.State
import ThrowawayServer.Rehearsal.Shell.Step
import ThrowawayServer.Rehearsal.Shell.Syntax
import ThrowawayServer.Rehearsal.Shell.Wildcard
import ThrowawayServer.Rehearsal.Stage
import ThrowawayServer.Rehearsal.Utility
import ThrowawayServer.Run.Config
import ThrowawayServer.Run.ConfigFile
import ThrowawayServer.Run.ConfigForm
import ThrowawayServer.Shutdown.CommandChannel
import ThrowawayServer.Shutdown.Escalation
import ThrowawayServer.Shutdown.Flag
import ThrowawayServer.Shutdown.Message
import ThrowawayServer.Shutdown.Trace
import ThrowawayServer.Startup.Classifier
import ThrowawayServer.Startup.LineReader
import ThrowawayServer.Startup.Patterns
import ThrowawayServer.Supervisor.Lifecycle
import ThrowawayServer.Supervisor.Settings
import ThrowawayServer.Supervisor.State
import ThrowawayServer.Text.Blank
import ThrowawayServer.Text.DecimalDigit
import ThrowawayServer.Text.Duration
import ThrowawayServer.Text.Hex
import ThrowawayServer.Text.LetterCase
import ThrowawayServer.Text.Numeral
import ThrowawayServer.Text.Printable
import ThrowawayServer.Text.Quoted
import ThrowawayServer.Text.Split
import ThrowawayServer.Text.Utf8
import ThrowawayServer.Version.Basic
import ThrowawayServer.Version.Range
import ThrowawayServer.Yaml.Cursor
import ThrowawayServer.Yaml.Fault
import ThrowawayServer.Yaml.Lexer
import ThrowawayServer.Yaml.Node
import ThrowawayServer.Yaml.Scalar
import ThrowawayServer.Yaml.Shape
import ThrowawayServer.Yaml.Token
import ThrowawayServer.Proofs.Shutdown.Exchange
import ThrowawayServer.Proofs.Shutdown.Climb
import ThrowawayServer.Proofs.Shutdown.Discipline
import ThrowawayServer.Proofs.Shutdown.SignalTarget
import ThrowawayServer.Proofs.Shutdown.Waiting
import ThrowawayServer.Proofs.Shutdown.MessageWords
import ThrowawayServer.Proofs.Supervisor.History
import ThrowawayServer.Proofs.Supervisor.Performance
import ThrowawayServer.Proofs.Supervisor.Course
import ThrowawayServer.Proofs.Supervisor.PayloadGuard
import ThrowawayServer.Proofs.Supervisor.SingleLife
import ThrowawayServer.Proofs.Startup.FirstVerdict
import ThrowawayServer.Proofs.Text.Cutting
import ThrowawayServer.Proofs.Text.Tokens
import ThrowawayServer.Proofs.Text.Numeral
import ThrowawayServer.Proofs.Text.Utf8
import ThrowawayServer.Proofs.Version.Grammar
import ThrowawayServer.Proofs.Version.Canonical
import ThrowawayServer.Proofs.Version.Order
import ThrowawayServer.Proofs.Catalog.Chains
import ThrowawayServer.Proofs.Catalog.FirstMatch
import ThrowawayServer.Proofs.Catalog.Package
import ThrowawayServer.Proofs.Catalog.Resolution
import ThrowawayServer.Proofs.Catalog.LinuxChoice
import ThrowawayServer.Proofs.Catalog.PathJoin
import ThrowawayServer.Proofs.Catalog.ExtractedFolder
import ThrowawayServer.Proofs.Catalog.Machine
import ThrowawayServer.Proofs.Catalog.Templates
import ThrowawayServer.Proofs.Catalog.Mirrors
import ThrowawayServer.Proofs.Catalog.ArchiveEntry
import ThrowawayServer.Proofs.Startup.TwoReaders
import ThrowawayServer.Proofs.Supervisor.EarlyEnd
import ThrowawayServer.Proofs.Startup.LineReading
import ThrowawayServer.Proofs.Startup.Draining
import ThrowawayServer.Proofs.Version.PatchRuns
import ThrowawayServer.Proofs.Platform.Override
import ThrowawayServer.Proofs.Platform.ReleaseTag
import ThrowawayServer.Proofs.Platform.LastLines
import ThrowawayServer.Proofs.CommandLine.PrintedArchive
import ThrowawayServer.Proofs.CommandLine.SameArchive
import ThrowawayServer.Proofs.Version.FewestRanges
import ThrowawayServer.Proofs.Version.ReadBack
import ThrowawayServer.Proofs.Catalog.Spelling
import ThrowawayServer.Proofs.Supervisor.StartOutcome
import ThrowawayServer.Proofs.CommandLine.ConfigLayers
import ThrowawayServer.Proofs.Catalog.Eras
import ThrowawayServer.Proofs.Pattern.Ends
import ThrowawayServer.Proofs.Pattern.Search
import ThrowawayServer.Proofs.Platform.Upgrades
import ThrowawayServer.Proofs.Startup.ServerLines
import ThrowawayServer.Proofs.Pattern.Captures
import ThrowawayServer.Proofs.Startup.Banner
