import CompileWorker.Text.Utf8
import CompileWorker.Text.Blank
import CompileWorker.Text.Alphanumeric
import CompileWorker.Numeral.Double
import CompileWorker.Numeral.Shortest
import CompileWorker.Text.Quoted
import CompileWorker.Json.Basic
import CompileWorker.Json.Printer
import CompileWorker.Json.Failure
import CompileWorker.Json.Token
import CompileWorker.Json.Skim
import CompileWorker.Json.Reader
import CompileWorker.Json.Decoder
import CompileWorker.Message.Request
import CompileWorker.Message.Response
import CompileWorker.Message.Error
import CompileWorker.Message.Compile
import CompileWorker.Message.Guest
import CompileWorker.Message.Signal
import CompileWorker.Settings.Basic
import CompileWorker.Settings.Source
import CompileWorker.Framing.Source
import CompileWorker.Framing.Message
import CompileWorker.Sorted
import CompileWorker.Digest.Map
import CompileWorker.Json.Merge
import CompileWorker.Environment.Basic
import CompileWorker.Environment.World
import CompileWorker.Environment.Mock
import CompileWorker.Environment.Faults
import CompileWorker.Transcript
import CompileWorker.Cache.Roles
import CompileWorker.Dispatcher
import CompileWorker.Service
import CompileWorker.Files
import CompileWorker.Digest.Fingerprint
import CompileWorker.Flagfile
import CompileWorker.LogFilter
import CompileWorker.Toml.Value
import CompileWorker.Toml.Token
import CompileWorker.Toml.Scalar
import CompileWorker.Toml.Table
import CompileWorker.Toml.Document
import CompileWorker.Toml.Conversion
import CompileWorker.Settings.Effective
import CompileWorker.Shell.Syntax
import CompileWorker.Shell.Reader
import CompileWorker.Shell.Grammar
import CompileWorker.Shell.Interaction
import CompileWorker.Shell.State
import CompileWorker.Shell.CharSet
import CompileWorker.Shell.Pattern
import CompileWorker.Shell.Arithmetic
import CompileWorker.Shell.Expansion
import CompileWorker.Shell.Format
import CompileWorker.Shell.Condition
import CompileWorker.Shell.Builtin
import CompileWorker.Shell.Regex
import CompileWorker.Shell.Utility.Basic
import CompileWorker.Shell.Utility.Lines
import CompileWorker.Shell.Utility.Search
import CompileWorker.Shell.Utility.Editing
import CompileWorker.Shell.Utility.Entries
import CompileWorker.Shell.Utility.Numbers
import CompileWorker.Shell.Utility
import CompileWorker.Shell.Evaluation
import CompileWorker.Shell.Process
import CompileWorker.Environment.Hosted
import CompileWorker.Shell.Hosts
import CompileWorker.CommandLine
import CompileWorker.Program
import CompileWorker.Program.Paths
import CompileWorker.Main
import CompileWorker.Proofs.CacheHistory
import CompileWorker.Proofs.Actions
import CompileWorker.Proofs.ChannelFailure
import CompileWorker.Proofs.DigestGuard
import CompileWorker.Proofs.ReuseDecision
import CompileWorker.Proofs.RequestOrder
import CompileWorker.Proofs.RestartBudget
import CompileWorker.Proofs.Conversation
import CompileWorker.Proofs.RefusedLines
import CompileWorker.Proofs.FailedLoads
import CompileWorker.Proofs.StreamReading
import CompileWorker.Proofs.MessageRoundTrip
import CompileWorker.Proofs.SingleRequest
import CompileWorker.Proofs.ClasspathOrder
import CompileWorker.Proofs.CacheSteps
import CompileWorker.Proofs.RoleIsolation
import CompileWorker.Proofs.ToolingStability
import CompileWorker.Proofs.HostChannel
import CompileWorker.Proofs.HostDialogue
import CompileWorker.Proofs.FailedAcquire
import CompileWorker.Proofs.CanonicalValues
import CompileWorker.Proofs.LayerPrecedence
import CompileWorker.Proofs.RecordFields
import CompileWorker.Proofs.SettingsInForce
import CompileWorker.Proofs.Simulation
import CompileWorker.Proofs.AttendedGuests
import CompileWorker.Proofs.GuestReplies
import CompileWorker.Proofs.LoadedLocations
import CompileWorker.Proofs.CacheAccounts
import CompileWorker.Proofs.ResponseOutput
import CompileWorker.Proofs.FailureCodes
import CompileWorker.Proofs.TrackedDigests
import CompileWorker.Proofs.VerboseNotes
import CompileWorker.Proofs.AcceptedRequests
import CompileWorker.Proofs.SettingsRoundTrip
import CompileWorker.Proofs.FileNames
import CompileWorker.Proofs.OptionOverrides
import CompileWorker.Proofs.FlagfileExpansion
import CompileWorker.Proofs.FactoryRuns
import CompileWorker.Proofs.MockMonitor
import CompileWorker.Proofs.DigestAlgebra
import CompileWorker.Proofs.RestartCount
