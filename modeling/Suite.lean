import Suite.Calendar.Clock
import Suite.Calendar.Timestamp
import Suite.Ci.Check
import Suite.Cli.Grammar
import Suite.Cli.Help
import Suite.Cli.Invocation
import Suite.Cli.Lookups
import Suite.Cli.Report
import Suite.Cli.Run
import Suite.Component
import Suite.Config.Basic
import Suite.Config.Lookup
import Suite.Config.Written
import Suite.Digest.Sha256
import Suite.Error
import Suite.Gate.Run
import Suite.Gate.RunId
import Suite.Gate.Task
import Suite.Gate.Written
import Suite.Host.Base
import Suite.Host.FileTree
import Suite.Host.Machine
import Suite.Json.Choice
import Suite.Json.Decoder
import Suite.Json.Numeral
import Suite.Json.Printer
import Suite.Json.Reader
import Suite.Json.Record
import Suite.Json.Source
import Suite.Json.Value
import Suite.Keyed
import Suite.Launch.Arguments
import Suite.Launch.Classpath
import Suite.Launch.Command
import Suite.Launch.Platform
import Suite.Number.Binary64
import Suite.Number.Shortest
import Suite.Path
import Suite.Profile
import Suite.Shell.Arguments
import Suite.Shell.Arithmetic
import Suite.Shell.Builtins
import Suite.Shell.Columns
import Suite.Shell.Command
import Suite.Shell.Concatenation
import Suite.Shell.Condition
import Suite.Shell.Environment
import Suite.Shell.Escapes
import Suite.Shell.Executable
import Suite.Shell.Expansion
import Suite.Shell.Fields
import Suite.Shell.Formats
import Suite.Shell.Fractions
import Suite.Shell.Interpreter
import Suite.Shell.Jobs
import Suite.Shell.Listing
import Suite.Shell.Names
import Suite.Shell.Pattern
import Suite.Shell.Permissions
import Suite.Shell.Processes
import Suite.Shell.Quotation
import Suite.Shell.Reader
import Suite.Shell.Redirections
import Suite.Shell.Running
import Suite.Shell.Scene
import Suite.Shell.Script
import Suite.Shell.Session
import Suite.Shell.Stream
import Suite.Shell.Task
import Suite.Shell.Tools
import Suite.Shell.Usage
import Suite.Stage
import Suite.Text.Blank
import Suite.Text.Hidden
import Suite.Text.Octets
import Suite.Text.Pieces
import Suite.Text.Quoted
import Suite.Text.Utf8
import Suite.Main
import Suite.Proofs.Gate.Account
import Suite.Proofs.Launch.Entries
import Suite.Proofs.Launch.Preorder
import Suite.Proofs.Launch.Reach
import Suite.Proofs.Launch.Worklist
import Suite.Proofs.Gate.Policies
import Suite.Proofs.Failing
import Suite.Proofs.Config.Validity
import Suite.Proofs.Launch.Validated
import Suite.Proofs.Cli.Options
import Suite.Proofs.Cli.Trailing
import Suite.Proofs.Cli.Commands
import Suite.Proofs.Cli.Standalone
import Suite.Proofs.Gate.Stages
import Suite.Proofs.Cli.GateRun
import Suite.Proofs.Host.Writing
import Suite.Proofs.Ci.Verdict
import Suite.Proofs.Ci.Writes
import Suite.Proofs.Ci.Sync
import Suite.Proofs.Registry.Calls
import Suite.Proofs.Registry.Index
import Suite.Proofs.Json.Yields
import Suite.Proofs.Json.Members
import Suite.Proofs.Config.Defaults
import Suite.Proofs.Gate.Sessions
import Suite.Proofs.Launch.Places
import Suite.Proofs.Cli.Launching
import Suite.Proofs.Cli.Programs
import Suite.Proofs.Calendar.Timestamps
import Suite.Proofs.Json.Choices
import Suite.Proofs.Json.Written
import Suite.Proofs.Text.Pieces
import Suite.Proofs.Launch.Aliases
import Suite.Proofs.Launch.Unfolding
import Suite.Proofs.Launch.Respelling
import Suite.Proofs.Launch.Outcomes
import Suite.Proofs.Launch.Separators
import Suite.Proofs.Launch.Home
import Suite.Proofs.Launch.Division
import Suite.Proofs.Launch.Requests
import Suite.Proofs.Repetitions
import Suite.Proofs.Launch.Edits
import Suite.Proofs.Launch.Artifacts
import Suite.Proofs.Text.Entries
import Suite.Proofs.Component
import Suite.Proofs.Gate.Tags
import Suite.Proofs.Gate.Rounds
import Suite.Proofs.Cli.Restoring
import Suite.Proofs.Text.Lines
import Suite.Proofs.Gate.Failures
import Suite.Proofs.Launch.Descent
import Suite.Proofs.Cli.Filled
import Suite.Proofs.Cli.Variables
import Suite.Proofs.Config.Destinations
