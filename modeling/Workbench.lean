import Workbench.Decimal.Binary64
import Workbench.Decimal.Power
import Workbench.Decimal.Shortest
import Workbench.Decode.Mismatch
import Workbench.Document
import Workbench.Environment
import Workbench.Error
import Workbench.Event.Emitter
import Workbench.Event.Switchboard
import Workbench.Extension
import Workbench.FilePath
import Workbench.Json.Decode
import Workbench.Json.Reader
import Workbench.Json.Value
import Workbench.Json.Writer
import Workbench.Lint.Config
import Workbench.Lint.Editor
import Workbench.Lint.Linter
import Workbench.Lint.Reason
import Workbench.Lint.SectionChange
import Workbench.Lint.Switches
import Workbench.Lint.World
import Workbench.Log.Filter
import Workbench.Log.Line
import Workbench.Log.Pattern
import Workbench.Platform
import Workbench.Proofs.Document.Exchange
import Workbench.Proofs.Event.Dispatch
import Workbench.Proofs.Event.Run
import Workbench.Proofs.Event.Subscriptions
import Workbench.Proofs.Factory.Balance
import Workbench.Proofs.Factory.Cache
import Workbench.Proofs.Factory.Handout
import Workbench.Proofs.Factory.Run
import Workbench.Proofs.Json.Leaves
import Workbench.Proofs.Json.Layers
import Workbench.Proofs.Json.RoundTrip
import Workbench.Proofs.Lint.Clearing
import Workbench.Proofs.Lint.Closed
import Workbench.Proofs.Lint.Commissions
import Workbench.Proofs.Lint.Counts
import Workbench.Proofs.Lint.Delayed
import Workbench.Proofs.Lint.Events
import Workbench.Proofs.Lint.Exact
import Workbench.Proofs.Lint.Executor
import Workbench.Proofs.Lint.Isolation
import Workbench.Proofs.Lint.Keeping
import Workbench.Proofs.Lint.Listening
import Workbench.Proofs.Lint.Orders
import Workbench.Proofs.Lint.Outside
import Workbench.Proofs.Lint.Owners
import Workbench.Proofs.Lint.Pending
import Workbench.Proofs.Lint.Relinting
import Workbench.Proofs.Lint.Requests
import Workbench.Proofs.Lint.Retirement
import Workbench.Proofs.Lint.Run
import Workbench.Proofs.Lint.Tasks
import Workbench.Proofs.Lint.Thinning
import Workbench.Proofs.Lint.Trials
import Workbench.Proofs.Lint.Triggers
import Workbench.Proofs.Registry.Calls
import Workbench.Proofs.Registry.Disposal
import Workbench.Proofs.Registry.Standing
import Workbench.Proofs.Settings.Overlay
import Workbench.Proofs.Shell.Endings
import Workbench.Proofs.Shell.Lines
import Workbench.Proofs.Shell.Quoting
import Workbench.Proofs.Terminal.Advance
import Workbench.Proofs.Terminal.Agreement
import Workbench.Proofs.Terminal.Closing
import Workbench.Proofs.Terminal.Continuation
import Workbench.Proofs.Terminal.Delivery
import Workbench.Proofs.Terminal.Disposal
import Workbench.Proofs.Terminal.Everyday
import Workbench.Proofs.Terminal.Executor
import Workbench.Proofs.Terminal.Flight
import Workbench.Proofs.Terminal.Hosting
import Workbench.Proofs.Terminal.LateUses
import Workbench.Proofs.Terminal.Ledger
import Workbench.Proofs.Terminal.Lulls
import Workbench.Proofs.Terminal.Makings
import Workbench.Proofs.Terminal.Moments
import Workbench.Proofs.Terminal.Orderly
import Workbench.Proofs.Terminal.Overtaken
import Workbench.Proofs.Terminal.Ownership
import Workbench.Proofs.Terminal.Perform
import Workbench.Proofs.Terminal.Polling
import Workbench.Proofs.Terminal.Posts
import Workbench.Proofs.Terminal.References
import Workbench.Proofs.Terminal.Registration
import Workbench.Proofs.Terminal.Run
import Workbench.Proofs.Terminal.Session
import Workbench.Proofs.Terminal.Settling
import Workbench.Proofs.Terminal.Sharing
import Workbench.Proofs.Terminal.SingleFlight
import Workbench.Proofs.Terminal.Sound
import Workbench.Proofs.Terminal.Treatment
import Workbench.Proofs.Terminal.Turn
import Workbench.Proofs.Terminal.Waiting
import Workbench.Proofs.Terminal.Workload
import Workbench.Proofs.Text.Ends
import Workbench.Proofs.Turns
import Workbench.Proofs.Url.Files
import Workbench.Proofs.Url.Percent
import Workbench.Proofs.Url.Reading
import Workbench.Proofs.Url.Segments
import Workbench.Proofs.Workspace.Accounts
import Workbench.Proofs.Workspace.Courses
import Workbench.Proofs.Workspace.Estate
import Workbench.Proofs.Workspace.Extensions
import Workbench.Proofs.Workspace.Tenures
import Workbench.Registry.Basic
import Workbench.Registry.Nested
import Workbench.Session.Basic
import Workbench.Session.Row
import Workbench.Session.Step
import Workbench.Settings.Basic
import Workbench.Settings.File
import Workbench.Settings.Json
import Workbench.Settings.Override
import Workbench.Settings.Yaml
import Workbench.Shell.CommandLine
import Workbench.Shell.Identify
import Workbench.Shell.Kind
import Workbench.Terminal.Clock
import Workbench.Terminal.Factory
import Workbench.Terminal.Helper
import Workbench.Terminal.Host
import Workbench.Terminal.Id
import Workbench.Terminal.Options
import Workbench.Terminal.Phase
import Workbench.Terminal.Service
import Workbench.Terminal.World
import Workbench.Text.Alphanumeric
import Workbench.Text.Blank
import Workbench.Text.Composition
import Workbench.Text.Description
import Workbench.Text.Direction
import Workbench.Text.Hex
import Workbench.Text.Joining
import Workbench.Text.Letters
import Workbench.Text.Mark
import Workbench.Text.Printable
import Workbench.Text.Quoted
import Workbench.Text.Ranges
import Workbench.Text.Span
import Workbench.Text.Split
import Workbench.Text.Substitution
import Workbench.Text.Utf8
import Workbench.Turns
import Workbench.Url.Address
import Workbench.Url.Basic
import Workbench.Url.Domain
import Workbench.Url.Domain.Mapping
import Workbench.Url.File
import Workbench.Url.Parse
import Workbench.Url.Path
import Workbench.Url.Percent
import Workbench.Url.Punycode
import Workbench.Workspace
import Workbench.Yaml.Cursor
import Workbench.Yaml.Decode
import Workbench.Yaml.Document
import Workbench.Yaml.Event
import Workbench.Yaml.Scalar
import Workbench.Yaml.Schema
import Workbench.Yaml.Tag
import Workbench.Yaml.Token
