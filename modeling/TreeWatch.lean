import TreeWatch.Command.Arguments
import TreeWatch.Command.Flag
import TreeWatch.Command.Notice
import TreeWatch.Command.Run
import TreeWatch.Command.Usage
import TreeWatch.Decimal.Binary
import TreeWatch.Decimal.Fixed
import TreeWatch.Decimal.Read
import TreeWatch.Decimal.Shortest
import TreeWatch.Failure
import TreeWatch.Log.Journal
import TreeWatch.Log.Logger
import TreeWatch.Log.Record
import TreeWatch.Main
import TreeWatch.Path
import TreeWatch.Proofs.Command.Gates
import TreeWatch.Proofs.Command.Lines
import TreeWatch.Proofs.Command.Outcome
import TreeWatch.Proofs.Command.Plain
import TreeWatch.Proofs.Command.Plan
import TreeWatch.Proofs.Command.Precedence
import TreeWatch.Proofs.Command.Rounds
import TreeWatch.Proofs.Command.Verbosity
import TreeWatch.Proofs.Decimal.Whole
import TreeWatch.Proofs.Failure
import TreeWatch.Proofs.Log.Attempts
import TreeWatch.Proofs.Log.Attending
import TreeWatch.Proofs.Log.Family
import TreeWatch.Proofs.Log.Lifecycle
import TreeWatch.Proofs.Log.Muting
import TreeWatch.Proofs.Log.Renumbering
import TreeWatch.Proofs.Log.Setup
import TreeWatch.Proofs.Log.Writing
import TreeWatch.Proofs.Session.Cadence
import TreeWatch.Proofs.Session.Calls
import TreeWatch.Proofs.Session.Canonical
import TreeWatch.Proofs.Session.Course
import TreeWatch.Proofs.Session.Delivery
import TreeWatch.Proofs.Session.Depth
import TreeWatch.Proofs.Session.Equivalence
import TreeWatch.Proofs.Session.Evenness
import TreeWatch.Proofs.Session.ExactTime
import TreeWatch.Proofs.Session.Fitting
import TreeWatch.Proofs.Session.Frame
import TreeWatch.Proofs.Session.Keeping
import TreeWatch.Proofs.Session.Likeness
import TreeWatch.Proofs.Session.Linking
import TreeWatch.Proofs.Session.Listing
import TreeWatch.Proofs.Session.Logbook
import TreeWatch.Proofs.Session.Moves
import TreeWatch.Proofs.Session.Omissions
import TreeWatch.Proofs.Session.Orderliness
import TreeWatch.Proofs.Session.Outages
import TreeWatch.Proofs.Session.Reception
import TreeWatch.Proofs.Session.Refusals
import TreeWatch.Proofs.Session.Requests
import TreeWatch.Proofs.Session.Reserve
import TreeWatch.Proofs.Session.Rhythm
import TreeWatch.Proofs.Session.Spacing
import TreeWatch.Proofs.Session.Stopping
import TreeWatch.Proofs.Session.Turns
import TreeWatch.Proofs.Session.Unison
import TreeWatch.Proofs.Settings.Coercion
import TreeWatch.Proofs.Settings.Files
import TreeWatch.Proofs.Settings.Layers
import TreeWatch.Proofs.Settings.Reading
import TreeWatch.Proofs.Settings.Skipping
import TreeWatch.Proofs.Settings.Sources
import TreeWatch.Proofs.Text.Json
import TreeWatch.Proofs.Tree.Arranging
import TreeWatch.Proofs.Tree.Asking
import TreeWatch.Proofs.Tree.Blanking
import TreeWatch.Proofs.Tree.Changing
import TreeWatch.Proofs.Tree.Entrywise
import TreeWatch.Proofs.Tree.Mending
import TreeWatch.Proofs.Tree.Names
import TreeWatch.Proofs.Tree.Orderly
import TreeWatch.Proofs.Tree.Recasting
import TreeWatch.Proofs.Tree.Relabelling
import TreeWatch.Proofs.Tree.Reordering
import TreeWatch.Proofs.Tree.Ways
import TreeWatch.Proofs.Value.Keys
import TreeWatch.Proofs.Watch.Confinement
import TreeWatch.Proofs.Watch.Contents
import TreeWatch.Proofs.Watch.Differences
import TreeWatch.Proofs.Watch.Enumeration
import TreeWatch.Proofs.Watch.Granting
import TreeWatch.Proofs.Watch.Intervals
import TreeWatch.Proofs.Watch.Isolation
import TreeWatch.Proofs.Watch.Keys
import TreeWatch.Proofs.Watch.Netting
import TreeWatch.Proofs.Watch.Order
import TreeWatch.Proofs.Watch.Outage
import TreeWatch.Proofs.Watch.Outline
import TreeWatch.Proofs.Watch.Polling
import TreeWatch.Proofs.Watch.Replay
import TreeWatch.Proofs.Watch.Roots
import TreeWatch.Proofs.Watch.Settling
import TreeWatch.Proofs.Watch.Sight
import TreeWatch.Proofs.Watch.TopLevel
import TreeWatch.Proofs.Watch.Tracking
import TreeWatch.Proofs.Watch.Traversal
import TreeWatch.Proofs.Yaml.Keys
import TreeWatch.Session.Act
import TreeWatch.Session.Action
import TreeWatch.Session.Perform
import TreeWatch.Session.Reply
import TreeWatch.Session.State
import TreeWatch.Session.Step
import TreeWatch.Session.Timeline
import TreeWatch.Settings.Coerce
import TreeWatch.Settings.Layers
import TreeWatch.Settings.Schema
import TreeWatch.Settings.Sources
import TreeWatch.Settings.Threshold
import TreeWatch.Text.Base64
import TreeWatch.Text.Blank
import TreeWatch.Text.Bytes
import TreeWatch.Text.Columns
import TreeWatch.Text.DecimalDigit
import TreeWatch.Text.Emoji
import TreeWatch.Text.Json
import TreeWatch.Text.Markup
import TreeWatch.Text.Printable
import TreeWatch.Text.Quoted
import TreeWatch.Text.Wrap
import TreeWatch.Tree.Edit
import TreeWatch.Tree.Errno
import TreeWatch.Tree.Lookup
import TreeWatch.Tree.Node
import TreeWatch.Value.Basic
import TreeWatch.Value.Literal
import TreeWatch.Value.Moment
import TreeWatch.Value.NumberTable
import TreeWatch.Watch.Event
import TreeWatch.Watch.Interval
import TreeWatch.Watch.Poller
import TreeWatch.Watch.Snapshot
import TreeWatch.Watch.Spec
import TreeWatch.Watch.Walk
import TreeWatch.World
import TreeWatch.Yaml.BlockScalar
import TreeWatch.Yaml.Construction
import TreeWatch.Yaml.Cursor
import TreeWatch.Yaml.Document
import TreeWatch.Yaml.Lexer
import TreeWatch.Yaml.Load
import TreeWatch.Yaml.Mark
import TreeWatch.Yaml.Merging
import TreeWatch.Yaml.Node
import TreeWatch.Yaml.PlainScalar
import TreeWatch.Yaml.Portion
import TreeWatch.Yaml.QuotedScalar
import TreeWatch.Yaml.ScalarValue
import TreeWatch.Yaml.Tag
import TreeWatch.Yaml.Token
import TreeWatch.Yaml.Unfolding
import TreeWatch.Proofs.Settings.Regrouping
import TreeWatch.Proofs.Watch.Resolving
import TreeWatch.Proofs.Session.Retracing
