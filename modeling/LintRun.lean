import LintRun.Aggregation
import LintRun.Command.Words
import LintRun.CommandLine.Flags
import LintRun.CommandLine.Parser
import LintRun.CommandLine.Run
import LintRun.CommandLine.Settings
import LintRun.Config
import LintRun.Config.Discovery
import LintRun.Config.Document
import LintRun.Diagnostic
import LintRun.Dict
import LintRun.Duration.Basic
import LintRun.Duration.Parser
import LintRun.Error
import LintRun.Filter
import LintRun.Host
import LintRun.Host.FileTree
import LintRun.Host.System
import LintRun.Issue
import LintRun.Issue.Message
import LintRun.Job
import LintRun.Json.Basic
import LintRun.Json.Printer
import LintRun.Json.Relaxed
import LintRun.Linter.Catalog
import LintRun.Linter.Definition
import LintRun.Linter.Pattern
import LintRun.Linter.Spec
import LintRun.Main
import LintRun.NameSet
import LintRun.Nolint.Directive
import LintRun.Nolint.Filter
import LintRun.Nolint.Sources
import LintRun.Number.Rounding
import LintRun.Output.Checkstyle
import LintRun.Output.Reader
import LintRun.Output.Report
import LintRun.Path
import LintRun.Pipeline
import LintRun.Policy
import LintRun.Process
import LintRun.Proofs.Aggregation.Columns
import LintRun.Proofs.Aggregation.Groups
import LintRun.Proofs.Aggregation.Messages
import LintRun.Proofs.Aggregation.Partition
import LintRun.Proofs.Aggregation.Rules
import LintRun.Proofs.CommandLine.Layers
import LintRun.Proofs.CommandLine.Overrides
import LintRun.Proofs.Config.RoundTrip
import LintRun.Proofs.Dictionaries
import LintRun.Proofs.Filter.Alternatives
import LintRun.Proofs.Host.Walking
import LintRun.Proofs.Job.CrossProduct
import LintRun.Proofs.Job.Origins
import LintRun.Proofs.Job.Target
import LintRun.Proofs.Job.Waiting
import LintRun.Proofs.Lists
import LintRun.Proofs.Nolint.NameLists
import LintRun.Proofs.Nolint.Naming
import LintRun.Proofs.Nolint.Preloading
import LintRun.Proofs.Nolint.Record
import LintRun.Proofs.Nolint.Scanning
import LintRun.Proofs.Nolint.Sessions
import LintRun.Proofs.Nolint.SourceKeys
import LintRun.Proofs.Nolint.Standalone
import LintRun.Proofs.Output.ByFile
import LintRun.Proofs.Output.Lines
import LintRun.Proofs.Output.Locality
import LintRun.Proofs.Output.Markup
import LintRun.Proofs.Output.Shorthands
import LintRun.Proofs.Output.WellFormed
import LintRun.Proofs.Output.Xml
import LintRun.Proofs.Path.Components
import LintRun.Proofs.Path.Joining
import LintRun.Proofs.Path.Order
import LintRun.Proofs.Path.Spelling
import LintRun.Proofs.Pipeline.Accounts
import LintRun.Proofs.Pipeline.CompletionOrder
import LintRun.Proofs.Pipeline.Limits
import LintRun.Proofs.Pipeline.NamedIssues
import LintRun.Proofs.Pipeline.SourceFiles
import LintRun.Proofs.Pipeline.Stages
import LintRun.Proofs.Regex.Alternatives
import LintRun.Proofs.Regex.Backtracking
import LintRun.Proofs.Regex.CharSets
import LintRun.Proofs.Regex.Choices
import LintRun.Proofs.Regex.Following
import LintRun.Proofs.Regex.Machine
import LintRun.Proofs.Regex.Numbering
import LintRun.Proofs.Regex.Places
import LintRun.Proofs.Regex.Preference
import LintRun.Proofs.Regex.Program
import LintRun.Proofs.Regex.Reading.Behind
import LintRun.Proofs.Regex.Reading.Classes
import LintRun.Proofs.Regex.Reading.Escapes
import LintRun.Proofs.Regex.Reading.Moves
import LintRun.Proofs.Regex.Reading.Relation
import LintRun.Proofs.Regex.Reading.Steps
import LintRun.Proofs.Registry.Histories
import LintRun.Proofs.Registry.Reachable
import LintRun.Proofs.Results
import LintRun.Proofs.Schedule.Accounting
import LintRun.Proofs.Schedule.Completion
import LintRun.Proofs.Schedule.ExactlyOnce
import LintRun.Proofs.Schedule.Orders
import LintRun.Proofs.Selection.Exclusions
import LintRun.Proofs.Selection.Projection
import LintRun.Proofs.Sorting
import LintRun.Proofs.Sorting.Composition
import LintRun.Proofs.Template.Grammar
import LintRun.Proofs.Template.RoundTrip
import LintRun.Proofs.Text.Attribute
import LintRun.Proofs.Text.Blanks
import LintRun.Proofs.Text.Cutting
import LintRun.Proofs.Text.Decimal
import LintRun.Proofs.Text.Lines
import LintRun.Proofs.Text.Lower
import LintRun.Proofs.Text.Words
import LintRun.Regex
import LintRun.Regex.CharSet
import LintRun.Regex.Fault
import LintRun.Regex.Machine
import LintRun.Regex.Matching
import LintRun.Regex.Node
import LintRun.Regex.Parser
import LintRun.Regex.Property
import LintRun.Regex.Size
import LintRun.Registry
import LintRun.Schedule
import LintRun.Selection
import LintRun.Severity
import LintRun.Shell.Arithmetic
import LintRun.Shell.Field
import LintRun.Shell.Format
import LintRun.Shell.Parser
import LintRun.Shell.Process
import LintRun.Shell.Run
import LintRun.Shell.Script
import LintRun.Shell.State
import LintRun.Shell.Token
import LintRun.Shell.Tool
import LintRun.SortKey
import LintRun.Template.Basic
import LintRun.Template.Parser
import LintRun.Text.Attribute
import LintRun.Text.Blank
import LintRun.Text.Decimal
import LintRun.Text.Lines
import LintRun.Text.Lower
import LintRun.Text.Quoted
import LintRun.Text.Utf8
import LintRun.Unicode.Addition
import LintRun.Unicode.Binary
import LintRun.Unicode.Case
import LintRun.Unicode.Letter
import LintRun.Unicode.Mark
import LintRun.Unicode.Property
import LintRun.Unicode.Ranges
import LintRun.Unicode.Script
import LintRun.Unicode.Symbol
