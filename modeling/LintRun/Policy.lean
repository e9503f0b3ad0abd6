import LintRun.Dict
import LintRun.Filter
import LintRun.Linter.Catalog
import LintRun.SortKey
import LintRun.Template.Parser

/-!
# Policies

A policy says how a run is carried out and reported.  It is built from settings as the user
writes them, of which a later one replaces an earlier one, and everything in it is checked
before any linter starts.
-/

set_option autoImplicit false

namespace LintRun

/-- How issues are reported. -/
inductive OutputMode where
  | text
  | json
  /-- A document that groups issues by file. -/
  | checkstyle
deriving DecidableEq, Repr, Inhabited

/-- The time that a job may take unless another is set. -/
def defaultDeadline : Duration :=
  { Duration.zero with seconds := 30, seconds_lt := by decide }

/-- Settings for a run, as written. -/
structure PolicyBuilder where
  /-- How many jobs run at a time; as many as the machine has processors when not set. -/
  concurrency : Option Nat := none
  /-- The time that a job may take; none at all stands for no limit. -/
  deadline : Duration := defaultDeadline
  aggregate : Bool := false
  sort : List String := []
  keeping : List String := []
  dropping : List String := []
  format : String := Issue.defaultFormat
  severity : Dict String := ∅
  messageOverrides : Dict String := .ofList Catalog.messageOverrides
  vars : Dict String := .ofList Catalog.defaultVars
  warnUnmatchedNolint : Bool := false
  errorsOnly : Bool := false
  output : OutputMode := .text
  /-- The directory that linters run in; the current one when not set. -/
  root : Option String := none
deriving DecidableEq

/-- What a machine tells about itself, as far as it can. -/
structure Machine where
  /-- How many jobs it can run at a time. -/
  processors : Option Nat := none
  currentDirectory : Option String := none
deriving DecidableEq

/-- Settings for a run that have been checked, with those that were not set taken from the
machine. -/
structure Policy where
  concurrency : Nat
  deadline : Duration
  aggregate : Bool
  sort : List SortKey
  filter : IssueFilter
  format : Template
  severity : Dict Severity
  messageOverrides : Dict Template
  vars : Dict String
  warnUnmatchedNolint : Bool
  errorsOnly : Bool
  output : OutputMode
  root : String

namespace PolicyBuilder

/-- The settings with the value of one command variable. -/
def var (b : PolicyBuilder) (name value : String) : PolicyBuilder :=
  { b with vars := b.vars.insert name value }

/-- The settings with test files included or not, which two command variables tell. -/
def tests (b : PolicyBuilder) (yes : Bool) : PolicyBuilder :=
  if yes then (b.var "tests" "true").var "not_tests" ""
  else (b.var "tests" "").var "not_tests" "true"

/-- The settings with the severity of one linter. -/
def setSeverity (b : PolicyBuilder) (linter severity : String) : PolicyBuilder :=
  { b with severity := b.severity.insert linter severity }

/-- The settings with the message template of one linter. -/
def setMessage (b : PolicyBuilder) (linter template : String) : PolicyBuilder :=
  { b with messageOverrides := b.messageOverrides.insert linter template }

/-- Checks every value of a dictionary, in the order of the names. -/
def checkAll {α β : Type} (check : α → Except ConfigError β) (d : Dict α) :
    Except ConfigError (Dict β) := do
  return .ofList (← d.entries.mapM fun e => do return (e.1, ← check e.2))

/-- Checks the severity of a linter. -/
def checkSeverity (text : String) : Except ConfigError Severity :=
  match Severity.ofText? text with
  | some severity => .ok severity
  | none => .error (.severity text)

/-- Checks a template with any placeholders. -/
def checkTemplate (source : String) : Except ConfigError Template :=
  match Template.parse source with
  | .ok template => .ok template
  | .error fault => .error (.template source fault)

/-- Checks the template by which issues are shown. -/
def checkFormat (source : String) : Except ConfigError Template :=
  match Template.parseWithFields source Issue.formatFields with
  | .ok template => .ok template
  | .error fault => .error (.template source fault)

/-- Checks all settings.  A machine that does not tell has one processor, and its current directory
is written as a dot. -/
def build [Regex.SizeRule] (machine : Machine) (b : PolicyBuilder) :
    Except ConfigError Policy := do
  if b.concurrency = some 0 then
    throw .zeroConcurrency
  let format ← checkFormat b.format
  let sort ← SortKey.ofNames b.sort
  let filter ← IssueFilter.ofPatterns b.keeping b.dropping
  let severity ← checkAll checkSeverity b.severity
  let messageOverrides ← checkAll checkTemplate b.messageOverrides
  return {
    concurrency := b.concurrency.getD (machine.processors.getD 1)
    deadline := b.deadline
    aggregate := b.aggregate
    sort
    filter
    format
    severity
    messageOverrides
    vars := b.vars
    warnUnmatchedNolint := b.warnUnmatchedNolint
    errorsOnly := b.errorsOnly
    output := b.output
    root := b.root.getD (machine.currentDirectory.getD ".") }

end PolicyBuilder

namespace Policy

/-- The time that a job may take, if it is limited. -/
def deadline? (p : Policy) : Option Duration :=
  if p.deadline.isZero then none else some p.deadline

/-- The keys that issues are sorted by.  A document that groups issues by file needs them in
the order of their paths. -/
def sortKeys (p : Policy) : List SortKey :=
  match p.output with
  | .checkstyle => [.path]
  | .text | .json => p.sort

/-- The severity that was set for a linter. -/
def severityFor (p : Policy) (linter : String) : Option Severity :=
  p.severity.get? linter

/-- The message template of a linter. -/
def messageOverride (p : Policy) (linter : String) : Option Template :=
  p.messageOverrides.get? linter

/-- The value of a command variable. -/
def var (p : Policy) (name : String) : Option String :=
  p.vars.get? name

end Policy

end LintRun
