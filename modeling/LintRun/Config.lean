import LintRun.Duration.Parser
import LintRun.Policy
import LintRun.Selection
import LintRun.Text.Blank

/-!
# Configurations

A configuration holds everything that a user can settle once for a project: which linters to
run, how linters are defined, and how issues are reported.  Nothing in it is checked before it
is put to use.
-/

set_option autoImplicit false

namespace LintRun

/-- A linter as a configuration defines it. -/
inductive LinterEntry where
  /-- A command and a pattern with a colon between them. -/
  | shorthand (text : String)
  | spec (spec : LinterSpec)
deriving DecidableEq, Repr

/-- The specification that an entry stands for. -/
def LinterEntry.toSpec : LinterEntry → Except ConfigError LinterSpec
  | .shorthand text => LinterSpec.ofShorthand text
  | .spec s => .ok s

/-- A configuration as written. -/
structure Config where
  /-- Linters to run instead of those that run by default. -/
  enable : List String := []
  /-- Linters not to run. -/
  disable : List String := []
  enableAll : Bool := false
  disableAll : Bool := false
  fast : Bool := false
  /-- Linters of the user's own, and changes to built-in ones. -/
  linters : Dict LinterEntry := ∅
  /-- The severity of the issues of some linters. -/
  severity : Dict String := ∅
  /-- The message templates of some linters. -/
  messageOverrides : Dict String := ∅
  format : Option String := none
  concurrency : Option UInt64 := none
  deadline : Option String := none
  exclude : List String := []
  keep : List String := []
  sort : List String := []
  aggregate : Bool := false
  errors : Bool := false
  json : Bool := false
  checkstyle : Bool := false
  tests : Bool := false
  vars : Dict String := ∅
  warnUnmatchedNolint : Bool := false
deriving DecidableEq, Inhabited

namespace PolicyBuilder

/-- The settings with the time that a job may take, which is checked at once. -/
def setDeadline (b : PolicyBuilder) (text : String) : Except ConfigError PolicyBuilder :=
  match Duration.ofText? text with
  | some deadline => .ok { b with deadline }
  | none => .error (.duration (Text.trim text))

/-- The settings with a value that was given for one of them, if one was given. -/
def setIfGiven {α : Type} (given : Option α) (set : PolicyBuilder → α → PolicyBuilder)
    (b : PolicyBuilder) : PolicyBuilder :=
  match given with
  | some value => set b value
  | none => b

end PolicyBuilder

namespace Config

/-- The built-in linters with what the configuration defines. -/
def registry [Regex.SizeRule] (c : Config) : Except ConfigError Registry := do
  c.linters.entries.foldlM (fun r e => do r.define e.1 (← e.2.toSpec)) (← Registry.withDefaults)

/-- Which linters the configuration asks for. -/
def selection (c : Config) : LinterSelection where
  enable := c.enable
  disable := c.disable
  enableAll := c.enableAll
  disableAll := c.disableAll
  fast := c.fast

/-- How the configuration wants issues to be reported. -/
def output (c : Config) : OutputMode :=
  if c.json then .json else if c.checkstyle then .checkstyle else .text

/-- The settings with those of the configuration put over them. -/
def apply (c : Config) (b : PolicyBuilder) : Except ConfigError PolicyBuilder := do
  let b := b.setIfGiven c.format fun b format => { b with format }
  let b := b.setIfGiven c.concurrency fun b concurrency =>
    { b with concurrency := some concurrency.toNat }
  let b ← match c.deadline with
    | some text => b.setDeadline text
    | none => .ok b
  let b := if c.sort.isEmpty then b else { b with sort := c.sort }
  let b := { b with
    keeping := b.keeping ++ c.keep
    dropping := b.dropping ++ c.exclude
    severity := b.severity.overlay c.severity
    messageOverrides := b.messageOverrides.overlay c.messageOverrides }
  let b := if c.tests then b.tests true else b
  return { b with
    vars := b.vars.overlay c.vars
    aggregate := c.aggregate
    errorsOnly := c.errors
    warnUnmatchedNolint := c.warnUnmatchedNolint
    output := c.output }

end Config

end LintRun
