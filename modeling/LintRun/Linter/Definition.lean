import LintRun.Command.Words
import LintRun.Linter.Pattern
import LintRun.Linter.Spec
import LintRun.Severity
import LintRun.Template.Parser

/-!
# Linter definitions

A definition is a specification that has been checked: the command is split into words, each
of them a template, the output pattern is read, and the severity is known.
-/

set_option autoImplicit false

namespace LintRun

/-- A linter that is ready to run. -/
structure LinterDefinition where
  name : String
  /-- The command as written. -/
  command : String
  /-- The words of the command, as templates. -/
  args : List Template
  pattern : OutputPattern
  severity : Option Severity
  fast : Bool
  /-- Whether the linter runs unless something else is asked for. -/
  defaultEnabled : Bool
  /-- Whether the output counts when the linter ends without success. -/
  partialOutput : Bool
  /-- Whether the error output is read too. -/
  stderr : Bool

/-- The severity that a text names. -/
def Severity.ofText (text : String) : Except ConfigError Severity :=
  match ofText? text with
  | some severity => .ok severity
  | none => .error (.severity text)

namespace LinterDefinition

/-- The argument templates of a command. -/
def compileCommand (name command : String) : Except ConfigError (List Template) :=
  match Command.splitWords command with
  | none => .error (.command name .unclosedQuote)
  | some [] => .error (.command name .empty)
  | some words =>
    words.mapM fun word =>
      match Template.parse word with
      | .ok template => .ok template
      | .error fault => .error (.command name (.word word fault))

/-- Checks a specification: first the command, then the pattern, then the severity. -/
def ofSpec [Regex.SizeRule] (name : String) (spec : LinterSpec) :
    Except ConfigError LinterDefinition := do
  let args ← compileCommand name spec.command
  let pattern ← OutputPattern.compile name spec.pattern
  let severity ← spec.severity.mapM Severity.ofText
  return {
    name
    command := spec.command
    args
    pattern
    severity
    fast := spec.fast
    defaultEnabled := false
    partialOutput := spec.partialOutput.getD true
    stderr := spec.stderr.getD true }

/-- Whether a word of the command refers to a name. -/
def references (d : LinterDefinition) (name : String) : Bool :=
  d.args.any (·.references name)

end LinterDefinition

end LintRun
