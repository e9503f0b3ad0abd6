import LintRun.Linter.Definition
import LintRun.Path
import LintRun.Policy
import LintRun.Text.Decimal
import LintRun.Text.Lines

/-!
# Reading the output of linters

Every line of a linter's output that its pattern matches is an issue, and every other line is
dropped.
-/

set_option autoImplicit false

namespace LintRun

/-- What a linter that has ended leaves behind.  How long it took tells nothing about its output and
is not kept. -/
structure RawOutput where
  stdout : String := ""
  stderr : String := ""
  /-- The status code, unless a signal ended the linter. -/
  status : Option Int := none
deriving DecidableEq, Repr, Inhabited

/-- Whether a linter ended with success. -/
def RawOutput.success (o : RawOutput) : Bool :=
  o.status == some 0

namespace OutputReader

variable (d : LinterDefinition) (p : Policy)

/-- The number that a group captured, zero when it is none. -/
def number (captured : Option String) : UInt32 :=
  (captured.bind fun s => Text.readWord32? (Text.trimChars s.toList)).getD 0

/-- The severity of an issue: what was captured, else what was set for the linter, else what
the linter's definition says, else a warning. -/
def severity (captures : String → Option String) : Severity :=
  ((captures "severity").bind Severity.ofText? <|> p.severityFor d.name <|> d.severity).getD
    .warning

/-- The message of an issue: what was captured, or the template set for the linter, in which
names stand for captured texts and, failing that, for command variables. -/
def message (captures : String → Option String) : String :=
  let captured := Text.trimEnd ((captures "message").getD "")
  match p.messageOverride d.name with
  | none => captured
  | some template =>
    template.render fun name =>
      if name = "message" then some captured else captures name <|> p.var name

/-- A path as reported: relative to the root of the run where it is below the root. -/
def reportedPath (path : String) : String :=
  Path.relativize p.root path

/-- The issue of a line, if the pattern matches and finds a path. -/
def readLine (line : String) : Option Issue := do
  let captures ← d.pattern.captures? line
  let path := (captures "path").getD ""
  if path = "" then
    none
  else
    some {
      linter := d.name
      path := reportedPath p path
      line := number (captures "line")
      col := number (captures "col")
      severity := severity d p captures
      message := message d p captures }

/-- The issues of a text, line by line. -/
def readText (text : String) : List Issue :=
  (Text.linesOf text.toList).filterMap fun line =>
    readLine d p (.ofList (Text.dropReturns line))

/-- The issues of the output of a linter: those of its standard output, then those of its error
output if the definition asks for it. -/
def read (output : RawOutput) : List Issue :=
  readText d p output.stdout ++ if d.stderr then readText d p output.stderr else []

end OutputReader

end LintRun
