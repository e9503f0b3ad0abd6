import LintRun.NameSet
import LintRun.Severity
import LintRun.Template.Basic

/-!
# Issues

An issue is one finding of a linter.  When several linters report the same finding, one issue
stands for all of them and carries their names.
-/

set_option autoImplicit false

namespace LintRun

/-- One finding. -/
structure Issue where
  /-- The linter that reported it. -/
  linter : String
  /-- The file, relative to the root of the run where possible. -/
  path : String
  /-- The line, counted from one; zero when unknown. -/
  line : UInt32 := 0
  /-- The column, counted from one; zero when unknown. -/
  col : UInt32 := 0
  severity : Severity := .warning
  message : String := ""
  /-- Every linter that reported it, when issues have been merged. -/
  contributors : NameSet := ∅
deriving DecidableEq

namespace Issue

/-- The names that an issue template may use. -/
def formatFields : List String :=
  ["path", "line", "col", "linter", "severity", "message"]

/-- The template by which issues are shown unless another is asked for. -/
def defaultFormat : String :=
  "\x7bpath\x7d:\x7bline\x7d:\x7bcol\x7d:\x7bseverity\x7d: \x7bmessage\x7d (\x7blinter\x7d)"

/-- The linters that reported an issue: its contributors, or else its own linter. -/
def linters (issue : Issue) : List String :=
  if issue.contributors.isEmpty then [issue.linter] else issue.contributors.names

/-- The linters that reported an issue, as one text. -/
def linterLabel (issue : Issue) : String :=
  ", ".intercalate issue.linters

/-- Whether two issues have a linter in common. -/
def sharesLinter (a b : Issue) : Bool :=
  a.linters.any b.linters.contains

/-- The value of a field of an issue.  An unknown column has no value. -/
def field? (issue : Issue) (name : String) : Option String :=
  match name with
  | "path" => some issue.path
  | "line" => some (toString issue.line)
  | "col" => if issue.col = 0 then none else some (toString issue.col)
  | "linter" => some issue.linterLabel
  | "severity" => some issue.severity.name
  | "message" => some issue.message
  | _ => none

/-- The issue as shown by a template. -/
def render (issue : Issue) (format : Template) : String :=
  format.render issue.field?

end Issue

end LintRun
