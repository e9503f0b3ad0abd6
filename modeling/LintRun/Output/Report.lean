import LintRun.Json.Printer
import LintRun.Output.Checkstyle
import LintRun.Policy

/-!
# Writing issues

Issues are written in one of three forms: line by line as a template shows them, as a list of
objects, or as a document by file.
-/

set_option autoImplicit false

namespace LintRun

/-- An issue as an object. -/
def Issue.toJson (issue : Issue) : Json :=
  .object [
    ("linter", .text issue.linterLabel),
    ("severity", .text issue.severity.name),
    ("path", .text issue.path),
    ("line", .natural issue.line.toNat),
    ("col", .natural issue.col.toNat),
    ("message", .text issue.message)]

/-- The issues in the form that a policy asks for. -/
def Policy.write (p : Policy) (issues : List Issue) : String :=
  match p.output with
  | .text => String.join (issues.map fun issue => issue.render p.format ++ "\n")
  | .json => (Json.array (issues.map Issue.toJson)).pretty 0 ++ "\n"
  | .checkstyle => Checkstyle.render issues

end LintRun
