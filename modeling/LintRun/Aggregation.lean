import LintRun.Issue
import LintRun.Issue.Message
import LintRun.Registry

/-!
# Merging issues

Issues of several linters that describe one finding are merged into one.  Linters of a merge
rule describe one finding when they agree on what the rule asks for; other linters, when they
agree on the place and the message.  A linter never reports one finding twice, so issues that
share a linter stay apart.
-/

set_option autoImplicit false

namespace LintRun

/-- What issues of one group have in common. -/
inductive GroupKey where
  /-- The merge rule by its number, with what it asks for. -/
  | rule (number : Nat) (path : String) (line : UInt32) (message : Option String)
  /-- The place and the message, for linters without a merge rule. -/
  | exact (path : String) (line col : UInt32) (message : String)
deriving DecidableEq, Repr

/-- Issues that describe one finding, the first one met first. -/
structure IssueGroup where
  key : GroupKey
  first : Issue
  rest : List Issue := []
deriving DecidableEq

namespace IssueGroup

/-- The issues of a group, the first one met first. -/
def members (g : IssueGroup) : List Issue :=
  g.first :: g.rest

/-- Whether an issue has a linter in common with one in the group. -/
def sharesLinter (g : IssueGroup) (issue : Issue) : Bool :=
  g.members.any (·.sharesLinter issue)

/-- Whether an issue belongs into a group. -/
def admits (g : IssueGroup) (key : GroupKey) (issue : Issue) : Bool :=
  g.key == key && !g.sharesLinter issue

/-- The group with one more issue. -/
def add (g : IssueGroup) (issue : Issue) : IssueGroup :=
  { g with rest := g.rest ++ [issue] }

/-- Whether an issue speaks for a group rather than another one: by severity, then because its
column is known, then by the name of its linter. -/
def before (a b : Issue) : Ordering :=
  (compare a.severity.rank b.severity.rank).then
    ((compare (if a.col = 0 then 1 else 0) (if b.col = 0 then 1 else 0)).then
      (compare a.linter b.linter))

/-- The issue that speaks for a group, of several equal ones the first. -/
def representative (g : IssueGroup) : Issue :=
  g.rest.foldl (fun best issue => if before issue best = .lt then issue else best) g.first

/-- Every linter that reported an issue of the group. -/
def contributors (g : IssueGroup) : NameSet :=
  .ofList (g.members.flatMap (·.linters))

/-- The greatest severity in a group. -/
def severity (g : IssueGroup) : Severity :=
  g.rest.foldl (fun worst issue => worst.worse issue.severity) g.first.severity

/-- The one issue that a group is reported as.  An issue on its own stays as it is. -/
def collapse (g : IssueGroup) : Issue :=
  if g.rest = [] then g.first
  else { g.representative with severity := g.severity, contributors := g.contributors }

end IssueGroup

namespace Aggregation

/-- What an issue has in common with others of its group. -/
def keyOf (rules : List MergeRule) (issue : Issue) : GroupKey :=
  match rules.findIdx? (·.linters.contains issue.linter) with
  | some number =>
    .rule number issue.path issue.line
      (match (rules[number]?.map (·.key)).getD .pathLine with
        | .pathLine => none
        | .pathLineMessage => some (normalizeMessage issue.message))
  | none => .exact issue.path issue.line issue.col (normalizeMessage issue.message)

/-- Puts an issue into the first group that admits it, or else into a group of its own. -/
def place (key : GroupKey) (issue : Issue) : List IssueGroup → List IssueGroup
  | [] => [{ key, first := issue }]
  | g :: rest => if g.admits key issue then g.add issue :: rest else g :: place key issue rest

/-- The groups of some issues, in the order in which each was first met. -/
def groups (rules : List MergeRule) (issues : List Issue) : List IssueGroup :=
  issues.foldl (fun gs issue => place (keyOf rules issue) issue gs) []

/-- The issues with those of one group merged into one. -/
def merge (rules : List MergeRule) (issues : List Issue) : List Issue :=
  (groups rules issues).map IssueGroup.collapse

/-- Merges issues if that is asked for. -/
def apply (rules : List MergeRule) (enabled : Bool) (issues : List Issue) : List Issue :=
  if enabled then merge rules issues else issues

end Aggregation

end LintRun
