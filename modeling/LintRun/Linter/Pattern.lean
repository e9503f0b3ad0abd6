import LintRun.Error
import LintRun.Regex

/-!
# Output patterns

An output pattern finds the parts of an issue in a line of output.  The group `path` must be
there; the groups `line`, `col`, `message` and `severity` may be, and any other named group
gives a value that message templates can use.
-/

set_option autoImplicit false

namespace LintRun

/-- The short names of common output patterns. -/
def patternShorthands : List (String × String) :=
  [("PATH:LINE:COL:MESSAGE",
     "^(?P<path>.*?\\.go):(?P<line>\\d+):(?P<col>\\d+):\\s*(?P<message>.*)$"),
   ("PATH:LINE:MESSAGE",
     "^(?P<path>.*?\\.go):(?P<line>\\d+):\\s*(?P<message>.*)$")]

/-- The pattern that a short name stands for; any other text stands for itself. -/
def expandPattern (text : String) : String :=
  (patternShorthands.lookup text).getD text

/-- A pattern that can find the path of an issue. -/
structure OutputPattern where
  regex : Regex
  has_path : regex.hasGroup "path" = true

namespace OutputPattern

/-- Reads an output pattern or its short name, for a linter. -/
def compile [Regex.SizeRule] (linter text : String) : Except ConfigError OutputPattern :=
  match Regex.compile (expandPattern text) with
  | .error fault => .error (.pattern linter fault)
  | .ok regex =>
    if h : regex.hasGroup "path" = true then .ok ⟨regex, h⟩
    else .error (.missingPathGroup linter)

/-- The text of a pattern, with short names replaced. -/
def source (p : OutputPattern) : String :=
  p.regex.source

/-- Whether a pattern has a group of a name. -/
def has (p : OutputPattern) (group : String) : Bool :=
  p.regex.hasGroup group

/-- The texts of the named groups that took part in matching a line, if the line matches. -/
def captures? (p : OutputPattern) (line : String) : Option (String → Option String) :=
  let cs := line.toList
  (p.regex.find? cs).map fun m name =>
    (p.regex.groupSpan? m name).map fun span => .ofList (span.slice cs)

end OutputPattern

end LintRun
