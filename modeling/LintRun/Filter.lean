import LintRun.Error
import LintRun.Issue
import LintRun.Regex

/-!
# Filters

A filter decides by the shown form of an issue whether the issue is reported.  Patterns for
the same purpose are joined into one as alternatives; dropping wins over keeping.
-/

set_option autoImplicit false

namespace LintRun

/-- What to keep and what to drop. -/
structure IssueFilter where
  keeping : Option Regex := none
  dropping : Option Regex := none

namespace IssueFilter

/-- Joins patterns as alternatives of one pattern; no patterns make none. -/
def joinPatterns [Regex.SizeRule] (kind : FilterKind) (patterns : List String) :
    Except ConfigError (Option Regex) :=
  if patterns.isEmpty then .ok none
  else
    match Regex.compile ("|".intercalate patterns) with
    | .ok regex => .ok (some regex)
    | .error fault => .error (.filter kind fault)

/-- The filter of two lists of patterns. -/
def ofPatterns [Regex.SizeRule] (keeping dropping : List String) :
    Except ConfigError IssueFilter := do
  return { keeping := ← joinPatterns .keeping keeping
           dropping := ← joinPatterns .dropping dropping }

/-- Whether a filter lets everything pass. -/
def isEmpty (f : IssueFilter) : Bool :=
  f.keeping.isNone && f.dropping.isNone

/-- Whether a filter lets a text pass. -/
def accepts (f : IssueFilter) (text : String) : Bool :=
  !f.dropping.any (·.isMatch text) && f.keeping.all (·.isMatch text)

/-- The issues whose shown form passes. -/
def apply (f : IssueFilter) (format : Template) (issues : List Issue) : List Issue :=
  if f.isEmpty then issues else issues.filter fun issue => f.accepts (issue.render format)

end IssueFilter

end LintRun
