import LintRun.Text.Blank
import LintRun.Text.Lower

/-!
# Severities

An issue is an error or a warning.  Errors come first in order, so an ascending sort starts
with the most severe issues.
-/

set_option autoImplicit false

namespace LintRun

/-- How severe an issue is. -/
inductive Severity where
  | error
  | warning
deriving DecidableEq, Repr, Inhabited

namespace Severity

/-- The place of a severity in the order, the most severe first. -/
def rank : Severity → Nat
  | .error => 0
  | .warning => 1

/-- The name of a severity. -/
def name : Severity → String
  | .error => "error"
  | .warning => "warning"

/-- The more severe of two severities. -/
def worse : Severity → Severity → Severity
  | .error, _ => .error
  | .warning, s => s

theorem rank_injective {s t : Severity} (same : s.rank = t.rank) : s = t := by
  cases s <;> cases t <;> first | rfl | cases same

theorem rank_worse (s t : Severity) : (s.worse t).rank = min s.rank t.rank := by
  cases s <;> cases t <;> rfl

theorem worse_eq (s t : Severity) : s.worse t = s ∨ s.worse t = t := by
  cases s with
  | error => exact .inl rfl
  | warning => exact .inr rfl

/-- The severity that a text names: its full name, a short form or its first letter, in any
case of the letters of ASCII and with white space around it. -/
def ofText? (text : String) : Option Severity :=
  match Text.lowerAscii (Text.trim text) with
  | "error" | "err" | "e" => some .error
  | "warning" | "warn" | "w" => some .warning
  | _ => none

end Severity

end LintRun
