import LintRun.Error
import LintRun.Text.Lines

/-!
# Diagnostics

A diagnostic is a warning about the run itself, as opposed to an issue that the run found.
-/

set_option autoImplicit false

namespace LintRun

/-- What a diagnostic is about. -/
inductive DiagnosticKind where
  /-- A linter could not be started. -/
  | launch
  /-- A linter exceeded its deadline. -/
  | timeout
  /-- The output of a linter could not be collected. -/
  | io
  /-- A linter whose output counts only on success ended without success. -/
  | exitStatus
  /-- A suppression directive suppressed nothing. -/
  | unmatchedNolint
deriving DecidableEq, Repr

/-- A warning about the run. -/
structure Diagnostic where
  kind : DiagnosticKind
  linter : Option String
  path : Option String
  /-- A line of source text, zero when the warning is not about one. -/
  line : UInt32
  message : String
deriving DecidableEq, Repr

namespace Diagnostic

/-- The kind of diagnostic that a failed job leads to. -/
def kindOf : JobFault → DiagnosticKind
  | .launch .. => .launch
  | .timeout .. => .timeout
  | .io .. => .io

/-- The diagnostic about a failed job. -/
def ofJobError (e : JobError) : Diagnostic :=
  { kind := kindOf e.fault, linter := some e.linter, path := some e.path, line := 0,
    message := e.message }

/-- The first line that is not blank. -/
def firstLine (stderr : String) : String :=
  ((Text.lines stderr).find? (!Text.isBlankText ·)).getD ""

/-- The diagnostic about a linter that ended without success, with a status code or by a
signal. -/
def exitStatus (linter path : String) (code : Option Int) (stderr : String) : Diagnostic :=
  let status :=
    match code with
    | some code => "status " ++ toString code
    | none => "a signal"
  let summary := "linter " ++ linter ++ " on " ++ path ++ " exited with " ++ status
  let detail := firstLine stderr
  { kind := .exitStatus, linter := some linter, path := some path, line := 0,
    message := if detail = "" then summary else summary ++ ": " ++ Text.trim detail }

/-- The diagnostic about a directive that suppressed nothing. -/
def unmatchedNolint (path : String) (line : UInt32) : Diagnostic :=
  { kind := .unmatchedNolint, linter := none, path := some path, line,
    message := "nolint directive did not match any issue" }

/-- A diagnostic as shown; only those about a line of source text start with their place. -/
def text (d : Diagnostic) : String :=
  match d.path with
  | some path =>
    if 0 < d.line then path ++ ":" ++ toString d.line ++ ": " ++ d.message else d.message
  | none => d.message

end Diagnostic

end LintRun
