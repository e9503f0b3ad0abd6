import LintRun.Error

/-!
# Linter specifications

A linter as its user writes it down: a command, an output pattern and a few settings, none of
them checked yet.  A specification can be laid over another one, field by field, and it can be
written in short form as a command and a pattern with a colon between them.
-/

set_option autoImplicit false

namespace LintRun

/-- A linter as written in a configuration. -/
structure LinterSpec where
  /-- The command template; empty to keep what is there. -/
  command : String := ""
  /-- The output pattern or its shorthand; empty to keep what is there. -/
  pattern : String := ""
  /-- The severity of issues for which the output states none. -/
  severity : Option String := none
  /-- Whether the linter is cheap enough for a fast run. -/
  fast : Bool := false
  /-- Whether the output counts when the linter ends without success. -/
  partialOutput : Option Bool := none
  /-- Whether the error output is read too. -/
  stderr : Option Bool := none
deriving DecidableEq, Repr, Inhabited

namespace LinterSpec

/-- The parts of a text before and after the first of the given characters. -/
def splitOnce (separator : Char) (cs : List Char) : Option (List Char × List Char) :=
  match cs.dropWhile (· != separator) with
  | [] => none
  | _ :: rest => some (cs.takeWhile (· != separator), rest)

/-- Reads the short form of a specification: a command, a colon and a pattern. -/
def ofShorthand (text : String) : Except ConfigError LinterSpec :=
  match splitOnce ':' text.toList with
  | some (command, pattern) => .ok { command := .ofList command, pattern := .ofList pattern }
  | none => .error (.shorthand text)

/-- Reads the definition of a linter: a name that is not empty, a colon and the short form of
a specification. -/
def ofDefinition (text : String) : Except ConfigError (String × LinterSpec) :=
  match splitOnce ':' text.toList with
  | none => .error (.definition text)
  | some (name, rest) =>
    if name = [] then
      .error (.definition text)
    else
      match ofShorthand (.ofList rest) with
      | .ok spec => .ok (.ofList name, spec)
      | .error _ => .error (.definition text)

/-- The first text unless the second one is not empty. -/
def overlayText (base upper : String) : String :=
  if upper = "" then base else upper

/-- One specification laid over another: what the upper one states wins, and a linter is fast
if either says so. -/
def overlay (base upper : LinterSpec) : LinterSpec where
  command := overlayText base.command upper.command
  pattern := overlayText base.pattern upper.pattern
  severity := upper.severity <|> base.severity
  fast := base.fast || upper.fast
  partialOutput := upper.partialOutput <|> base.partialOutput
  stderr := upper.stderr <|> base.stderr

end LinterSpec

end LintRun
