import LintRun.CommandLine.Flags
import LintRun.Config

/-!
# Settings of a run

The flags of a run are laid over the configuration of the project, which is laid over the
defaults.  What a flag gives as a value wins over the configuration; lists of linters and
filters are joined, and a switch is on if either turns it on.
-/

set_option autoImplicit false

namespace LintRun

namespace Flags

/-- The two parts of the value of a flag, of which the first one must not be empty. -/
def splitPair (flag value : String) (separator : Char) :
    Except ConfigError (String × String) :=
  match LinterSpec.splitOnce separator value.toList with
  | some (c :: name, rest) => .ok (.ofList (c :: name), .ofList rest)
  | _ => .error (.pair flag value separator)

/-- Changes settings by each value of a flag in turn. -/
def applyPairs (flag : String) (separator : Char)
    (set : PolicyBuilder → String → String → PolicyBuilder) (values : List String)
    (b : PolicyBuilder) : Except ConfigError PolicyBuilder :=
  values.foldlM (fun b value => do
    let (name, text) ← splitPair flag value separator
    return set b name text) b

/-- The settings with those of the flags put over them, apart from switches. -/
def apply (f : Flags) (b : PolicyBuilder) : Except ConfigError PolicyBuilder := do
  let b := b.setIfGiven f.format fun b format => { b with format }
  let b := b.setIfGiven f.concurrency fun b concurrency =>
    { b with concurrency := some concurrency.toNat }
  let b ← match f.deadline with
    | some text => b.setDeadline text
    | none => .ok b
  let b := if f.sort.isEmpty then b else { b with sort := f.sort }
  let b := { b with
    keeping := b.keeping ++ f.keep
    dropping := b.dropping ++ f.exclude }
  let b ← applyPairs "severity" ':' PolicyBuilder.setSeverity f.severity b
  let b ← applyPairs "message-overrides" ':' PolicyBuilder.setMessage f.messageOverrides b
  let b := if f.tests then b.tests true else b
  applyPairs "var" '=' PolicyBuilder.var f.vars b

end Flags

/-- How issues are reported when both the configuration and the flags have a say. -/
def outputOf (c : Config) (f : Flags) : OutputMode :=
  if f.json || c.json then .json
  else if f.checkstyle || c.checkstyle then .checkstyle
  else .text

/-- The policy of a run on a machine in a directory: the defaults, the configuration and the
flags. -/
def buildPolicy [Regex.SizeRule] (machine : Machine) (c : Config) (f : Flags) (root : String) :
    Except ConfigError Policy := do
  let b ← f.apply (← c.apply { root := some root })
  { b with
    aggregate := c.aggregate || f.aggregate
    errorsOnly := c.errors || f.errors
    warnUnmatchedNolint := c.warnUnmatchedNolint || f.warnUnmatchedNolint
    output := outputOf c f }.build machine

/-- The linters of a run: what the configuration and the flags ask for together. -/
def buildSelection (c : Config) (f : Flags) : LinterSelection where
  enable := c.enable ++ f.enable
  disable := c.disable ++ f.disable
  enableAll := c.enableAll || f.enableAll
  disableAll := c.disableAll || f.disableAll
  fast := c.fast || f.fast

/-- The registry of a run: the built-in linters, those of the configuration and those that the
flags define. -/
def buildRegistry [Regex.SizeRule] (c : Config) (f : Flags) : Except ConfigError Registry := do
  f.linters.foldlM (fun r text => do
    let (name, spec) ← LinterSpec.ofDefinition text
    r.define name spec) (← c.registry)

end LintRun
