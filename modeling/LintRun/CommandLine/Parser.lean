import LintRun.CommandLine.Flags

/-!
# Reading command lines

A command line is read from left to right.  The value of a flag is checked when the next
argument shows that the flag has all it needs, so a flag that is not known is reported before a
bad value of the flag right before it.  A word names a command only where a target has not just
been read and no value is due.
-/

set_option autoImplicit false

namespace LintRun

/-- What a command line asks for. -/
inductive Request where
  /-- Run linters and report what they find. -/
  | lint
  /-- List the known linters. -/
  | listLinters
deriving DecidableEq, Repr

namespace CommandLine

/-- What the next argument may be. -/
inductive Expectation where
  | anything
  | value
  | target
deriving DecidableEq, Repr

/-- How far a command line has been read. -/
structure Progress where
  flags : Flags := {}
  /-- The flags given so far that may be given only once. -/
  given : List Flag := []
  /-- A flag whose value is not checked yet, and its value if it has been read. -/
  pending : Option (FlagSpelling × Option String) := none
  expected : Expectation := .anything

namespace Progress

/-- The progress after a flag is taken in with its value. -/
def accept (p : Progress) (o : FlagSpelling) (value : String) : Except UsageFault Progress := do
  if o.kind ≠ .repeated ∧ p.given.contains o.flag = true then
    throw .repeatedFlag
  return { p with
    flags := ← p.flags.set? o.flag value
    given := if o.kind = .repeated then p.given else o.flag :: p.given }

/-- The progress after the flag that is pending is taken in. -/
def settle (p : Progress) : Except UsageFault Progress :=
  match p.pending with
  | none => .ok p
  | some (_, none) => .error .missingValue
  | some (o, some value) => { p with pending := none }.accept o value

/-- The progress after a flag with a value right behind it. -/
def acceptAttached (p : Progress) (o : FlagSpelling) (value : String) :
    Except UsageFault Progress := do
  (← p.settle).accept o value

/-- The progress after a flag whose value is the next argument. -/
def await (p : Progress) (o : FlagSpelling) : Except UsageFault Progress := do
  return { ← p.settle with pending := some (o, none), expected := .value }

/-- The progress after a target. -/
def addTarget (p : Progress) (path : String) : Except UsageFault Progress := do
  let p ← p.settle
  return { p with flags := { p.flags with paths := p.flags.paths ++ [path] }, expected := .target }

/-- The progress after an argument with a long flag, without the two dashes. -/
def readLong (p : Progress) (text : List Char) : Except UsageFault Progress := do
  let name := String.ofList (text.takeWhile (· != '='))
  let value := text.dropWhile (· != '=')
  match findLong? name with
  | none => throw .unknownArgument
  | some o =>
    match o.kind, value with
    | .switch, [] => return { ← p.acceptAttached o "" with expected := .anything }
    | .switch, _ :: _ => throw .unneededValue
    | _, [] => p.await o
    | _, _ :: value => return { ← p.acceptAttached o (.ofList value) with expected := .anything }

/-- The progress after an argument with short flags, without the dash. -/
def readShort (p : Progress) : List Char → Except UsageFault Progress
  | [] => .ok { p with expected := .anything }
  | c :: rest =>
    match findShort? c with
    | none => .error .unknownArgument
    | some o => do
      match o.kind, rest with
      | .switch, rest => (← p.acceptAttached o "").readShort rest
      | _, [] => p.await o
      | _, c :: rest =>
        let value := if c = '=' then rest else c :: rest
        return { ← p.acceptAttached o (.ofList value) with expected := .anything }

end Progress

/-- Reads the arguments after the name of the command that lists linters.  It has no flags of
its own but those for help, and no targets. -/
def readListArguments : List String → Except UsageFault Unit
  | [] => .ok ()
  | ["--"] => .ok ()
  | arg :: _ =>
    match arg.toList with
    | '-' :: 'h' :: _ => .error .help
    | _ =>
      if arg = "--help" then .error .help
      else if arg.startsWith "--help=" then .error .unneededValue
      else .error .unknownArgument

/-- What asking for help about a command leads to. -/
def readHelpArguments : List String → UsageFault
  | [] | ["linters"] | ["help"] => .help
  | _ => .unknownCommand

/-- Reads targets alone. -/
def readTargets (p : Progress) : List String → Except UsageFault (Request × Flags)
  | [] => do return (.lint, (← p.settle).flags)
  | arg :: rest => do readTargets (← p.addTarget arg) rest

/-- Reads the rest of a command line. -/
def readFrom (p : Progress) : List String → Except UsageFault (Request × Flags)
  | [] => do return (.lint, (← p.settle).flags)
  | arg :: rest =>
    if p.expected = .anything ∧ arg = "linters" then do
      readListArguments rest
      return (.listLinters, (← p.settle).flags)
    else if p.expected = .anything ∧ arg = "help" then .error (readHelpArguments rest)
    else
      match arg.toList with
      | ['-', '-'] => readTargets p rest
      | '-' :: '-' :: long => do readFrom (← p.readLong long) rest
      | '-' :: c :: short => do readFrom (← p.readShort (c :: short)) rest
      | _ =>
        match p.expected, p.pending with
        | .value, some (o, _) =>
          readFrom { p with pending := some (o, some arg), expected := .anything } rest
        | _, _ => do readFrom (← p.addTarget arg) rest

/-- Reads a command line, without the name of the program. -/
def parse (args : List String) : Except UsageFault (Request × Flags) :=
  readFrom {} args

end CommandLine

end LintRun
