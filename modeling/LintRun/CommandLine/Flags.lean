import LintRun.Text.Decimal

/-!
# Flags

The flags of the command line say the same things as a configuration, for one run.  The table
`CommandLine.options` lists how they are spelled, and `Flags.set?` says what each one does.
-/

set_option autoImplicit false

namespace LintRun

/-- What the flags of a command line say. -/
structure Flags where
  /-- The targets. -/
  paths : List String := []
  /-- The path of the configuration file. -/
  config : Option String := none
  debug : Bool := false
  enable : List String := []
  disable : List String := []
  enableAll : Bool := false
  disableAll : Bool := false
  fast : Bool := false
  /-- Definitions of linters. -/
  linters : List String := []
  /-- Message templates with the names of their linters. -/
  messageOverrides : List String := []
  /-- Severities with the names of their linters. -/
  severity : List String := []
  /-- Values of variables with their names. -/
  vars : List String := []
  format : Option String := none
  concurrency : Option UInt64 := none
  exclude : List String := []
  keep : List String := []
  sort : List String := []
  tests : Bool := false
  deadline : Option String := none
  errors : Bool := false
  json : Bool := false
  checkstyle : Bool := false
  aggregate : Bool := false
  warnUnmatchedNolint : Bool := false
deriving DecidableEq, Inhabited

/-- A flag by its meaning. -/
inductive Flag where
  | config
  | debug
  | enable
  | disable
  | enableAll
  | disableAll
  | fast
  | linter
  | messageOverrides
  | severity
  | var
  | format
  | concurrency
  | exclude
  | keep
  | sort
  | tests
  | deadline
  | errors
  | json
  | checkstyle
  | aggregate
  | warnUnmatchedNolint
  | help
  | version
deriving DecidableEq, Repr

/-- How often a flag may be given, and whether a value follows it. -/
inductive FlagKind where
  /-- Once and without a value. -/
  | switch
  /-- Once and with a value. -/
  | single
  /-- Any number of times, each time with a value. -/
  | repeated
deriving DecidableEq, Repr

/-- How a flag is spelled. -/
structure FlagSpelling where
  flag : Flag
  kind : FlagKind
  long : String
  short : Option Char := none
deriving Repr

namespace CommandLine

/-- The flags as they are spelled. -/
def options : List FlagSpelling :=
  [⟨.config, .single, "config", some 'c'⟩,
   ⟨.debug, .switch, "debug", some 'd'⟩,
   ⟨.enable, .repeated, "enable", some 'E'⟩,
   ⟨.disable, .repeated, "disable", some 'D'⟩,
   ⟨.enableAll, .switch, "enable-all", none⟩,
   ⟨.disableAll, .switch, "disable-all", none⟩,
   ⟨.fast, .switch, "fast", none⟩,
   ⟨.linter, .repeated, "linter", none⟩,
   ⟨.messageOverrides, .repeated, "message-overrides", none⟩,
   ⟨.severity, .repeated, "severity", none⟩,
   ⟨.var, .repeated, "var", none⟩,
   ⟨.format, .single, "format", none⟩,
   ⟨.concurrency, .single, "concurrency", some 'j'⟩,
   ⟨.exclude, .repeated, "exclude", some 'e'⟩,
   ⟨.keep, .repeated, "include", some 'I'⟩,
   ⟨.sort, .repeated, "sort", none⟩,
   ⟨.tests, .switch, "tests", some 't'⟩,
   ⟨.deadline, .single, "deadline", none⟩,
   ⟨.errors, .switch, "errors", none⟩,
   ⟨.json, .switch, "json", none⟩,
   ⟨.checkstyle, .switch, "checkstyle", none⟩,
   ⟨.aggregate, .switch, "aggregate", none⟩,
   ⟨.warnUnmatchedNolint, .switch, "warn-unmatched-nolint", none⟩,
   ⟨.help, .switch, "help", some 'h'⟩,
   ⟨.version, .switch, "version", some 'V'⟩]

/-- The flag of a long spelling. -/
def findLong? (name : String) : Option FlagSpelling :=
  options.find? (·.long == name)

/-- The flag of a short spelling. -/
def findShort? (c : Char) : Option FlagSpelling :=
  options.find? (·.short == some c)

end CommandLine

/-- Why a command line is not carried out. -/
inductive UsageFault where
  | unknownArgument
  | unknownCommand
  | missingValue
  | invalidValue
  /-- A flag that may be given once is given again. -/
  | repeatedFlag
  /-- A value for a flag that takes none. -/
  | unneededValue
  /-- The user asks for help. -/
  | help
  /-- The user asks for the version. -/
  | version
deriving DecidableEq, Repr

/-- The exit status of a command line that is not carried out. -/
def UsageFault.status : UsageFault → Nat
  | .help | .version => 0
  | _ => 2

namespace Flags

/-- The parts of a value between commas. -/
def commaParts : List Char → List (List Char)
  | [] => [[]]
  | c :: rest =>
    if c = ',' then [] :: commaParts rest
    else
      match commaParts rest with
      | [] => [[c]]
      | part :: more => (c :: part) :: more

/-- What the flags say when one more is given with a value, which is empty for a switch. -/
def set? (f : Flags) (flag : Flag) (value : String) : Except UsageFault Flags :=
  match flag with
  | .config =>
    if value = "" then .error .missingValue else .ok { f with config := some value }
  | .debug => .ok { f with debug := true }
  | .enable => .ok { f with enable := f.enable ++ [value] }
  | .disable => .ok { f with disable := f.disable ++ [value] }
  | .enableAll => .ok { f with enableAll := true }
  | .disableAll => .ok { f with disableAll := true }
  | .fast => .ok { f with fast := true }
  | .linter => .ok { f with linters := f.linters ++ [value] }
  | .messageOverrides => .ok { f with messageOverrides := f.messageOverrides ++ [value] }
  | .severity => .ok { f with severity := f.severity ++ [value] }
  | .var => .ok { f with vars := f.vars ++ [value] }
  | .format => .ok { f with format := some value }
  | .concurrency =>
    match Text.readWord64? value.toList with
    | some n => .ok { f with concurrency := some (.ofNat n) }
    | none => .error .invalidValue
  | .exclude => .ok { f with exclude := f.exclude ++ [value] }
  | .keep => .ok { f with keep := f.keep ++ [value] }
  | .sort => .ok { f with sort := f.sort ++ (commaParts value.toList).map .ofList }
  | .tests => .ok { f with tests := true }
  | .deadline => .ok { f with deadline := some value }
  | .errors => .ok { f with errors := true }
  | .json => .ok { f with json := true }
  | .checkstyle => .ok { f with checkstyle := true }
  | .aggregate => .ok { f with aggregate := true }
  | .warnUnmatchedNolint => .ok { f with warnUnmatchedNolint := true }
  | .help => .error .help
  | .version => .error .version

end Flags

end LintRun
