import LintRun.CommandLine.Parser
import LintRun.CommandLine.Settings
import LintRun.Config.Discovery
import LintRun.Output.Report
import LintRun.Pipeline

/-!
# Carrying out command lines

A command line is carried out on a host.  What comes out is a status, what is printed and the
warnings about the run; or an error that stops it before anything runs.  Nothing comes out if a
linter goes on for ever and has no limit of time.
-/

set_option autoImplicit false

namespace LintRun.CommandLine

/-- What is printed for a user who asks for the version. -/
def versionText : String := "lintmux 0.1.0\n"

/-- What a command line that has been carried out leaves behind. -/
structure Outcome where
  status : Nat
  stdout : String := ""
  warnings : List String := []
deriving DecidableEq, Repr

/-- The configuration of a run: the file that a flag names, or the one found in the current
directory, or the defaults. -/
def loadConfig (host : Host) (f : Flags) : Except ConfigError Config :=
  match f.config with
  | some path => Config.load host.readText path
  | none => do
    match ← Config.discover host.isFile host.readText host.here.path with
    | some (_, config) => return config
    | none => return {}

/-- The exit status of a run: one bit for issues and one for diagnostics. -/
def statusOf (report : Report) : Nat :=
  (if report.issues.isEmpty then 0 else 1) + (if report.diagnostics.isEmpty then 0 else 2)

/-- What a host tells about its machine. -/
def machineOf (host : Host) : Machine where
  processors := host.processors
  currentDirectory := some host.here.path

/-- Runs linters and reports what they find. -/
def lint [Regex.SizeRule] (launch : Launch) (host : Host) (f : Flags) :
    Except ConfigError (Option Outcome) := do
  let config ← loadConfig host f
  let registry ← buildRegistry config f
  let policy ← buildPolicy (machineOf host) config f host.here.path
  let selected ← (buildSelection config f).resolve registry
  let paths := if f.paths.isEmpty then ["."] else f.paths
  let jobs := Job.plan registry policy.vars selected.linters.names paths
  return (Pipeline.run launch host registry policy jobs).map fun report => {
    status := statusOf report
    stdout := policy.write report.issues
    warnings := report.diagnostics.map fun d => "WARNING: " ++ d.text }

/-- The line about one linter, its name filled up to a width. -/
def catalogLine (r : Registry) (width : Nat) (d : LinterDefinition) : String :=
  let marks :=
    [if d.defaultEnabled then "enabled" else "disabled"] ++
      (if d.fast then ["fast"] else []) ++ (if r.isCustom d.name then ["custom"] else [])
  d.name ++ .ofList (List.replicate (width - d.name.length) ' ') ++ "  (" ++
    ", ".intercalate marks ++ ")  " ++ d.command ++ "  " ++ d.pattern.source ++ "\n"

/-- The lines about all linters.  The width is that of the longest name in octets. -/
def catalog (r : Registry) : String :=
  let width := (r.names.map String.utf8ByteSize).foldl max 0
  String.join (r.definitions.map (catalogLine r width))

/-- Lists the known linters. -/
def listLinters [Regex.SizeRule] (host : Host) (f : Flags) : Except ConfigError Outcome := do
  let registry ← buildRegistry (← loadConfig host f) f
  return { status := 0, stdout := catalog registry }

/-- Carries out a request. -/
def carryOut [Regex.SizeRule] (launch : Launch) (host : Host) :
    Request × Flags → Except ConfigError (Option Outcome)
  | (.lint, f) => lint launch host f
  | (.listLinters, f) => some <$> listLinters host f

end LintRun.CommandLine
