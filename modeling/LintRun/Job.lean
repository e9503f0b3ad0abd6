import LintRun.Registry

/-!
# Jobs

A job is one run of a linter on one target.  The words of the linter's command are rendered
with the variables of the run, and words that come out empty are left out.  The target takes
the place of its placeholder, or it is the last argument when the command has none.
-/

set_option autoImplicit false

namespace LintRun

/-- One run of a linter on one target. -/
structure Job where
  /-- The number of the job in its run. -/
  id : Nat
  linter : String
  /-- The target. -/
  path : String
  program : String
  args : List String
deriving DecidableEq, Repr

namespace Job

/-- The command line of a job, as a user would type it. -/
def commandLine (job : Job) : String :=
  Command.joinWords (job.program :: job.args)

/-- The values of the names in a command. -/
def lookup (vars : Dict String) (path name : String) : Option String :=
  if name = "path" then some path else vars.get? name

/-- The words of a linter's command that do not come out empty. -/
def words (d : LinterDefinition) (vars : Dict String) (path : String) : List String :=
  (d.args.map (·.render (lookup vars path))).filter (· ≠ "")

/-- The program and its arguments, unless all words come out empty. -/
def argv? (d : LinterDefinition) (vars : Dict String) (path : String) :
    Option (String × List String) :=
  match words d vars path with
  | [] => none
  | program :: args =>
    some (program, if d.references "path" then args else args ++ [path])

/-- The job of a linter on a target, still without a number. -/
def prepare? (d : LinterDefinition) (vars : Dict String) (path : String) : Option Job :=
  (argv? d vars path).map fun (program, args) =>
    { id := 0, linter := d.name, path, program, args }

/-- The jobs of some linters on some targets: for each linter that is defined, in order, one on
each target, in order, numbered from zero. -/
def plan (r : Registry) (vars : Dict String) (linters paths : List String) : List Job :=
  let jobs := linters.flatMap fun linter =>
    match r.get? linter with
    | none => []
    | some d => paths.filterMap (prepare? d vars)
  jobs.mapIdx fun id job => { job with id }

/-- A warning for each linter that is not defined and for each command that comes out empty. -/
def planWarnings (r : Registry) (vars : Dict String) (linters paths : List String) :
    List String :=
  linters.flatMap fun linter =>
    match r.get? linter with
    | none => ["linter " ++ linter ++ " is not defined, skipping"]
    | some d => paths.filterMap fun path =>
      if (argv? d vars path).isNone then
        some ("command for " ++ d.name ++ " renders empty, skipping")
      else
        none

end Job

end LintRun
