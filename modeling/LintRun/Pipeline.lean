import LintRun.Aggregation
import LintRun.Nolint.Sources
import LintRun.Process

/-!
# The pipeline

A run turns the results of its jobs into a **report**.  The output of every job that did not
fail is read, issues that a directive suppresses are left out, issues of one finding are merged,
and the rest is filtered, sorted and, if only errors are wanted, thinned out.  The diagnostics
tell what went wrong on the way.
-/

set_option autoImplicit false

namespace LintRun

/-- What a run found, and what went wrong in it. -/
structure Report where
  /-- The issues in their final order. -/
  issues : List Issue := []
  diagnostics : List Diagnostic := []

namespace Pipeline

/-- The outputs that can be read, each with its job and the definition of its linter, in the
order of the results. -/
def readable (r : Registry) (results : List JobResult) :
    List (Job × LinterDefinition × RawOutput) :=
  results.filterMap fun result => do
    return (result.job, ← r.get? result.job.linter, ← result.output?)

/-- The issues in the outputs of the jobs. -/
def rawIssues (r : Registry) (p : Policy) (results : List JobResult) : List Issue :=
  (readable r results).flatMap fun (_, definition, output) => OutputReader.read definition p output

/-- The diagnostics about linters that ended without success although their output counts only
with it. -/
def exitDiagnostics (r : Registry) (results : List JobResult) : List Diagnostic :=
  (readable r results).filterMap fun (job, definition, output) =>
    if !definition.partialOutput && !output.success then
      some (Diagnostic.exitStatus definition.name job.path output.status output.stderr)
    else
      none

/-- The issues as they are reported: merged, filtered, sorted and thinned out. -/
def present (r : Registry) (p : Policy) (issues : List Issue) : List Issue :=
  let merged := Aggregation.apply r.mergeRules p.aggregate issues
  let sorted := sortIssues p.sortKeys (p.filter.apply p.format merged)
  if p.errorsOnly then sorted.filter (·.severity == .error) else sorted

/-- The report on what a schedule has delivered.  `read` gives the texts of source files, and
`sources` are the files whose directives count even if no issue is in them. -/
def report (r : Registry) (p : Policy) (read : SourceKey → Option String)
    (sources : List SourceKey) (s : Schedule) : Report :=
  let filter : NolintFilter :=
    if p.warnUnmatchedNolint then NolintFilter.preload read {} sources else {}
  let (kept, filter) := filter.apply read (rawIssues r p s.results)
  { issues := present r p kept
    diagnostics :=
      s.diagnostics ++ exitDiagnostics r s.results ++
        if p.warnUnmatchedNolint then filter.unmatched else [] }

/-- The targets of some jobs, each one once. -/
def targets (jobs : List Job) : List String :=
  (NameSet.ofList (jobs.map (·.path))).names

/-- Runs some jobs on a host and reports on them.  There is no report if a job goes on for ever. -/
def run (launch : Launch) (host : Host) (r : Registry) (p : Policy) (jobs : List Job) :
    Option Report :=
  let (host, schedule) :=
    Schedule.complete (Job.run launch (some p.root) p.deadline?) host p.concurrency jobs
  if schedule.isComplete then
    some (report r p (NolintFilter.sourceText host.readText p.root)
      (NolintFilter.sourceFiles host.filesAt p.root (targets jobs)) schedule)
  else
    none

end Pipeline

end LintRun
