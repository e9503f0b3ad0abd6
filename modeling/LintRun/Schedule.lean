import LintRun.Diagnostic
import LintRun.Job
import LintRun.Output.Reader

/-!
# Schedules

Jobs wait in one queue, from which a fixed number of workers take them.  A worker runs its job,
reports a failure as a diagnostic, delivers the result and takes the next job, and it stops when
it finds the queue empty.  The workers move in any order: `Schedule.Step` says which moves there
are, and `Schedule.complete` is the one run in which a worker moves only when those before it
cannot.
-/

set_option autoImplicit false

namespace LintRun

/-- What a job that has ended leaves behind: output or a failure. -/
abbrev JobOutcome := Except JobError RawOutput

/-- What becomes of a job that is run. -/
inductive JobEnd where
  | outcome (outcome : JobOutcome)
  /-- It could not even be begun, and the worker is lost with it. -/
  | lost
  /-- It goes on for ever. -/
  | endless

/-- A job and its outcome. -/
structure JobResult where
  job : Job
  outcome : JobOutcome

namespace JobResult

/-- The failure of a job, if it failed. -/
def failure? (r : JobResult) : Option JobError :=
  match r.outcome with
  | .ok _ => none
  | .error e => some e

/-- The output of a job, if it did not fail. -/
def output? (r : JobResult) : Option RawOutput :=
  r.outcome.toOption

end JobResult

/-- What a worker is about. -/
inductive Worker where
  | idle
  | running (job : Job)
  /-- A job is over, and its failure, if it has one, is not reported yet. -/
  | finished (result : JobResult)
  /-- A job is over and its failure is reported. -/
  | reported (result : JobResult)
  /-- The queue was found empty. -/
  | stopped
  /-- A job could not even be begun, and the worker was lost with it. -/
  | lost (job : Job)

/-- The state of a run of jobs. -/
structure Schedule where
  queue : List Job
  workers : List Worker
  /-- The results, the first one delivered first. -/
  results : List JobResult := []
  /-- The failures reported, the first one first. -/
  diagnostics : List Diagnostic := []

namespace Schedule

/-- The state before any worker moves.  There is at least one worker if there is a job, and no
worker is without a job at first. -/
def start (concurrency : Nat) (jobs : List Job) : Schedule where
  queue := jobs
  workers := List.replicate (min (max concurrency 1) jobs.length) .idle

/-- The state in which one worker is about something else. -/
def setWorker (s : Schedule) (i : Nat) (worker : Worker) : Schedule :=
  { s with workers := s.workers.set i worker }

/-- The state with one failure more reported. -/
def addDiagnostic (s : Schedule) (e : JobError) : Schedule :=
  { s with diagnostics := s.diagnostics ++ [Diagnostic.ofJobError e] }

/-- The state with one result more delivered. -/
def addResult (s : Schedule) (r : JobResult) : Schedule :=
  { s with results := s.results ++ [r] }

/-- The moves of the workers. -/
inductive Step : Schedule → Schedule → Prop where
  | take {s : Schedule} {i : Nat} {job : Job} {rest : List Job}
      (idle : s.workers[i]? = some .idle) (waiting : s.queue = job :: rest) :
      Step s ({ s with queue := rest }.setWorker i (.running job))
  | finish {s : Schedule} {i : Nat} {job : Job} (outcome : JobOutcome)
      (running : s.workers[i]? = some (.running job)) :
      Step s (s.setWorker i (.finished ⟨job, outcome⟩))
  | report {s : Schedule} {i : Nat} {r : JobResult} {e : JobError}
      (finished : s.workers[i]? = some (.finished r)) (failed : r.failure? = some e) :
      Step s ((s.addDiagnostic e).setWorker i (.reported r))
  | pass {s : Schedule} {i : Nat} {r : JobResult}
      (finished : s.workers[i]? = some (.finished r)) (succeeded : r.failure? = none) :
      Step s (s.setWorker i (.reported r))
  | deliver {s : Schedule} {i : Nat} {r : JobResult}
      (reported : s.workers[i]? = some (.reported r)) :
      Step s ((s.addResult r).setWorker i .idle)
  | stop {s : Schedule} {i : Nat}
      (idle : s.workers[i]? = some .idle) (empty : s.queue = []) :
      Step s (s.setWorker i .stopped)

/-- The states that the workers can bring about. -/
inductive Reachable (first : Schedule) : Schedule → Prop where
  | refl : Reachable first first
  | step {s t : Schedule} : Reachable first s → Step s t → Reachable first t

/-- The jobs that are being run. -/
def runningJobs (s : Schedule) : List Job :=
  s.workers.filterMap fun
    | .running job => some job
    | _ => none

/-- Whether no worker is going to move again. -/
def isComplete (s : Schedule) : Bool :=
  s.workers.all fun
    | .stopped | .lost _ => true
    | _ => false

section Completion

variable {World : Type} (run : World → Job → JobEnd × World)

/-- The move of one worker, if it can move.  Running a job may change the world, and the worker may
be lost with it; a worker whose job goes on for ever does not move any more. -/
def move? (world : World) (s : Schedule) (i : Nat) : Option (World × Schedule) :=
  match s.workers[i]? with
  | some .idle =>
    match s.queue with
    | [] => some (world, s.setWorker i .stopped)
    | job :: rest => some (world, { s with queue := rest }.setWorker i (.running job))
  | some (.running job) =>
    match run world job with
    | (.outcome outcome, world) => some (world, s.setWorker i (.finished ⟨job, outcome⟩))
    | (.lost, world) => some (world, s.setWorker i (.lost job))
    | (.endless, _) => none
  | some (.finished r) =>
    match r.failure? with
    | some e => some (world, (s.addDiagnostic e).setWorker i (.reported r))
    | none => some (world, s.setWorker i (.reported r))
  | some (.reported r) => some (world, (s.addResult r).setWorker i .idle)
  | some .stopped | some (.lost _) | none => none

/-- Lets the first worker move that can, again and again. -/
def completeFrom : Nat → World → Schedule → World × Schedule
  | 0, world, s => (world, s)
  | fuel + 1, world, s =>
    match (List.range s.workers.length).findSome? (move? run world s) with
    | some (world, s) => completeFrom fuel world s
    | none => (world, s)

/-- Runs some jobs until no worker moves any more.  Every job takes four moves, and every worker
stops once. -/
def complete (world : World) (concurrency : Nat) (jobs : List Job) : World × Schedule :=
  completeFrom run (5 * jobs.length) world (start concurrency jobs)

end Completion

end Schedule

end LintRun
