import LintRun.Host
import LintRun.Schedule
import LintRun.Text.Utf8

/-!
# Running a job

A job runs as a process of its own, without input, and what it prints is collected until
nothing can print to its pipes any more.  A limit of time holds for all of this: it has passed
when the process has not ended by then, and also when something that the process started still
keeps a pipe open.  Without a limit a job that waits for something that never comes waits for
ever.

What the process does is not said here: a `Launch` is any way for the programs of jobs to run on a
host, and everything about the running of jobs holds for all of them.
-/

set_option autoImplicit false

namespace LintRun

namespace Duration

/-- The reading of the clock at which a limit of time has passed.  The clock counts seconds in
words of 64 bits with a sign, and there is no such reading beyond their end. -/
def expiry? (start limit : Duration) : Option Duration :=
  (ofNanos? (start.totalNanos + limit.totalNanos)).filter (·.seconds < UInt64.size / 2)

end Duration

/-- Something that a job waits for and that does come. -/
structure Arrival (α : Type) where
  /-- When it was last looked for in vain, if it was, in nanoseconds from the start of the job. -/
  missed : Option Nat
  /-- What comes, or why it cannot be had, in the system's words. -/
  value : Except String α

/-- What can be seen of a process from outside.  What never comes is absent. -/
structure Course where
  /-- The end of the process with its status code, which it has unless a signal ended it. -/
  exit : Option (Arrival (Option Int))
  /-- The octets that have been printed into each of the two pipes when nothing can print to it any
  more. -/
  stdout : Option (Arrival (List UInt8))
  stderr : Option (Arrival (List UInt8))

/-- How the programs of jobs run on a host, in a directory if one is given: why no process can be
started, in the system's words, or what is seen of the process, and the host afterwards. -/
abbrev Launch := Host → Option String → Job → Except String Course × Host

/-- Why a job that has been begun gives no output. -/
inductive Halt where
  | fault (fault : JobFault)
  /-- It waits for something that never comes. -/
  | endless

namespace Course

/-- Waits for something as long as the limit allows. -/
def await {α : Type} (limit : Option Duration) (arrival : Option (Arrival α)) : Except Halt α :=
  match arrival, limit with
  | some arrival, some limit =>
    if arrival.missed.any (limit.totalNanos ≤ ·) then
      .error (.fault (.timeout limit))
    else
      arrival.value.mapError fun reason => .fault (.io reason)
  | some arrival, none => arrival.value.mapError fun reason => .fault (.io reason)
  | none, some limit => .error (.fault (.timeout limit))
  | none, none => .error .endless

/-- Whether the first of two things comes no later than the second. -/
def precedes {α : Type} : Option (Arrival α) → Option (Arrival α) → Bool
  | some first, some second => first.missed.getD 0 ≤ second.missed.getD 0
  | none, some _ => false
  | _, none => true

/-- Waits for the end of the process and then for what it has printed, of which it takes first what
comes first.  Octets that are no text are replaced. -/
def collect (limit : Option Duration) (course : Course) : Except Halt RawOutput := do
  let status ← await limit course.exit
  if precedes course.stdout course.stderr then
    let stdout ← await limit course.stdout
    let stderr ← await limit course.stderr
    return { stdout := Text.decodeLossy stdout, stderr := Text.decodeLossy stderr, status }
  else
    let stderr ← await limit course.stderr
    let stdout ← await limit course.stdout
    return { stdout := Text.decodeLossy stdout, stderr := Text.decodeLossy stderr, status }

end Course

namespace Job

/-- The failure of a job. -/
def failure (job : Job) (fault : JobFault) : JobError :=
  { linter := job.linter, path := job.path, fault }

/-- What a job comes to whose output is collected or not. -/
def endOf (job : Job) : Except Halt RawOutput → JobEnd
  | .ok output => .outcome (.ok output)
  | .error (.fault fault) => .outcome (.error (job.failure fault))
  | .error .endless => .endless

/-- Runs a job in a directory, and gives what it comes to with the host after it.  Nothing is
started when the clock has no reading for the end of the limit. -/
def run (launch : Launch) (directory : Option String) (limit : Option Duration) (host : Host)
    (job : Job) : JobEnd × Host :=
  if limit.any fun limit => (host.clock.expiry? limit).isNone then (.lost, host)
  else
    match launch host directory job with
    | (.error reason, after) =>
      (.outcome (.error (job.failure (.launch job.program reason))), after)
    | (.ok course, after) => (job.endOf (course.collect limit), after)

end Job

end LintRun
