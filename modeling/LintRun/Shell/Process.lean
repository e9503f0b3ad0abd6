import LintRun.Process
import LintRun.Shell.Run

/-!
# Processes of shells and tools

One way for the programs of jobs to run: the programs are the shells and tools of the system, and
what they do is worked out.  Waiting for them takes the time that they take.
-/

set_option autoImplicit false

namespace LintRun.Shell

/-- The directories that programs are searched in. -/
def searchedDirectories : List String := ["/usr/bin", "/bin"]

/-- The variables that every process has. -/
def initialVariables (here : Place) : List (String × String) :=
  [("HOME", "/root"), ("PATH", ":".intercalate searchedDirectories), ("PWD", here.path)]

/-- How deep the commands of a script may be nested, loops included. -/
def maxDepth : Nat := 20000

/-- The state of a process before it starts: it has no input and two pipes. -/
def initialState (host : Host) (program name : String) : State where
  tree := host.tree
  here := host.here
  vars := .ofList (initialVariables host.here)
  exported := .ofList ["HOME", "PATH", "PWD"]
  name
  echoEscapes := program ≠ "bash"
  sinks := [(1, .pipe 1), (2, .pipe 2)]
  inputs := [.octets []]

/-- What is seen of a process that has come to some state.  A process that does not end keeps its
pipes open. -/
def State.course (s : State) : Course :=
  let printed (pipe : Nat) : Option (Arrival (List UInt8)) :=
    if s.endless then none
    else some ⟨some (max s.clock (s.heldUntil pipe)), .ok (s.printedInto pipe)⟩
  let status : Option Int :=
    match s.ending with
    | some (.signal _) => none
    | some (.status code) => some code
    | none => some s.status
  { exit := if s.endless then none else some ⟨some s.clock, .ok status⟩
    stdout := printed 1
    stderr := printed 2 }

/-- Runs a program that has been found to its end. -/
def runProgram (host : Host) (program name : String) (args : List String) : State :=
  let start := initialState host program name
  if isShell program then runShell maxDepth {} args start
  else start.take {} (Tool.run host program args (.octets []))

/-- The system's words for why no process can be started. -/
inductive StartFault where
  | zeroCharacter
  | missing
  | notDirectory
  | refused
deriving DecidableEq, Repr

/-- The reason in a message about a process that cannot be started. -/
def StartFault.message : StartFault → String
  | .zeroCharacter => "nul byte found in provided data"
  | .missing => "No such file or directory (os error 2)"
  | .notDirectory => "Not a directory (os error 20)"
  | .refused => "Permission denied (os error 13)"

/-- Finds the directory and the program of a process. -/
def findProcess (host : Host) (directory : Option String) (program : String)
    (args : List String) : Except StartFault (Place × String) := do
  if (program :: args ++ directory.toList).any (·.contains '\x00') then
    throw .zeroCharacter
  let place ← match directory with
    | none => pure host.here
    | some path =>
      match host.tree.resolve host.here path true with
      | .ok place => if host.tree.isDirectoryAt place then pure place else throw .notDirectory
      | .error .missing => throw .missing
      | .error _ => throw .notDirectory
  match findProgram { host with here := place } searchedDirectories program with
  | .program name => return (place, name)
  | .refused => throw .refused
  | .missing => throw .missing

/-- Runs the programs of jobs on a host whose programs are shells and tools. -/
def launch : Launch := fun host directory job =>
  match findProcess host directory job.program job.args with
  | .error fault => (.error fault.message, host)
  | .ok (place, program) =>
    let ended := runProgram { host with here := place } program job.program job.args
    (.ok ended.course, { host with tree := ended.tree })

end LintRun.Shell
