import LintRun.Dict
import LintRun.Shell.Script
import LintRun.Shell.Tool

/-!
# The state of a shell

A shell keeps variables, a directory and a status.  Beside them the state has what can be seen
of a shell from outside: what has been printed and when, by a clock that only waiting moves,
and until when a command in the background keeps a pipe open.
-/

set_option autoImplicit false

namespace LintRun.Shell

/-- Where a descriptor leads. -/
inductive Sink where
  | pipe (number : Nat)
  | file (place : Place)
  | nothing
deriving DecidableEq, Repr

/-- Octets printed into a pipe. -/
structure Chunk where
  pipe : Nat
  time : Nat
  octets : List UInt8

/-- How a shell ended. -/
inductive Ending where
  | status (code : Nat)
  | signal (number : Nat)
deriving DecidableEq, Repr

/-- What leads out of the middle of a script. -/
inductive Jump where
  /-- Ends a number of loops. -/
  | leave (loops : Nat)
  /-- Goes on with the next round of the last of a number of loops. -/
  | again (loops : Nat)
  /-- Ends a function or a script. -/
  | back
deriving DecidableEq, Repr

/-- The surroundings of a command. -/
structure Context where
  /-- The number of the input, if it is not that of the shell. -/
  input : Option Nat := none
  /-- Where descriptors lead that do not lead where those of the shell do. -/
  sinks : List (Nat × Sink) := []
  /-- Whether the command may fail without consequences. -/
  tested : Bool := false

/-- The state of a shell. -/
structure State where
  tree : FileTree
  here : Place
  vars : Dict String
  /-- The variables that programs see. -/
  exported : NameSet
  /-- The name of the shell or of its script. -/
  name : String
  args : List String := []
  /-- Whether `echo` knows escapes. -/
  echoEscapes : Bool := true
  /-- Whether a command that fails ends the script. -/
  endOnFailure : Bool := false
  functions : List (String × Command) := []
  /-- The signals that are ignored. -/
  ignored : List Nat := []
  /-- The script to run at the end. -/
  lastScript : Option String := none
  /-- The number of the input of the shell. -/
  input : Nat := 0
  /-- Where the descriptors of the shell lead. -/
  sinks : List (Nat × Sink)
  status : Nat := 0
  /-- The time since the start, in nanoseconds. -/
  clock : Nat := 0
  printed : List Chunk := []
  /-- Until when commands in the background keep pipes open. -/
  held : List (Nat × Nat) := []
  /-- What is left of each input, by its number. -/
  inputs : List Input := []
  pipes : Nat := 3
  /-- When the last command in the background is over. -/
  backgroundEnd : Nat := 0
  jump : Option Jump := none
  ending : Option Ending := none
  /-- Whether the shell is not going to end. -/
  endless : Bool := false

namespace State

/-- The number that a shell has among the processes. -/
def processId : Nat := 4242

/-- Whether the shell does not go on with the next command. -/
def isOver (s : State) : Bool :=
  s.ending.isSome || s.endless || s.jump.isSome

/-- The host as a program sees it. -/
def host (s : State) : Host :=
  { tree := s.tree, here := s.here }

/-- Where a descriptor leads. -/
def sink? (s : State) (d : Context) (descriptor : Nat) : Option Sink :=
  d.sinks.lookup descriptor <|> s.sinks.lookup descriptor

/-- The pipes that a process with these surroundings could print to. -/
def openPipes (s : State) (d : Context) : List Nat :=
  ((d.sinks ++ s.sinks).map (·.1)).eraseDups.filterMap fun descriptor =>
    match s.sink? d descriptor with
    | some (.pipe number) => some number
    | _ => none

/-- The state with octets printed to a descriptor. -/
def print (s : State) (d : Context) (descriptor : Nat) (octets : List UInt8) : State :=
  if octets.isEmpty then s
  else
    match s.sink? d descriptor with
    | some (.pipe number) => { s with printed := ⟨number, s.clock, octets⟩ :: s.printed }
    | some (.file place) =>
      let content := ((s.tree.node? place).bind FileTree.content?).getD []
      { s with tree := s.tree.put place (.file (content ++ octets)) }
    | some .nothing | none => s

/-- The state with a message printed about the command on a line. -/
def complain (s : State) (d : Context) (line : Nat) (message : String) : State :=
  s.print d 2 (Text.encode (s.name ++ ": " ++ toString line ++ ": " ++ message ++ "\n"))

/-- What has been printed into a pipe, by time. -/
def printedInto (s : State) (pipe : Nat) : List UInt8 :=
  let chunks := (s.printed.filter (·.pipe = pipe)).reverse
  (chunks.mergeSort fun a b => a.time ≤ b.time).flatMap (·.octets)

/-- When the last command in the background lets go of a pipe. -/
def heldUntil (s : State) (pipe : Nat) : Nat :=
  ((s.held.filter (·.1 = pipe)).map (·.2)).foldl max 0

/-- The number of a new input and the state that has it. -/
def addInput (s : State) (input : Input) : Nat × State :=
  (s.inputs.length, { s with inputs := s.inputs ++ [input] })

/-- What is left of an input. -/
def inputOf (s : State) (d : Context) : Input :=
  s.inputs[d.input.getD s.input]?.getD (.octets [])

/-- The state in which an input has been read to some point. -/
def setInput (s : State) (d : Context) (input : Input) : State :=
  { s with inputs := s.inputs.set (d.input.getD s.input) input }

/-- The state with the outcome of a program taken in. -/
def take (s : State) (d : Context) (outcome : Outcome) : State :=
  let s := { s with clock := s.clock + outcome.duration }
  let s := s.print d 1 outcome.stdout
  let s := s.print d 2 (Text.encode outcome.stderr)
  { s with status := outcome.status }

/-- The value of a parameter. -/
def value? (s : State) (name : String) : Option String :=
  match name with
  | "@" | "*" => if s.args.isEmpty then none else some (" ".intercalate s.args)
  | "#" => some (toString s.args.length)
  | "?" => some (toString s.status)
  | "$" => some (toString processId)
  | "!" => some (toString (processId + 1))
  | "0" => some s.name
  | name =>
    match name.toList with
    | '#' :: measured =>
      some (toString ((s.vars.get? (.ofList measured)).getD "").length)
    | _ =>
      match name.toNat? with
      | some n => s.args[n - 1]?
      | none => s.vars.get? name

/-- The state with the value of a variable. -/
def setVar (s : State) (name value : String) : State :=
  { s with vars := s.vars.insert name value }

/-- The status by which the end of a shell is known to another one. -/
def endStatus (s : State) : Nat :=
  match s.ending with
  | some (.status code) => code
  | some (.signal number) => 128 + number
  | none => s.status

/-- The state after a shell of its own has come to its end: what can be seen of it from outside
stays. -/
def afterChild (before child : State) : State :=
  { before with
    tree := child.tree
    clock := child.clock
    printed := child.printed
    held := child.held
    inputs := child.inputs
    pipes := child.pipes
    status := child.endStatus
    endless := child.endless }

end State

end LintRun.Shell
