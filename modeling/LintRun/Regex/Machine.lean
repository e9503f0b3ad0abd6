import LintRun.Regex.Matching

/-!
# Matching by a machine

When an iteration of a loop can match nothing, the order of preference alone does not say how
often to try it.  The rule is that no state of a machine is entered twice at the same place:
whoever comes first has already tried what the second would try.  The machine has one state
for each step of the pattern, and it explores them depth first, the preferred way first.

Where the order of preference suffices, the machine finds the same match.  Its work grows only
with the length of the text and the size of the pattern, so it also serves patterns for which
following the preferences would take too long.
-/

set_option autoImplicit false

namespace LintRun.Regex

/-- One step of a pattern; the numbers are the steps that follow. -/
inductive Step where
  | accept
  | set (chars : CharSet) (next : Nat)
  | look (condition : Look) (next : Nat)
  /-- Tries the first step, then the second. -/
  | split (first second : Nat)
  /-- Takes the place as the start of a group. -/
  | enter (next : Nat)
  /-- Takes the place as the end of the group entered last. -/
  | leave (group next : Nat)
deriving Repr, Inhabited

/-- Puts a step at the end of a program and returns its number. -/
def emit (step : Step) (program : Array Step) : Nat × Array Step :=
  (program.size, program.push step)

/-- A choice of two steps in the order that greed asks for. -/
def Step.branch (greedy : Bool) (again out : Nat) : Step :=
  if greedy then .split again out else .split out again

/-- Puts the steps of a pattern at the end of a program, to go on with the step `next`, and
returns the number of their first step. -/
def Node.compile (next : Nat) (program : Array Step) : Node → Nat × Array Step
  | .empty => (next, program)
  | .set chars => emit (.set chars next) program
  | .look condition => emit (.look condition next) program
  | .cat first second =>
    let (middle, program) := second.compile next program
    first.compile middle program
  | .alt first second =>
    let (a, program) := first.compile next program
    let (b, program) := second.compile next program
    emit (.split a b) program
  | .run greedy chars =>
    let (again, program) := emit .accept program
    let (start, program) := emit (.set chars again) program
    (start, program.set! again (Step.branch greedy start next))
  | .loop greedy body =>
    let (again, program) := emit .accept program
    let (start, program) := body.compile again program
    (start, program.set! again (Step.branch greedy start next))
  | .group index _ body =>
    let (leave, program) := emit (.leave index next) program
    let (start, program) := body.compile leave program
    emit (.enter start) program

/-- A state of the machine to be explored: a step and a place. -/
structure Pending where
  step : Nat
  thread : Thread

/-- Explores pending states, the first one first, and returns the place of the first that is
accepted, or else all states that have been entered. -/
def explorePending (program : Array Step) :
    Nat → List Pending → Std.HashSet (Nat × Nat) → Except (Std.HashSet (Nat × Nat)) Thread
  | 0, _, seen => .error seen
  | _ + 1, [], seen => .error seen
  | fuel + 1, p :: rest, seen =>
    let state := (p.step, p.thread.index)
    if seen.contains state then
      explorePending program fuel rest seen
    else
      let seen := seen.insert state
      match program[p.step]?.getD .accept with
      | .accept => .ok p.thread
      | .set chars next =>
        match p.thread.next? chars with
        | some thread => explorePending program fuel (⟨next, thread⟩ :: rest) seen
        | none => explorePending program fuel rest seen
      | .look condition next =>
        if condition.holds p.thread then
          explorePending program fuel (⟨next, p.thread⟩ :: rest) seen
        else
          explorePending program fuel rest seen
      | .split first second =>
        explorePending program fuel (⟨first, p.thread⟩ :: ⟨second, p.thread⟩ :: rest) seen
      | .enter next =>
        explorePending program fuel (⟨next, p.thread.enter⟩ :: rest) seen
      | .leave group next =>
        explorePending program fuel (⟨next, p.thread.leave group⟩ :: rest) seen

/-- The most preferred match from a place on, when the states in `seen` are known to lead
nowhere.  From every place at most `fuel` states are explored. -/
def findWith (program : Array Step) (start fuel : Nat) (index : Nat) (before : Option Char)
    (seen : Std.HashSet (Nat × Nat)) (cs : List Char) : Option Match :=
  match explorePending program fuel [⟨start, { index, before, rest := cs }⟩] seen, cs with
  | .ok t, _ => some (Match.ofEnd index t)
  | .error _, [] => none
  | .error seen, c :: rest => findWith program start fuel (index + 1) (some c) seen rest
termination_by cs.length

/-- The match that the machine of a pattern finds in a text.  Every state is entered once at
every place, and each time at most two more become pending. -/
def Node.findByMachine (node : Node) (cs : List Char) : Option Match :=
  let (accept, program) := emit .accept #[]
  let (start, program) := node.compile accept program
  findWith program start (2 * (program.size + 1) * (cs.length + 1) + 1) 0 none ∅ cs

/-- The greatest effort for which the order of preference is followed. -/
def maxEffort : Nat := 2

/-- The match of a pattern in a text. -/
def Node.find (node : Node) (cs : List Char) : Option Match :=
  if node.loopsAdvance && node.effort false ≤ maxEffort then node.findByPreference cs
  else node.findByMachine cs

end LintRun.Regex
