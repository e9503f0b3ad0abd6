import LintRun.Shell.Arithmetic
import LintRun.Shell.Field
import LintRun.Shell.Parser
import LintRun.Shell.State

/-!
# Running shell scripts

A script runs as a function of a state.  Commands that never come to an end are cut off after a
number of nested steps, and the state says so.  Commands in the background run at once on a
clock of their own, which is set back after them.
-/

set_option autoImplicit false

namespace LintRun.Shell

/-- The exit status that a number stands for. -/
def statusOf (n : Nat) : Nat :=
  n % 256

/-- The numbers of signals by their names. -/
def signals : List (String × Nat) :=
  [("HUP", 1), ("INT", 2), ("QUIT", 3), ("ABRT", 6), ("KILL", 9), ("USR1", 10), ("SEGV", 11),
    ("USR2", 12), ("PIPE", 13), ("ALRM", 14), ("TERM", 15)]

/-- The signal that a name or a number stands for. -/
def signal? (text : String) : Option Nat :=
  text.toNat? <|> signals.lookup text <|> signals.lookup (String.ofList (text.toList.drop 3))

namespace State

/-- Sends a signal from a shell: to the shell itself, or to the commands in the background. -/
def kill (s : State) (signal : Nat) (target : String) : State :=
  if target = toString processId ∨ target = "0" ∨ target = "-" ++ toString processId then
    if signal = 0 ∨ s.ignored.contains signal = true then { s with status := 0 }
    else { s with ending := some (.signal signal) }
  else
    { s with
      held := s.held.map fun h => (h.1, min h.2 s.clock)
      printed := s.printed.filter fun c => c.time ≤ s.clock
      backgroundEnd := min s.backgroundEnd s.clock
      status := 0 }

/-- Runs `kill` with its arguments. -/
def runKill (s : State) (d : Context) (line : Nat) (args : List String) : State :=
  let (signal, targets) : Option Nat × List String :=
    match args with
    | "-s" :: name :: targets | "-n" :: name :: targets => (signal? name, targets)
    | option :: targets =>
      match option.toList with
      | '-' :: name =>
        if targets.isEmpty then (some 15, args) else (signal? (.ofList name), targets)
      | _ => (some 15, args)
    | [] => (none, [])
  match signal with
  | some signal => targets.foldl (fun s target => s.kill signal target) s
  | none => { s.complain d line "kill: invalid signal" with status := 2 }

/-- Changes the directory. -/
def runCd (s : State) (d : Context) (line : Nat) (args : List String) : State :=
  let target := (args.head? <|> s.vars.get? "HOME").getD "/"
  match s.tree.resolve s.here target true with
  | .ok place =>
    if s.tree.isDirectoryAt place then
      { s with here := place, vars := s.vars.insert "PWD" place.path, status := 0 }
    else
      { s.complain d line ("cd: can't cd to " ++ target) with status := 2 }
  | .error _ => { s.complain d line ("cd: can't cd to " ++ target) with status := 2 }

/-- Leaves the script. -/
def runExit (s : State) (d : Context) (line : Nat) (args : List String) : State :=
  match args with
  | [] => { s with ending := some (.status s.status) }
  | code :: _ =>
    match code.toNat? with
    | some n => { s with ending := some (.status (statusOf n)) }
    | none =>
      { s.complain d line ("exit: Illegal number: " ++ code) with ending := some (.status 2) }

/-- Sets variables that programs see. -/
def runExport (s : State) (args : List String) : State :=
  let s := args.foldl (fun s arg =>
    match arg.splitOn "=" with
    | [name] => { s with exported := s.exported.insert name }
    | name :: rest =>
      { s.setVar name ("=".intercalate rest) with exported := s.exported.insert name }
    | [] => s) s
  { s with status := 0 }

/-- Reads a line of the input into variables. -/
def runRead (s : State) (d : Context) (args : List String) : State :=
  let names := args.filter (!·.startsWith "-")
  let content := (s.inputOf d).finite
  let line := content.takeWhile (· != 10)
  let rest := content.dropWhile (· != 10)
  let words := (Text.wordsOf (Text.decodeLossy line).toList).map String.ofList
  let rec assign (s : State) : List String → List String → State
    | [], _ => s
    | [name], words => s.setVar name (" ".intercalate words)
    | name :: names, words => assign (s.setVar name (words.head?.getD "")) names (words.drop 1)
  let s := assign s names words
  { s.setInput d (.octets (rest.drop 1)) with status := if rest.isEmpty then 1 else 0 }

/-- Sets options and arguments. -/
def runSet (s : State) (args : List String) : State :=
  let isOption (arg : String) : Bool := (arg.startsWith "-" || arg.startsWith "+") && arg ≠ "--"
  let options := args.takeWhile isOption
  let s := options.foldl (fun s option =>
    if option.contains 'e' then { s with endOnFailure := option.startsWith "-" } else s) s
  match args.drop options.length with
  | [] => { s with status := 0 }
  | "--" :: rest => { s with args := rest, status := 0 }
  | rest => { s with args := rest, status := 0 }

/-- Says what is to be done about signals and at the end. -/
def runTrap (s : State) (args : List String) : State :=
  match args with
  | action :: names =>
    names.foldl (fun s name =>
      if name = "EXIT" ∨ name = "0" then
        { s with lastScript := if action = "-" then none else some action }
      else
        match signal? name with
        | some number =>
          { s with ignored :=
              if action = "" then number :: s.ignored else s.ignored.filter (· ≠ number) }
        | none => s) { s with status := 0 }
  | [] => { s with status := 0 }

/-- Leaves loops or goes on with their next round. -/
def runJump (s : State) (jump : Nat → Jump) (args : List String) : State :=
  { s with jump := some (jump ((args.head?.bind String.toNat?).getD 1)), status := 0 }

end State

/-- What is printed about a command that a signal ended. -/
def signalText? : Nat → Option String
  | 1 => some "Hangup"
  | 3 => some "Quit"
  | 6 => some "Aborted"
  | 9 => some "Killed"
  | 10 => some "User defined signal 1"
  | 11 => some "Segmentation fault"
  | 12 => some "User defined signal 2"
  | 14 => some "Alarm clock"
  | 15 => some "Terminated"
  | _ => none

/-- Whether a command is carried out by the shell itself, apart from those that run scripts. -/
def isBuiltin (name : String) : Bool :=
  [":", "true", "false", "echo", "printf", "exit", "cd", "pwd", "kill", "export", "readonly",
    "local", "unset", "shift", "set", "wait", "trap", "read", "test", "[", "umask", "break",
    "continue", "return"].contains name

/-- Carries out a command of the shell itself. -/
def runBuiltin (s : State) (d : Context) (line : Nat) (name : String) (args : List String) :
    State :=
  let place := s.name ++ ": " ++ toString line ++ ": "
  match name with
  | "false" => { s with status := 1 }
  | "echo" =>
    let (newline, words) :=
      match args with
      | "-n" :: words => (false, words)
      | words => (true, words)
    if s.echoEscapes then s.take d { stdout := echo true newline words }
    else s.take d (Tool.echoProgram args)
  | "printf" => s.take d (Tool.printfAt place args)
  | "exit" => s.runExit d line args
  | "cd" => s.runCd d line args
  | "pwd" => s.take d (Tool.prints (s.here.path ++ "\n"))
  | "kill" => s.runKill d line args
  | "export" | "readonly" | "local" => s.runExport args
  | "unset" =>
    { s with vars := .ofList (s.vars.entries.filter (!args.contains ·.1)), status := 0 }
  | "shift" => { s with args := s.args.drop ((args.head?.bind String.toNat?).getD 1), status := 0 }
  | "set" => s.runSet args
  | "trap" => s.runTrap args
  | "break" => s.runJump .leave args
  | "continue" => s.runJump .again args
  | "return" =>
    { s with jump := some .back, status := (args.head?.bind String.toNat?).getD s.status }
  | "wait" => { s with clock := max s.clock s.backgroundEnd, status := 0 }
  | "read" => s.runRead d args
  | "test" => s.take d (Tool.test s.host args)
  | "[" =>
    if args.getLast? = some "]" then s.take d (Tool.test s.host args.dropLast)
    else { s.complain d line "[: missing ]" with status := 2 }
  | _ => { s with status := 0 }

/-- What the name of a command leads to. -/
inductive Found where
  | program (name : String)
  | refused
  | missing
deriving DecidableEq, Repr

/-- Finds the program that a name stands for: a path if it has a slash, or else a name in one
of the directories of programs. -/
def findProgram (host : Host) (searched : List String) (name : String) : Found :=
  let at_ (path : String) : Found :=
    match host.tree.find? host.here path with
    | some (.program name) => .program name
    | some _ => .refused
    | none => .missing
  if name.contains '/' then at_ name
  else if name = "" then .missing
  else
    match (searched.map fun directory => at_ (directory ++ "/" ++ name)).find? (· ≠ .missing) with
    | some found => found
    | none => .missing

/-- The directories that programs are searched in. -/
def State.searched (s : State) : List String :=
  ((s.vars.get? "PATH").getD "").splitOn ":"

/-- The programs that run scripts. -/
def isShell (name : String) : Bool :=
  name = "sh" || name = "dash" || name = "bash"

/-- Opens the file that output is redirected to. -/
def openOutput (s : State) (append : Bool) (path : String) : Except String (Sink × State) :=
  match s.tree.resolve s.here path true with
  | .ok place =>
    match s.tree.node? place with
    | some .directory => .error "Is a directory"
    | some .sink | some .zeros => .ok (.nothing, s)
    | _ =>
      .ok (.file place, if append then s else { s with tree := s.tree.put place (.file []) })
  | .error .missing =>
    match s.tree.resolve s.here (Tool.dirname path) true with
    | .ok directory =>
      let place := directory ++ [Tool.basename path]
      if s.tree.isDirectoryAt directory then
        .ok (.file place, { s with tree := s.tree.put place (.file []) })
      else
        .error "Directory nonexistent"
    | .error _ => .error "Directory nonexistent"
  | .error fault => .error fault.message

/-- Carries out a redirection whose target is known. -/
def redirect (s : State) (d : Context) (r : Redirection) (target : String) :
    Except String (Context × State) :=
  let set (sink : Sink) : List (Nat × Sink) :=
    (r.descriptor, sink) :: d.sinks.filter (·.1 ≠ r.descriptor)
  match r.redirect with
  | .input =>
    match Tool.readFile s.host target with
    | .ok input =>
      let (number, s) := s.addInput input
      .ok ({ d with input := some number }, s)
    | .error _ => .error ("cannot open " ++ target ++ ": No such file")
  | .output | .append =>
    match openOutput s (r.redirect = .append) target with
    | .ok (sink, s) => .ok ({ d with sinks := set sink }, s)
    | .error reason => .error ("cannot create " ++ target ++ ": " ++ reason)
  | .duplicate =>
    match target.toNat? with
    | some number => .ok ({ d with sinks := set ((s.sink? d number).getD .nothing) }, s)
    | none => .ok ({ d with sinks := set .nothing }, s)
  | .document =>
    let (number, s) := s.addInput (.octets (Text.encode target))
    .ok ({ d with input := some number }, s)

/-- The state in which the descriptors of the shell lead where those of a command do. -/
def State.adopt (s : State) (d : Context) : State :=
  { s with
    input := d.input.getD s.input
    sinks := d.sinks ++ s.sinks.filter fun e => (d.sinks.lookup e.1).isNone }

/-- The path or the name by which a command is found. -/
def describe? (s : State) (name : String) : Option String :=
  if isBuiltin name then some name
  else (s.searched.map (· ++ "/" ++ name)).find? fun path => (s.tree.find? s.here path).isSome

/-- The state after a command that may have to end the script by its failure. -/
def State.afterCommand (s : State) (d : Context) : State :=
  if s.endOnFailure && !d.tested && s.status != 0 && !s.isOver then
    { s with ending := some (.status s.status) }
  else s

mutual

/-- Adds what a word stands for to some fields.  Values are split only if that is asked for. -/
def expandInto (split : Bool) :
    Nat → Context → Word → State → Fields → Fields × State
  | 0, _, _, s, f => (f, { s with endless := true })
  | _ + 1, _, [], s, f => (f, s)
  | fuel + 1, d, part :: rest, s, f =>
    let addValue (f : Fields) (quoted : Bool) (value : String) : Fields :=
      if quoted || !split then f.add true value else f.addSplit value.toList
    match part with
    | .literal quoted text => expandInto split fuel d rest s (f.add quoted text)
    | .parameter quoted name choice strict other =>
      let value := (s.value? name).filter fun value => !(strict && value = "")
      match choice, value with
      | .whenAbsent, none | .whenPresent, some _ =>
        let (f, s) := expandInto split fuel d other s f
        expandInto split fuel d rest s f
      | .whenPresent, none => expandInto split fuel d rest s (addValue f quoted "")
      | _, _ =>
        if name = "@" ∧ quoted = true ∧ split = true then
          expandInto split fuel d rest s (f.addEach s.args)
        else
          expandInto split fuel d rest s (addValue f quoted (value.getD ""))
    | .arithmetic quoted expression =>
      let (text, s) := expandText fuel d expression s
      let value (name : String) : Int := ((s.vars.get? name).bind String.toInt?).getD 0
      match Arithmetic.evaluate? value text with
      | some n => expandInto split fuel d rest s (addValue f quoted (toString n))
      | none =>
        let message := "arithmetic expression: expecting primary: \"" ++ text ++ "\""
        (f, { s.complain d 1 message with ending := some (.status 2) })
    | .output quoted script =>
      let (octets, s) := outputOf fuel d script s
      let text := (Text.decodeLossy octets).toList.reverse.dropWhile (· == '\n')
      expandInto split fuel d rest s (addValue f quoted (.ofList text.reverse))

/-- What a script prints when it runs on a copy of the state. -/
def outputOf : Nat → Context → String → State → List UInt8 × State
  | 0, _, _, s => ([], { s with endless := true })
  | fuel + 1, d, script, s =>
    let pipe := s.pipes
    let d := { d with sinks := (1, .pipe pipe) :: d.sinks.filter (·.1 ≠ 1) }
    let child := runScript fuel d script { s with pipes := pipe + 1 }
    let s := s.afterChild { child with clock := max child.clock (child.heldUntil pipe) }
    (s.printedInto pipe, { s with printed := s.printed.filter (·.pipe ≠ pipe) })

/-- The arguments that some words stand for. -/
def expandWords : Nat → Context → List Word → State → List String × State
  | 0, _, _, s => ([], { s with endless := true })
  | _ + 1, _, [], s => ([], s)
  | fuel + 1, d, word :: rest, s =>
    let (fields, s) := expandInto true fuel d word s {}
    let args := fields.toList.flatMap (Field.expand s.host)
    let (more, s) := expandWords fuel d rest s
    (args ++ more, s)

/-- The text that a word stands for. -/
def expandText : Nat → Context → Word → State → String × State
  | 0, _, _, s => ("", { s with endless := true })
  | fuel + 1, d, word, s =>
    let (fields, s) := expandInto false fuel d word s {}
    (" ".intercalate (fields.toList.map Field.text), s)

/-- Carries out redirections one after the other.  There are no descriptors when one fails. -/
def redirectAll :
    Nat → Nat → List Redirection → Context → State → Option Context × State
  | 0, _, _, d, s => (some d, { s with endless := true })
  | _ + 1, _, [], d, s => (some d, s)
  | fuel + 1, line, r :: rest, d, s =>
    let (target, s) := expandText fuel d r.target s
    match redirect s d r target with
    | .ok (d, s) => redirectAll fuel line rest d s
    | .error message => (none, { s.complain d line message with status := 2 })

/-- Sets variables one after the other. -/
def assignAll : Nat → Context → List (String × Word) → State → State
  | 0, _, _, s => { s with endless := true }
  | _ + 1, _, [], s => s
  | fuel + 1, d, (name, word) :: rest, s =>
    let (value, s) := expandText fuel d word s
    assignAll fuel d rest (s.setVar name value)

/-- Runs a command whose arguments are known. -/
def runArgs : Nat → Context → Nat → String → List String → State → State
  | 0, _, _, _, _, s => { s with endless := true }
  | fuel + 1, d, line, name, args, s =>
    match s.functions.lookup name with
    | some body =>
      let after := runCommand fuel d body { s with args }
      { after with
        args := s.args
        jump := if after.jump = some .back then none else after.jump }
    | none =>
    if name = "exec" ∨ name = "command" ∨ name = "eval" ∨ name = "." then
      match name, args with
      | "eval", args => runScript fuel d (" ".intercalate args) s
      | "exec", program :: args =>
        let s := runArgs fuel d line program args s
        if s.isOver then s else { s with ending := some (.status s.status) }
      | "command", ["-v", program] =>
        match describe? s program with
        | some found => s.take d (Tool.prints (found ++ "\n"))
        | none => { s with status := 127 }
      | "command", program :: args => runArgs fuel d line program args s
      | ".", path :: _ =>
        match Tool.readFile s.host path with
        | .ok input =>
          let s := runScript fuel d (Text.decodeLossy input.finite) s
          { s with jump := if s.jump = some .back then none else s.jump }
        | .error _ => { s.complain d line (".: cannot open " ++ path) with status := 2 }
      | _, _ => { s with status := 0 }
    else if isBuiltin name then runBuiltin s d line name args
    else
      match findProgram s.host s.searched name with
      | .missing => { s.complain d line (name ++ ": not found") with status := 127 }
      | .refused => { s.complain d line (name ++ ": Permission denied") with status := 126 }
      | .program program =>
        if isShell program then
          let visible := s.vars.entries.filter (s.exported.contains ·.1)
          let child := { s.adopt d with
            vars := .ofList visible, name, args := [], status := 0, functions := []
            lastScript := none, endOnFailure := false, echoEscapes := program ≠ "bash" }
          let child := runShell fuel {} args child
          let after := s.afterChild child
          match child.ending with
          | some (.signal number) =>
            match signalText? number with
            | some text => after.print {} 2 (Text.encode (text ++ "\n"))
            | none => after
          | _ => after
        else if program = "setsid" ∨ program = "nohup" then
          match args with
          | program :: args => runArgs fuel d line program args s
          | [] => { s with status := 125 }
        else
          (s.take d (Tool.run s.host program args (s.inputOf d))).setInput d (.octets [])

/-- Runs a shell with its arguments: a script that is given, a script in a file, or its input. -/
def runShell : Nat → Context → List String → State → State
  | 0, _, _, s => { s with endless := true }
  | fuel + 1, d, args, s =>
    match args with
    | "-c" :: script :: rest =>
      match rest with
      | [] => runWhole fuel d script s
      | name :: args => runWhole fuel d script { s with name, args }
    | ["-c"] =>
      { s.print d 2 (Text.encode (s.name ++ ": 0: -c requires an argument\n")) with status := 2 }
    | "--" :: path :: args => runFile fuel d path args s
    | [] | ["-s"] | ["-"] | ["--"] =>
      runWhole fuel d (Text.decodeLossy (s.inputOf d).finite) (s.setInput d (.octets []))
    | path :: args =>
      match path.toList with
      | '-' :: letters =>
        let s := if letters.contains 'e' then { s with endOnFailure := true } else s
        if letters.getLast? = some 'c' then runShell fuel d ("-c" :: args) s
        else runShell fuel d args s
      | _ => runFile fuel d path args s

/-- Runs the script in a file. -/
def runFile : Nat → Context → String → List String → State → State
  | 0, _, _, _, s => { s with endless := true }
  | fuel + 1, d, path, args, s =>
    match s.tree.resolve s.here path true with
    | .error _ =>
      { s.print d 2 (Text.encode (s.name ++ ": 0: cannot open " ++ path ++ ": No such file\n")) with
        status := 2 }
    | .ok place =>
      let content := ((s.tree.node? place).bind FileTree.content?).getD []
      runWhole fuel d (Text.decodeLossy content) { s with name := path, args }

/-- Runs a script, and then the one that it leaves for the end. -/
def runWhole : Nat → Context → String → State → State
  | 0, _, _, s => { s with endless := true }
  | fuel + 1, d, script, s =>
    let s := runScript fuel d script s
    match s.lastScript, s.ending with
    | none, _ | some _, some (.signal _) => s
    | some last, _ =>
      let after := runScript fuel d last
        { s with ending := none, jump := none, lastScript := none, status := s.endStatus }
      { after with ending := after.ending <|> some (.status s.endStatus) }

/-- Runs a script line by line. -/
def runScript : Nat → Context → String → State → State
  | 0, _, _, s => { s with endless := true }
  | fuel + 1, d, script, s =>
    let script := Script.parse script
    let s := script.commands.foldl (fun s command => runCommand fuel d command s) s
    match script.fault with
    | some (line, fault) =>
      if s.isOver then s
      else { s.complain d line fault.message with ending := some (.status 2) }
    | none => s

/-- Runs a simple command. -/
def runSimple : Nat → Context → SimpleCommand → State → State
  | 0, _, _, s => { s with endless := true }
  | fuel + 1, d, command, s =>
    let (args, s) := expandWords fuel d command.words s
    if s.isOver then s else
    match redirectAll fuel command.line command.redirections d s with
    | (none, s) => s
    | (some own, s) =>
      match args with
      | [] => assignAll fuel own command.assignments { s with status := s.status }
      | ["exec"] => s.adopt own
      | name :: args =>
        let before := s.vars
        let exported := s.exported
        let s := assignAll fuel own command.assignments s
        let s := { s with
          exported := command.assignments.foldl (fun names a => names.insert a.1) s.exported }
        let s := (runArgs fuel own command.line name args s).afterCommand d
        if command.assignments.isEmpty then s else { s with vars := before, exported }

/-- Runs a command once for each value of a variable. -/
def runEach : Nat → Context → String → Command → List String → State → State
  | 0, _, _, _, _, s => { s with endless := true }
  | _ + 1, _, _, _, [], s => s
  | fuel + 1, d, name, body, value :: rest, s =>
    let s := runCommand fuel d body (s.setVar name value)
    match s.jump with
    | some (.again 1) | some (.again 0) => runEach fuel d name body rest { s with jump := none }
    | some (.again (n + 2)) => { s with jump := some (.again (n + 1)) }
    | some (.leave (n + 2)) => { s with jump := some (.leave (n + 1)) }
    | some (.leave _) => { s with jump := none }
    | _ => if s.isOver then s else runEach fuel d name body rest s

/-- Runs a command. -/
def runCommand : Nat → Context → Command → State → State
  | 0, _, _, s => { s with endless := true }
  | fuel + 1, d, command, s =>
    if s.isOver then s
    else
      match command with
      | .nothing => s
      | .simple command => runSimple fuel d command s
      | .pipeline first second =>
        let start := s.clock
        let pipe := s.pipes
        let writing : Context := { d with
          tested := true
          sinks := (1, .pipe pipe) :: d.sinks.filter (·.1 ≠ 1) }
        let one := s.afterChild (runCommand fuel writing first { s with pipes := pipe + 1 })
        let oneEnd := max one.clock (one.heldUntil pipe)
        let (number, one) := one.addInput (.octets (one.printedInto pipe))
        let one := { one with printed := one.printed.filter (·.pipe ≠ pipe) }
        let reading : Context := { d with input := some number, tested := true }
        let two := runCommand fuel reading second { one with clock := start }
        let after := one.afterChild two
        { after with clock := max after.clock oneEnd }.afterCommand d
      | .negated command =>
        let s := runCommand fuel { d with tested := true } command s
        if s.isOver then s else { s with status := if s.status = 0 then 1 else 0 }
      | .both first second =>
        let s := runCommand fuel { d with tested := true } first s
        if s.status = 0 then runCommand fuel d second s else s
      | .either first second =>
        let s := runCommand fuel { d with tested := true } first s
        if s.status = 0 then s else runCommand fuel d second s
      | .sequence first second => runCommand fuel d second (runCommand fuel d first s)
      | .background command => runBackground fuel d command s
      | .subshell command =>
        let child := runCommand fuel d command s
        match child.ending with
        | some (.signal number) =>
          { s.afterChild child with ending := some (.signal number) }
        | _ => (s.afterChild child).afterCommand d
      | .redirected command redirections =>
        match redirectAll fuel 1 redirections d s with
        | (none, s) => s
        | (some d, s) => runCommand fuel d command s
      | .conditional test yes no =>
        let s := runCommand fuel { d with tested := true } test s
        if s.isOver then s
        else if s.status = 0 then runCommand fuel d yes s
        else runCommand fuel d no { s with status := 0 }
      | .each name words body =>
        let (values, s) :=
          match words with
          | some words => expandWords fuel d words s
          | none => (s.args, s)
        runEach fuel d name body values { s with status := 0 }
      | .loop expected test body =>
        let s := runCommand fuel { d with tested := true } test s
        if s.isOver then s
        else if (s.status == 0) == expected then
          let s := runCommand fuel d body s
          match s.jump with
          | some (.again 1) | some (.again 0) =>
            runCommand fuel d (.loop expected test body) { s with jump := none }
          | some (.again (n + 2)) => { s with jump := some (.again (n + 1)) }
          | some (.leave (n + 2)) => { s with jump := some (.leave (n + 1)) }
          | some (.leave _) => { s with jump := none }
          | _ => runCommand fuel d (.loop expected test body) s
        else { s with status := 0 }
      | .select word branches =>
        let (text, s) := expandText fuel d word s
        runBranches fuel d text branches { s with status := 0 }
      | .define name body =>
        { s with functions := (name, body) :: s.functions, status := 0 }

/-- Runs the first branch with a pattern that a text matches. -/
def runBranches : Nat → Context → String → List (List Word × Command) → State → State
  | 0, _, _, _, s => { s with endless := true }
  | _ + 1, _, _, [], s => s
  | fuel + 1, d, text, (words, body) :: rest, s =>
    match words with
    | [] => runBranches fuel d text rest s
    | word :: words =>
      let (fields, s) := expandInto false fuel d word s {}
      if Field.isMatch fields.toList.flatten text.toList then runCommand fuel d body s
      else runBranches fuel d text ((words, body) :: rest) s

/-- Runs a command in the background.  It keeps the pipes open that it could print to. -/
def runBackground : Nat → Context → Command → State → State
  | 0, _, _, s => { s with endless := true }
  | fuel + 1, d, command, s =>
    let (number, s) := s.addInput (.octets [])
    let d := { d with input := some number }
    let pipes : List Nat :=
      match command with
      | .simple command =>
        match redirectAll fuel command.line command.redirections d s with
        | (some d, s) => s.openPipes d
        | (none, _) => []
      | .redirected _ redirections =>
        match redirectAll fuel 1 redirections d s with
        | (some d, s) => s.openPipes d
        | (none, _) => []
      | _ => s.openPipes d
    let child := runCommand fuel d command s
    let after := s.afterChild child
    { after with
      clock := s.clock
      status := 0
      endless := s.endless
      held := pipes.map (·, if child.endless then 10 ^ 30 else child.clock) ++ after.held
      backgroundEnd := max s.backgroundEnd child.clock }

end

end LintRun.Shell
