import LintRun.Host
import LintRun.NameSet
import LintRun.Shell.Format
import LintRun.Text.Lines

/-!
# Programs of the system

The programs that scripts are made of: they read files or what another program prints, and
print something themselves.  A program is a function of the files, its arguments and its input;
the only program that takes any time is `sleep`.
-/

set_option autoImplicit false

namespace LintRun.Shell

/-- What a program reads. -/
inductive Input where
  | octets (content : List UInt8)
  /-- Zeros without end. -/
  | zeros
deriving Inhabited

/-- The octets of an input, none if there is no end of them. -/
def Input.finite : Input → List UInt8
  | .octets content => content
  | .zeros => []

/-- What a program leaves behind. -/
structure Outcome where
  stdout : List UInt8 := []
  stderr : String := ""
  status : Nat := 0
  /-- How long the program took, in nanoseconds. -/
  duration : Nat := 0
deriving Inhabited

namespace Tool

/-- The outcome of a program that prints a text. -/
def prints (text : String) : Outcome :=
  { stdout := Text.encode text }

/-- The outcome of a program that only fails. -/
def fails (status : Nat) (message : String) : Outcome :=
  { stderr := message ++ "\n", status }

/-- One outcome after another; the last status that is not zero counts. -/
def andThen (a b : Outcome) : Outcome where
  stdout := a.stdout ++ b.stdout
  stderr := a.stderr ++ b.stderr
  status := if b.status = 0 then a.status else b.status
  duration := a.duration + b.duration

/-- The outcomes of a program for each of some arguments, one after the other. -/
def forEach (args : List String) (run : String → Outcome) : Outcome :=
  args.foldl (fun before arg => andThen before (run arg)) {}

/-- What a program reads from a file. -/
def readFile (host : Host) (path : String) : Except String Input :=
  match host.tree.resolve host.here path true with
  | .error fault => .error (fault.message)
  | .ok place =>
    match host.tree.node? place with
    | some .directory => .error "Is a directory"
    | some .zeros => .ok .zeros
    | some node => .ok (.octets ((FileTree.content? node).getD []))
    | none => .error "No such file or directory"

/-- Runs a program on its input, or on each of the files that it is given. -/
def onFiles (host : Host) (name : String) (input : Input) (files : List String)
    (run : Input → Outcome) : Outcome :=
  if files.isEmpty then run input
  else
    forEach files fun file =>
      if file = "-" then run input
      else
        match readFile host file with
        | .ok content => run content
        | .error reason => fails 1 (name ++ ": " ++ file ++ ": " ++ reason)

/-- The lines of some octets, each with the line feed at its end. -/
def octetLines (octets : List UInt8) : List (List UInt8) :=
  match octets with
  | [] => []
  | b :: rest =>
    let line := (b :: rest).takeWhile (· != 10)
    match _h : (b :: rest).dropWhile (· != 10) with
    | [] => [line]
    | _ :: after => (line ++ [10]) :: octetLines after
termination_by octets.length
decreasing_by
  have shorter := (List.dropWhile_suffix (· != 10) (l := b :: rest)).length_le
  simp only [_h, List.length_cons] at shorter ⊢
  omega

/-- How much of an input `head` and `tail` print. -/
inductive Amount where
  | lines (n : Nat)
  | octets (n : Nat)

/-- Reads the amount that `head` or `tail` is asked for, and gives the files. -/
def readAmount : List String → Amount × List String
  | "-n" :: n :: files => (.lines (n.toNat?.getD 0), files)
  | "-c" :: n :: files => (.octets (n.toNat?.getD 0), files)
  | option :: files =>
    match option.toList with
    | '-' :: 'n' :: digits => (.lines (Text.digitsValue digits), files)
    | '-' :: 'c' :: digits => (.octets (Text.digitsValue digits), files)
    | '-' :: c :: digits =>
      if Text.isDigit c then (.lines (Text.digitsValue (c :: digits)), files)
      else (.lines 10, option :: files)
    | _ => (.lines 10, option :: files)
  | [] => (.lines 10, [])

/-- The first part of an input. -/
def head (amount : Amount) : Input → List UInt8
  | .octets content =>
    match amount with
    | .lines n => ((octetLines content).take n).flatten
    | .octets n => content.take n
  | .zeros =>
    match amount with
    | .lines _ => []
    | .octets n => List.replicate n 0

/-- The last part of an input. -/
def tail (amount : Amount) (input : Input) : List UInt8 :=
  let content := input.finite
  match amount with
  | .lines n =>
    let lines := octetLines content
    (lines.drop (lines.length - n)).flatten
  | .octets n => content.drop (content.length - n)

/-- The octets of a set as `tr` reads it: escapes, ranges and classes. -/
def readSet : List Char → List UInt8
  | [] => []
  | '\\' :: c :: rest =>
    let digits := ((c :: rest).take 3).takeWhile isOctal
    match digits, letterEscape? c with
    | _ :: more, _ => octalOctet digits :: readSet (rest.drop more.length)
    | [], some octet => octet :: readSet rest
    | [], none => octetsOf c ++ readSet rest
  | '[' :: ':' :: 'u' :: 'p' :: 'p' :: 'e' :: 'r' :: ':' :: ']' :: rest =>
    (List.range 26).map (fun n => .ofNat (65 + n)) ++ readSet rest
  | '[' :: ':' :: 'l' :: 'o' :: 'w' :: 'e' :: 'r' :: ':' :: ']' :: rest =>
    (List.range 26).map (fun n => .ofNat (97 + n)) ++ readSet rest
  | '[' :: ':' :: 'd' :: 'i' :: 'g' :: 'i' :: 't' :: ':' :: ']' :: rest =>
    (List.range 10).map (fun n => .ofNat (48 + n)) ++ readSet rest
  | a :: '-' :: b :: rest =>
    if a.toNat < 128 ∧ b.toNat < 128 ∧ a.toNat ≤ b.toNat then
      (List.range (b.toNat + 1 - a.toNat)).map (fun n => .ofNat (a.toNat + n)) ++ readSet rest
    else
      octetsOf a ++ octetsOf '-' ++ octetsOf b ++ readSet rest
  | c :: rest => octetsOf c ++ readSet rest
termination_by cs => cs.length
decreasing_by all_goals (simp only [List.length_cons, List.length_drop]; omega)

/-- An octet with those of one set replaced by those of another, whose last one is repeated. -/
def translate (source target : List UInt8) (octet : UInt8) : UInt8 :=
  match source.findIdx? (· == octet) with
  | some i => (target[i]? <|> target.getLast?).getD octet
  | none => octet

/-- Replaces or deletes octets. -/
def tr (args : List String) (input : Input) : Outcome :=
  let content := input.finite
  match args with
  | ["-d", set] =>
    let set := readSet set.toList
    { stdout := content.filter (!set.contains ·) }
  | [source, target] =>
    let source := readSet source.toList
    let target := readSet target.toList
    { stdout := content.map (translate source target) }
  | _ => fails 1 "tr: missing operand"

/-- Counts lines, words or octets. -/
def wc (host : Host) (args : List String) (input : Input) : Outcome :=
  let (option, files) :=
    match args with
    | option :: files => if option.startsWith "-" then (option, files) else ("", args)
    | [] => ("", [])
  let count (content : List UInt8) : Nat :=
    match option with
    | "-l" => content.count 10
    | "-w" => (Text.wordsOf (Text.decodeLossy content).toList).length
    | _ => content.length
  match files with
  | [] => prints (toString (count (input.finite)) ++ "\n")
  | files => forEach files fun file =>
    match readFile host file with
    | .ok content => prints (toString (count (content.finite)) ++ " " ++ file ++ "\n")
    | .error reason => fails 1 ("wc: " ++ file ++ ": " ++ reason)

/-- The names of the files in a directory that `ls` shows, line by line. -/
def ls (host : Host) (args : List String) : Outcome :=
  let all := args.any fun a => a = "-a" || a = "-A" || a = "-1a"
  let paths := args.filter (!·.startsWith "-")
  let entries (place : Place) : String :=
    let names := (NameSet.ofList (host.tree.namesIn place)).names
    let shown := if all then names else names.filter (!·.startsWith ".")
    String.join (shown.map (· ++ "\n"))
  forEach (if paths.isEmpty then ["."] else paths) fun path =>
    match host.tree.resolve host.here path true with
    | .error fault =>
      fails 2 ("ls: cannot access '" ++ path ++ "': " ++ fault.message)
    | .ok place =>
      if host.tree.isDirectoryAt place then prints (entries place) else prints (path ++ "\n")

/-- A number of nanoseconds as `sleep` reads it: seconds, or another unit that is named. -/
def readDelay? (text : String) : Option Nat :=
  let cs := text.toList
  let (cs, unit) :=
    match cs.getLast? with
    | some 's' => (cs.dropLast, 1)
    | some 'm' => (cs.dropLast, 60)
    | some 'h' => (cs.dropLast, 3600)
    | some 'd' => (cs.dropLast, 86400)
    | _ => (cs, 1)
  let whole := cs.takeWhile (· != '.')
  let fraction := (cs.dropWhile (· != '.')).drop 1
  if (whole ++ fraction).all Text.isDigit ∧ whole ++ fraction ≠ [] then
    some (Text.digitsValue (whole ++ (fraction ++ List.replicate 9 '0').take 9) * unit)
  else
    none

/-- Waits for some time. -/
def sleep (args : List String) : Outcome :=
  match args.mapM readDelay? with
  | some delays =>
    if delays.isEmpty then
        fails 1 "sleep: missing operand\nTry 'sleep --help' for more information."
      else { duration := delays.foldl (· + ·) 0 }
  | none =>
    let bad := (args.find? fun a => (readDelay? a).isNone).getD ""
    fails 1 ("sleep: invalid time interval '" ++ bad ++
      "'\nTry 'sleep --help' for more information.")

/-- Prints whole numbers one after the other. -/
def seq (args : List String) : Outcome :=
  let run (first step last : Int) : Outcome :=
    if step = 0 then fails 1 "seq: invalid Zero increment value: '0'"
    else
      let count := ((last - first) / step + 1).toNat
      prints (String.join ((List.range count).map fun n =>
        toString (first + step * Int.ofNat n) ++ "\n"))
  match args.mapM String.toInt? with
  | some [last] => run 1 1 last
  | some [first, last] => run first 1 last
  | some [first, step, last] => run first step last
  | _ => fails 1 "seq: missing operand"

/-- The part of a path after its last slash. -/
def basename (path : String) : String :=
  match (FileTree.parts path).filter (· ≠ "") with
  | [] => if path = "" then "" else "/"
  | parts => parts.getLast?.getD ""

/-- The part of a path before its last slash. -/
def dirname (path : String) : String :=
  let parts := ((FileTree.parts path).reverse.dropWhile (· == "")).drop 1
  match parts.dropWhile (· == "") with
  | [] => if Path.isAbsolute path then "/" else "."
  | parts => "/".intercalate parts.reverse

/-- Whether the expression that `test` is given holds; there is no answer when it is none. -/
def testHolds? (host : Host) : List String → Option Bool
  | [] => some false
  | ["!"] => some true
  | [text] => some (text ≠ "")
  | "!" :: rest => (testHolds? host rest).map (!·)
  | [option, text] =>
    let node := host.tree.find? host.here text
    match option with
    | "-n" => some (text ≠ "")
    | "-z" => some (text = "")
    | "-e" | "-r" | "-w" => some node.isSome
    | "-f" => some (node.any FileTree.isFile)
    | "-d" => some (node == some .directory)
    | "-x" => some (node.any fun n => match n with
      | .directory | .program _ => true
      | _ => false)
    | "-s" => some (node.any fun n => match n with
      | .file content => !content.isEmpty
      | .sink | .zeros => false
      | _ => true)
    | "-L" | "-h" =>
      match host.tree.resolve host.here text false with
      | .ok place => some (match host.tree.node? place with
        | some (.link _) => true
        | _ => false)
      | .error _ => some false
    | _ => none
  | [a, operator, b] =>
    let compare (holds : Int → Int → Bool) : Option Bool := do
      return holds (← a.toInt?) (← b.toInt?)
    match operator with
    | "=" | "==" => some (a = b)
    | "!=" => some (a ≠ b)
    | "-eq" => compare (· == ·)
    | "-ne" => compare (· != ·)
    | "-lt" => compare (· < ·)
    | "-le" => compare (· ≤ ·)
    | "-gt" => compare (· > ·)
    | "-ge" => compare (· ≥ ·)
    | _ => none
  | _ => none

/-- The outcome of `test`. -/
def test (host : Host) (args : List String) : Outcome :=
  { status := match testHolds? host args with
      | some true => 0
      | some false => 1
      | none => 2 }

/-- The outcome of `echo` as a program of its own, which knows more options. -/
def echoProgram (args : List String) : Outcome :=
  let isOption (arg : String) : Bool :=
    match arg.toList with
    | '-' :: letters => !letters.isEmpty && letters.all fun c => c == 'n' || c == 'e' || c == 'E'
    | _ => false
  let options := args.takeWhile isOption
  let letters := (options.flatMap (·.toList)).filter (· ≠ '-')
  let escapes := (letters.filter (· ≠ 'n')).getLast? = some 'e'
  { stdout := echo escapes (!letters.contains 'n') (args.drop options.length) }

/-- The outcome of `printf`; messages start with the place of the command. -/
def printfAt (place : String) (args : List String) : Outcome :=
  match (if args.head? = some "--" then args.drop 1 else args) with
  | [] => fails 2 (place ++ "printf: usage: printf format [arg ...]")
  | format :: args =>
    let (stdout, faults) := printf format args
    { stdout
      stderr := String.join (faults.map fun f => place ++ "printf: " ++ f ++ "\n")
      status :=
        if faults.any (·.endsWith "directive") then 2 else if faults.isEmpty then 0 else 1 }

/-- The names of the programs. -/
def names : List String :=
  ["basename", "cat", "dirname", "echo", "false", "head", "ls", "printf", "pwd", "seq", "sleep",
    "tail", "test", "[", "tr", "true", "wc"]

/-- Runs a program. -/
def run (host : Host) (name : String) (args : List String) (input : Input) : Outcome :=
  match name with
  | "basename" =>
    match args with
    | [path] => prints (basename path ++ "\n")
    | [path, ending] =>
      let base := basename path
      prints ((if base ≠ ending ∧ base.endsWith ending then
        String.ofList (base.toList.take (base.length - ending.length)) else base) ++ "\n")
    | _ => fails 1 "basename: missing operand"
  | "cat" =>
    onFiles host "cat" input (args.filter (· ≠ "-u")) fun content =>
      { stdout := content.finite }
  | "dirname" => forEach args fun path => prints (dirname path ++ "\n")
  | "echo" => echoProgram args
  | "false" => { status := 1 }
  | "head" =>
    let (amount, files) := readAmount args
    onFiles host "head" input files fun content => { stdout := head amount content }
  | "ls" => ls host args
  | "printf" => printfAt "" args
  | "pwd" => prints (host.here.path ++ "\n")
  | "seq" => seq args
  | "sleep" => sleep args
  | "tail" =>
    let (amount, files) := readAmount args
    onFiles host "tail" input files fun content => { stdout := tail amount content }
  | "test" => test host args
  | "[" =>
    if args.getLast? = some "]" then test host args.dropLast else fails 2 "[: missing ]"
  | "tr" => tr args input
  | "wc" => wc host args input
  | _ => {}

end Tool

end LintRun.Shell
