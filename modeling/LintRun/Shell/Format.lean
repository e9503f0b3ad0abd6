import LintRun.Text.Decimal
import LintRun.Text.Utf8

/-!
# Printing in shell scripts

Scripts print with `echo` and `printf`.  In what they print, a backslash and the characters
after it stand for one octet, and `printf` puts its arguments into a format, again and again
until none is left.
-/

set_option autoImplicit false

namespace LintRun.Shell

/-- Whether a character is a digit in base eight. -/
def isOctal (c : Char) : Bool :=
  '0' ≤ c && c ≤ '7'

/-- The octet that digits in base eight stand for. -/
def octalOctet (digits : List Char) : UInt8 :=
  .ofNat (digits.foldl (fun n c => 8 * n + (c.toNat - '0'.toNat)) 0)

/-- The octet that a letter after a backslash stands for. -/
def letterEscape? : Char → Option UInt8
  | 'a' => some 7
  | 'b' => some 8
  | 't' => some 9
  | 'n' => some 10
  | 'v' => some 11
  | 'f' => some 12
  | 'r' => some 13
  | '\\' => some 92
  | _ => none

/-- The octets of a character. -/
def octetsOf (c : Char) : List UInt8 :=
  String.utf8EncodeChar c

/-- The octets of the argument of `echo`, and whether nothing may be printed after them. -/
def echoEscapes : List Char → List UInt8 × Bool
  | [] => ([], false)
  | '\\' :: 'c' :: _ => ([], true)
  | '\\' :: '0' :: rest =>
    let digits := (rest.take 3).takeWhile isOctal
    let (octets, stop) := echoEscapes (rest.drop digits.length)
    (octalOctet digits :: octets, stop)
  | '\\' :: c :: rest =>
    match (c :: rest.take 2).takeWhile isOctal, letterEscape? c with
    | digit :: digits, _ =>
      let (octets, stop) := echoEscapes (rest.drop digits.length)
      (octalOctet (digit :: digits) :: octets, stop)
    | [], some octet =>
      let (octets, stop) := echoEscapes rest
      (octet :: octets, stop)
    | [], none =>
      let (octets, stop) := echoEscapes rest
      (octetsOf '\\' ++ octetsOf c ++ octets, stop)
  | c :: rest =>
    let (octets, stop) := echoEscapes rest
    (octetsOf c ++ octets, stop)
termination_by cs => cs.length
decreasing_by all_goals (simp only [List.length_cons, List.length_drop]; omega)

/-- Arguments with spaces between them, up to one after which nothing may be printed. -/
def echoWords (escapes : Bool) : List String → List UInt8 × Bool
  | [] => ([], false)
  | word :: rest =>
    let (octets, stop) :=
      if escapes then echoEscapes word.toList else (Text.encode word, false)
    if stop then (octets, true)
    else if rest.isEmpty then (octets, false)
    else
      let (more, stop) := echoWords escapes rest
      (octets ++ 32 :: more, stop)

/-- What `echo` prints. -/
def echo (escapes newline : Bool) (words : List String) : List UInt8 :=
  let (octets, stop) := echoWords escapes words
  if stop || !newline then octets else octets ++ [10]

/-- How a value is put into a format. -/
structure Directive where
  left : Bool := false
  zero : Bool := false
  plus : Bool := false
  space : Bool := false
  width : Nat := 0
  precision : Option Nat := none

/-- Octets filled up to a width. -/
def Directive.pad (d : Directive) (octets : List UInt8) : List UInt8 :=
  let missing := List.replicate (d.width - octets.length) 32
  if d.left then octets ++ missing else missing ++ octets

/-- The text of a number. -/
def Directive.number (d : Directive) (base : Nat) (upper : Bool) (value : Int) : List UInt8 :=
  let digits := (Nat.toDigits base value.natAbs).map fun c => if upper then c.toUpper else c
  let digits := List.replicate (d.precision.getD 1 - digits.length) '0' ++ digits
  let sign := if value < 0 then ['-'] else if d.plus then ['+'] else if d.space then [' '] else []
  let zeros :=
    if d.zero && !d.left && d.precision.isNone then
      List.replicate (d.width - sign.length - digits.length) '0'
    else []
  d.pad ((sign ++ zeros ++ digits).flatMap octetsOf)

/-- The value of digits in base sixteen. -/
def readHex? (cs : List Char) : Option Nat :=
  if cs = [] then none
  else cs.foldlM (fun n c =>
    if Text.isDigit c then some (16 * n + (c.toNat - '0'.toNat))
    else if 'a' ≤ c ∧ c ≤ 'f' then some (16 * n + (c.toNat - 'a'.toNat + 10))
    else if 'A' ≤ c ∧ c ≤ 'F' then some (16 * n + (c.toNat - 'A'.toNat + 10))
    else none) 0

/-- The whole number that an argument of `printf` is. -/
def readInteger? (text : String) : Option Int :=
  let (negative, digits) :=
    match text.toList.dropWhile (fun c => c == ' ' || c == '\t') with
    | '-' :: rest => (true, rest)
    | '+' :: rest => (false, rest)
    | cs => (false, cs)
  match digits, Text.readDigits? digits with
  | ['"', c], _ | ['\'', c], _ => some c.toNat
  | '0' :: 'x' :: hex, _ | '0' :: 'X' :: hex, _ =>
    (readHex? hex).map fun n => if negative then -(n : Int) else n
  | '0' :: _, some value =>
    let value := if digits.all isOctal then
      digits.foldl (fun n c => 8 * n + (c.toNat - '0'.toNat)) 0 else value
    some (if negative then -(value : Int) else value)
  | _, some value => some (if negative then -(value : Int) else value)
  | _, none => none

/-- What is left of a format and its arguments, what has been printed, and what is wrong. -/
structure Printing where
  octets : List UInt8 := []
  args : List String
  /-- What is wrong: arguments that are no numbers where numbers are needed, and directives
  that there are not. -/
  faults : List String := []
  /-- Whether nothing may be printed any more. -/
  stopped : Bool := false

namespace Printing

/-- Prints octets. -/
def emit (p : Printing) (octets : List UInt8) : Printing :=
  { p with octets := p.octets ++ octets }

/-- The next argument. -/
def next (p : Printing) : String × Printing :=
  match p.args with
  | [] => ("", p)
  | arg :: rest => (arg, { p with args := rest })

/-- Prints the next argument in the way that a letter asks for. -/
def convert (p : Printing) (d : Directive) (letter : Char) : Printing :=
  let (arg, after) := p.next
  let numeric (base : Nat) (upper : Bool) : Printing :=
    if arg = "" then after.emit (d.number base upper 0)
    else
      match readInteger? arg with
      | some value => after.emit (d.number base upper value)
      | none =>
        { after.emit (d.number base upper 0) with
          faults := after.faults ++ [arg ++ ": expected numeric value"] }
  match letter with
  | 's' =>
    let octets := Text.encode arg
    after.emit (d.pad (match d.precision with | some n => octets.take n | none => octets))
  | 'b' =>
    let (octets, stop) := echoEscapes arg.toList
    { after.emit (d.pad octets) with stopped := stop }
  | 'c' => after.emit (d.pad ((Text.encode arg).take 1))
  | 'd' | 'i' | 'u' => numeric 10 false
  | 'o' => numeric 8 false
  | 'x' => numeric 16 false
  | 'X' => numeric 16 true
  | letter =>
    { p with
      faults := p.faults ++ ["%" ++ letter.toString ++ ": invalid directive"]
      stopped := true }

/-- Reads the flags of a directive. -/
def readFlags : Directive → List Char → Directive × List Char
  | d, '-' :: rest => readFlags { d with left := true } rest
  | d, '0' :: rest => readFlags { d with zero := true } rest
  | d, '+' :: rest => readFlags { d with plus := true } rest
  | d, ' ' :: rest => readFlags { d with space := true } rest
  | d, '#' :: rest => readFlags d rest
  | d, cs => (d, cs)

/-- Reads a directive and the letter at its end. -/
def readDirective (cs : List Char) : Directive × Option Char × List Char :=
  let (d, cs) := readFlags {} cs
  let d := { d with width := Text.digitsValue (cs.takeWhile Text.isDigit) }
  let (d, cs) :=
    match cs.dropWhile Text.isDigit with
    | '.' :: rest =>
      ({ d with precision := some (Text.digitsValue (rest.takeWhile Text.isDigit)) },
        rest.dropWhile Text.isDigit)
    | cs => (d, cs)
  (d, cs.head?, cs.drop 1)

/-- Prints by a format once.  Each step uses up a character of it. -/
def once : Nat → Printing → List Char → Printing
  | 0, p, _ => p
  | _ + 1, p, [] => p
  | fuel + 1, p, c :: rest =>
    if p.stopped then p
    else if c = '%' then
      if rest.head? = some '%' then once fuel (p.emit [37]) (rest.drop 1)
      else
        let (d, letter, rest) := readDirective rest
        match letter with
        | some letter => once fuel (p.convert d letter) rest
        | none => p
    else if c = '\\' then
      match rest with
      | [] => p.emit [92]
      | e :: after =>
        let digits := (rest.take 3).takeWhile isOctal
        match digits, letterEscape? e with
        | _ :: _, _ => once fuel (p.emit [octalOctet digits]) (rest.drop digits.length)
        | [], some octet => once fuel (p.emit [octet]) after
        | [], none =>
          let escaped := if e = '"' ∨ e = '\'' then octetsOf e else octetsOf '\\' ++ octetsOf e
          once fuel (p.emit escaped)
            after
    else once fuel (p.emit (octetsOf c)) rest

/-- Prints by a format until no argument is left, or once if it uses none. -/
def repeated (format : List Char) : Nat → Printing → Printing
  | 0, p => p
  | fuel + 1, p =>
    let after := once (format.length + 1) p format
    if after.stopped || after.args.isEmpty || after.args.length = p.args.length then after
    else repeated format fuel after

end Printing

/-- What `printf` prints, and what is wrong with its arguments. -/
def printf (format : String) (args : List String) : List UInt8 × List String :=
  let p := Printing.repeated format.toList (args.length + 1) { args }
  (p.octets, p.faults)

end LintRun.Shell
