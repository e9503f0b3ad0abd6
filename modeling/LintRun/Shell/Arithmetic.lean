import LintRun.Text.Decimal

/-!
# Arithmetic of shell scripts

Expressions over whole numbers.  An operator of a higher level binds more tightly, and
operators of one level are taken from left to right.  A comparison is one or zero.
-/

set_option autoImplicit false

namespace LintRun.Shell.Arithmetic

/-- A token of an expression. -/
inductive Token where
  | number (value : Int)
  | name (text : String)
  | symbol (text : String)
deriving DecidableEq, Repr

/-- The operators and parentheses, longer ones first. -/
def symbols : List String :=
  ["&&", "||", "==", "!=", "<=", ">=", "<<", ">>", "<", ">", "+", "-", "*", "/", "%", "!", "~", "&",
    "|", "^", "(", ")"]

/-- Whether a character may stand in a name. -/
def isNameChar (c : Char) : Bool :=
  c.isAlphanum || c == '_'

/-- The tokens of an expression.  Each step uses up a character. -/
def readAll? : Nat → List Char → Option (List Token)
  | 0, _ => none
  | _ + 1, [] => some []
  | fuel + 1, c :: rest =>
    let cs := c :: rest
    if c = ' ' ∨ c = '\t' ∨ c = '\n' then readAll? fuel rest
    else if Text.isDigit c then
      (readAll? fuel (cs.dropWhile Text.isDigit)).map
        (.number (Text.digitsValue (cs.takeWhile Text.isDigit)) :: ·)
    else if isNameChar c then
      (readAll? fuel (cs.dropWhile isNameChar)).map
        (.name (.ofList (cs.takeWhile isNameChar)) :: ·)
    else
      match symbols.find? (·.toList.isPrefixOf cs) with
      | some text => (readAll? fuel (cs.drop text.length)).map (.symbol text :: ·)
      | none => none

/-- How tightly an operator between two operands binds. -/
def level? : String → Option Nat
  | "||" => some 1
  | "&&" => some 2
  | "|" => some 3
  | "^" => some 4
  | "&" => some 5
  | "==" | "!=" => some 6
  | "<" | "<=" | ">" | ">=" => some 7
  | "<<" | ">>" => some 8
  | "+" | "-" => some 9
  | "*" | "/" | "%" => some 10
  | _ => none

/-- One for what holds and zero for what does not. -/
def truth (holds : Bool) : Int :=
  if holds then 1 else 0

/-- Numbers are signed words of 64 bits, and what does not fit wraps around. -/
def word (n : Int) : Int :=
  n.bmod UInt64.size

/-- Combines two numbers bit by bit. -/
def bits (f : BitVec 64 → BitVec 64 → BitVec 64) (a b : Int) : Int :=
  (f (BitVec.ofInt 64 a) (BitVec.ofInt 64 b)).toInt

/-- The value of an operator between two operands.  Nothing is divided by zero. -/
def combine? (operator : String) (a b : Int) : Option Int :=
  match operator with
  | "||" => some (truth (a != 0 || b != 0))
  | "&&" => some (truth (a != 0 && b != 0))
  | "|" => some (bits (· ||| ·) a b)
  | "^" => some (bits (· ^^^ ·) a b)
  | "&" => some (bits (· &&& ·) a b)
  | "==" => some (truth (a == b))
  | "!=" => some (truth (a != b))
  | "<" => some (truth (a < b))
  | "<=" => some (truth (a ≤ b))
  | ">" => some (truth (b < a))
  | ">=" => some (truth (b ≤ a))
  | "<<" => some (word (a <<< (b % 64).toNat))
  | ">>" => some (a >>> (b % 64).toNat)
  | "+" => some (word (a + b))
  | "-" => some (word (a - b))
  | "*" => some (word (a * b))
  | "/" => if b = 0 then none else some (word (a.tdiv b))
  | "%" => if b = 0 then none else some (a.tmod b)
  | _ => none

mutual

/-- Reads an expression whose operators have at least the given level.  Each step uses up a
token or leads to one that does. -/
def expression? (value : String → Int) (least : Nat) :
    Nat → List Token → Option (Int × List Token)
  | 0, _ => none
  | fuel + 1, tokens => do
    let (a, rest) ← operand? value fuel tokens
    operators? value least fuel a rest

/-- Reads the operators after an operand. -/
def operators? (value : String → Int) (least : Nat) :
    Nat → Int → List Token → Option (Int × List Token)
  | 0, _, _ => none
  | fuel + 1, a, tokens =>
    match tokens with
    | .symbol text :: rest =>
      match level? text with
      | some level =>
        if least ≤ level then do
          let (b, rest) ← expression? value (level + 1) fuel rest
          operators? value least fuel (← combine? text a b) rest
        else
          some (a, tokens)
      | none => some (a, tokens)
    | tokens => some (a, tokens)

/-- Reads an operand. -/
def operand? (value : String → Int) : Nat → List Token → Option (Int × List Token)
  | 0, _ => none
  | fuel + 1, tokens =>
    match tokens with
    | .number n :: rest => some (n, rest)
    | .name text :: rest => some (value text, rest)
    | .symbol "(" :: rest =>
      match expression? value 0 fuel rest with
      | some (n, .symbol ")" :: rest) => some (n, rest)
      | _ => none
    | .symbol "-" :: rest => (operand? value fuel rest).map fun (n, rest) => (word (-n), rest)
    | .symbol "+" :: rest => operand? value fuel rest
    | .symbol "!" :: rest => (operand? value fuel rest).map fun (n, rest) => (truth (n == 0), rest)
    | .symbol "~" :: rest => (operand? value fuel rest).map fun (n, rest) => (-n - 1, rest)
    | _ => none

end

/-- The value of an expression; an empty one is zero. -/
def evaluate? (value : String → Int) (text : String) : Option Int :=
  match readAll? (text.length + 1) text.toList with
  | none => none
  | some [] => some 0
  | some tokens =>
    match expression? value 0 (4 * tokens.length + 4) tokens with
    | some (n, []) => some n
    | _ => none

end LintRun.Shell.Arithmetic
