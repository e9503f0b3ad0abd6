import LintRun.Json.Basic
import LintRun.Text.Blank
import LintRun.Text.Decimal

/-!
# Relaxed documents

Documents written by hand: beside the usual grammar they may hold comments, texts in single
quotes, names without quotes, whole numbers in base sixteen and plus signs; commas may be
missing, and one may stand after the last element.

Reading goes in two steps.  The characters are cut into **tokens**, and every token ends
strictly after it began, which is why the first step ends.  Then the tokens are read as one
value, and each step of that uses up a token.
-/

set_option autoImplicit false

namespace LintRun.Json

/-- A token of a document. -/
inductive Token where
  | openBrace
  | closeBrace
  | openBracket
  | closeBracket
  | comma
  | colon
  | null
  | bool (value : Bool)
  | text (value : String)
  /-- A number, as it is written. -/
  | number (text : String)
  /-- A name without quotes. -/
  | word (text : String)
deriving DecidableEq, Repr

namespace Token

/-! ## Texts -/

/-- The value of a digit in base sixteen. -/
def hexDigit? (c : Char) : Option Nat :=
  if '0' ≤ c ∧ c ≤ '9' then some (c.toNat - '0'.toNat)
  else if 'a' ≤ c ∧ c ≤ 'f' then some (c.toNat - 'a'.toNat + 10)
  else if 'A' ≤ c ∧ c ≤ 'F' then some (c.toNat - 'A'.toNat + 10)
  else none

/-- The number that four digits in base sixteen stand for. -/
def hexUnit? (a b c d : Char) : Option Nat := do
  return ((((← hexDigit? a) * 16 + (← hexDigit? b)) * 16 + (← hexDigit? c)) * 16 + (← hexDigit? d))

/-- The character of a pair of units of 16 bits. -/
def pairChar? (high low : Nat) : Option Char :=
  if 0xD800 ≤ high ∧ high < 0xDC00 ∧ 0xDC00 ≤ low ∧ low < 0xE000 then
    some (.ofNat (0x10000 + (high - 0xD800) * 0x400 + (low - 0xDC00)))
  else
    none

/-- The character of one unit of 16 bits. -/
def unitChar? (unit : Nat) : Option Char :=
  if 0xD800 ≤ unit ∧ unit < 0xE000 then none else some (.ofNat unit)

/-- The character that an escape of one letter stands for, inside the given quotes. -/
def escaped? (quote c : Char) : Option Char :=
  match c with
  | '\\' => some '\\'
  | '/' => some '/'
  | 'b' => some '\x08'
  | 'f' => some '\x0c'
  | 'n' => some '\n'
  | 'r' => some '\r'
  | 't' => some '\t'
  | c => if c = quote then some quote else none

/-- Reads a text after its opening quote, and gives what follows its closing quote. -/
def readText? (quote : Char) : List Char → List Char → Option (String × List Char)
  | _, [] => none
  | done, '\\' :: 'u' :: a :: b :: c :: d :: rest =>
    match hexUnit? a b c d with
    | none => none
    | some unit =>
      match unitChar? unit with
      | some char => readText? quote (char :: done) rest
      | none =>
        match rest with
        | '\\' :: 'u' :: e :: f :: g :: h :: rest =>
          match hexUnit? e f g h with
          | none => none
          | some low =>
            match pairChar? unit low with
            | some char => readText? quote (char :: done) rest
            | none => none
        | _ => none
  | done, '\\' :: c :: rest =>
    match escaped? quote c with
    | some char => readText? quote (char :: done) rest
    | none => none
  | done, c :: rest =>
    if c = quote then some (.ofList done.reverse, rest)
    else if c = '\\' then none
    else readText? quote (c :: done) rest
termination_by _ cs => cs.length

/-! ## Numbers and words -/

/-- The digits at the start, of which there must be one. -/
def readDigits? (isDigit : Char → Bool) (cs : List Char) : Option (List Char × List Char) :=
  match cs.takeWhile isDigit with
  | [] => none
  | digits => some (digits, cs.dropWhile isDigit)

/-- The sign at the start, if there is one. -/
def readSign : List Char → List Char × List Char
  | '+' :: rest => (['+'], rest)
  | '-' :: rest => (['-'], rest)
  | cs => ([], cs)

/-- A point and the digits after it, if there is a point. -/
def readFraction? : List Char → Option (List Char × List Char)
  | '.' :: rest => (readDigits? Text.isDigit rest).map fun (digits, rest) => ('.' :: digits, rest)
  | cs => some ([], cs)

/-- An exponent with its sign, if there is one. -/
def readExponent? : List Char → Option (List Char × List Char)
  | cs@(c :: rest) =>
    if c = 'e' ∨ c = 'E' then
      let (sign, rest) := readSign rest
      (readDigits? Text.isDigit rest).map fun (digits, rest) => (c :: sign ++ digits, rest)
    else
      some ([], cs)
  | [] => some ([], [])

/-- The whole part of a number in base ten: a zero on its own, or digits that do not start with
one. -/
def readWhole? : List Char → Option (List Char × List Char)
  | '0' :: rest => some (['0'], rest)
  | cs => readDigits? Text.isDigit cs

/-- Reads a number and gives what follows it. -/
def readNumber? (cs : List Char) : Option (String × List Char) := do
  let (sign, rest) := readSign cs
  let hexadecimal : Option (Char × List Char) :=
    match rest with
    | '0' :: x :: rest => if x = 'x' ∨ x = 'X' then some (x, rest) else none
    | _ => none
  match hexadecimal with
  | some (x, rest) =>
    let (digits, rest) ← readDigits? (fun c => (hexDigit? c).isSome) rest
    return (.ofList (sign ++ '0' :: x :: digits), rest)
  | none =>
    let (whole, rest) ← readWhole? rest
    let (fraction, rest) ← readFraction? rest
    let (exponent, rest) ← readExponent? rest
    return (.ofList (sign ++ whole ++ fraction ++ exponent), rest)

/-- Whether a character may stand in a name without quotes. -/
def isWordChar (c : Char) : Bool :=
  Unicode.isAlphanumeric c.toNat || c == '-' || c == '_'

/-- What follows a fixed word, if the characters start with it and no letter or numeral follows. -/
def dropKeyword? (keyword : String) (cs : List Char) : Option (List Char) :=
  if keyword.toList.isPrefixOf cs then
    let rest := cs.drop keyword.length
    if rest.head?.any (Unicode.isAlphanumeric ·.toNat) then none else some rest
  else
    none

/-- Reads a name without quotes, which only white space, a colon or the end may follow. -/
def readWord? (cs : List Char) : Option (Token × List Char) :=
  let rest := cs.dropWhile isWordChar
  if rest.length < cs.length && rest.head?.all (fun c => Text.isBlank c || c == ':') then
    some (.word (.ofList (cs.takeWhile isWordChar)), rest)
  else
    none

/-! ## Tokens -/

/-- What follows the end of a comment in the middle of a line. -/
def dropBlockComment? : List Char → Option (List Char)
  | '*' :: '/' :: rest => some rest
  | _ :: rest => dropBlockComment? rest
  | [] => none

/-- Reads one token, or white space or a comment, which are none. -/
def read? (cs : List Char) : Option (Option Token × List Char) :=
  match cs with
  | [] => none
  | '\x7b' :: rest => some (some .openBrace, rest)
  | '\x7d' :: rest => some (some .closeBrace, rest)
  | '[' :: rest => some (some .openBracket, rest)
  | ']' :: rest => some (some .closeBracket, rest)
  | ',' :: rest => some (some .comma, rest)
  | ':' :: rest => some (some .colon, rest)
  | '"' :: rest => (readText? '"' [] rest).map fun (value, rest) => (some (.text value), rest)
  | '\'' :: rest => (readText? '\'' [] rest).map fun (value, rest) => (some (.text value), rest)
  | '/' :: '/' :: rest => some (none, rest.dropWhile (· != '\n'))
  | '/' :: '*' :: rest => (dropBlockComment? rest).map (none, ·)
  | c :: rest =>
    if Text.isBlank c then some (none, rest)
    else if c = '-' ∨ c = '+' ∨ Text.isDigit c = true then
      (readNumber? cs).map fun (written, rest) => (some (.number written), rest)
    else
      match dropKeyword? "true" cs, dropKeyword? "false" cs, dropKeyword? "null" cs with
      | some rest, _, _ => some (some (.bool true), rest)
      | _, some rest, _ => some (some (.bool false), rest)
      | _, _, some rest => some (some .null, rest)
      | none, none, none => (readWord? cs).map fun (name, rest) => (some name, rest)

/-- The tokens of a document, unless some of it is none.  What is left must get shorter with
every token. -/
def readAll? (cs : List Char) : Option (List Token) :=
  match cs with
  | [] => some []
  | cs =>
    match read? cs with
    | none => none
    | some (token, rest) =>
      if rest.length < cs.length then
        (readAll? rest).map (token.toList ++ ·)
      else
        none
termination_by cs.length

end Token

/-! ## Values -/

/-- The number that digits in base sixteen stand for. -/
def hexValue (digits : List Char) : Nat :=
  digits.foldl (fun n c => 16 * n + (Token.hexDigit? c).getD 0) 0

/-- Whether the number with these digits and this power of ten is beyond every number of 64
bits with a floating point, after rounding. -/
def exceedsDouble (digits : Nat) (exponent : Int) : Bool :=
  let limit := (1 <<< 1024) - (1 <<< 970)
  let places := (-exponent).toNat
  if digits = 0 then false
  else if 310 ≤ exponent then true
  else if 0 ≤ exponent then limit ≤ digits * Nat.pow 10 exponent.toNat
  else places ≤ digits.log2 && limit * Nat.pow 10 places ≤ digits

/-- Whether a number in base ten without its sign is too large to be one. -/
def isTooLarge (unsigned : List Char) : Bool :=
  let isMark (c : Char) : Bool := c == 'e' || c == 'E'
  let significand := unsigned.takeWhile (!isMark ·)
  let power := (unsigned.dropWhile (!isMark ·)).drop 1
  let fraction := (significand.dropWhile (· != '.')).drop 1
  let (sign, magnitude) := Token.readSign power
  let exponent : Int :=
    if sign = ['-'] then -(Text.digitsValue magnitude) else Text.digitsValue magnitude
  exceedsDouble (Text.digitsValue (significand.filter Text.isDigit))
    (exponent - fraction.length)

/-- The value of a number as it is written.  A number that is too large for any machine word
it could go into stays the text that it is. -/
def ofNumber (written : String) : Json :=
  let (sign, unsigned) := Token.readSign written.toList
  match unsigned with
  | '0' :: x :: digits =>
    if x = 'x' ∨ x = 'X' then
      let value := hexValue digits
      if UInt64.size / 2 ≤ value then .text written
      else if sign = ['-'] ∧ value ≠ 0 then .number ("-" ++ toString value)
      else .natural value
    else
      decimal sign unsigned
  | _ => decimal sign unsigned
where
  /-- The value of a number in base ten. -/
  decimal (sign unsigned : List Char) : Json :=
    if isTooLarge unsigned then .text written
    else if sign ≠ ['-'] ∧ unsigned.all Text.isDigit = true then
      .natural (Text.digitsValue unsigned)
    else
      .number (.ofList ((if sign = ['-'] then sign else []) ++ unsigned))

/-- Leaves out one comma at the start. -/
def skipComma : List Token → List Token
  | .comma :: rest => rest
  | tokens => tokens

/-- The name that a token in front of a colon is. -/
def nameOf? : Token → Option String
  | .text name | .number name | .word name => some name
  | _ => none

mutual

/-- Reads one value and gives the tokens after it. -/
def readValue? : Nat → List Token → Option (Json × List Token)
  | 0, _ => none
  | fuel + 1, tokens =>
    match tokens with
    | .null :: rest => some (.null, rest)
    | .bool value :: rest => some (.bool value, rest)
    | .text value :: rest => some (.text value, rest)
    | .number written :: rest => some (ofNumber written, rest)
    | .openBracket :: rest => readElements? fuel [] rest
    | .openBrace :: rest => readEntries? fuel [] rest
    | _ => none

/-- Reads the elements of a list that are left, with those before them in reverse. -/
def readElements? : Nat → List Json → List Token → Option (Json × List Token)
  | 0, _, _ => none
  | fuel + 1, done, tokens =>
    match tokens with
    | .closeBracket :: rest => some (.array done.reverse, rest)
    | tokens =>
      match readValue? fuel tokens with
      | some (value, rest) => readElements? fuel (value :: done) (skipComma rest)
      | none => none

/-- Reads the entries of an object that are left.  An entry replaces one of the same name. -/
def readEntries? : Nat → List (String × Json) → List Token → Option (Json × List Token)
  | 0, _, _ => none
  | fuel + 1, done, tokens =>
    match tokens with
    | .closeBrace :: rest => some (.object done, rest)
    | name :: .colon :: rest =>
      match nameOf? name, readValue? fuel rest with
      | some name, some (value, rest) => readEntries? fuel (put name value done) (skipComma rest)
      | _, _ => none
    | _ => none

end

/-- Reads a document that holds one value or nothing at all.  Each step uses up a token or ends
the document, so there are no more steps than tokens and one. -/
def readRelaxed? (document : String) : Option (Option Json) :=
  match Token.readAll? document.toList with
  | none => none
  | some [] => some none
  | some tokens =>
    match readValue? (tokens.length + 1) tokens with
    | some (value, []) => some (some value)
    | _ => none

end LintRun.Json
