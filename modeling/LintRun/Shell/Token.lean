import LintRun.Shell.Script
import LintRun.Text.Decimal

/-!
# Tokens of shell scripts

A script is cut into words, operators and line ends.  A word ends at white space or at an
operator outside of quotes.  A number right before a redirection belongs to it.
-/

set_option autoImplicit false

namespace LintRun.Shell

/-- A token of a script. -/
inductive Token where
  | word (parts : Word)
  | operator (text : String)
  /-- The descriptor of the redirection that follows. -/
  | descriptor (number : Nat)
  | lineEnd
deriving Repr

namespace Token

/-- Whether a character separates words of one line. -/
def isGap (c : Char) : Bool :=
  c == ' ' || c == '\t'

/-- Whether a character ends a word outside of quotes. -/
def endsWord (c : Char) : Bool :=
  isGap c || c == '\n' || c == ';' || c == '&' || c == '|' || c == '<' || c == '>' ||
    c == '(' || c == ')'

/-- Whether the name of a parameter may start with a character. -/
def startsName (c : Char) : Bool :=
  ('a' ≤ c && c ≤ 'z') || ('A' ≤ c && c ≤ 'Z') || c == '_'

/-- Whether a character may stand in the name of a parameter. -/
def continuesName (c : Char) : Bool :=
  startsName c || Text.isDigit c

/-- Whether a character is the whole name of a parameter. -/
def isSpecialName (c : Char) : Bool :=
  Text.isDigit c || c == '@' || c == '*' || c == '#' || c == '?' || c == '$' || c == '!'

/-- Where a reader of a nested script stands. -/
inductive Nesting where
  | plain
  | escaped
  | single
  | double
  | doubleEscaped
deriving DecidableEq, Repr

/-- The characters up to the parenthesis that closes a nested script, and those after it. -/
def nestedScript? : Nat → Nesting → List Char → Option (List Char × List Char)
  | _, _, [] => none
  | depth, .plain, c :: rest =>
    if c = ')' then
      match depth with
      | 0 => some ([], rest)
      | depth + 1 => (nestedScript? depth .plain rest).map fun (s, r) => (c :: s, r)
    else
      let depth := if c = '(' then depth + 1 else depth
      let nesting :=
        if c = '\\' then .escaped
        else if c = '\'' then .single
        else if c = '"' then .double
        else .plain
      (nestedScript? depth nesting rest).map fun (s, r) => (c :: s, r)
  | depth, .escaped, c :: rest =>
    (nestedScript? depth .plain rest).map fun (s, r) => (c :: s, r)
  | depth, .single, c :: rest =>
    (nestedScript? depth (if c = '\'' then .plain else .single) rest).map fun (s, r) => (c :: s, r)
  | depth, .double, c :: rest =>
    let nesting := if c = '\\' then .doubleEscaped else if c = '"' then .plain else .double
    (nestedScript? depth nesting rest).map fun (s, r) => (c :: s, r)
  | depth, .doubleEscaped, c :: rest =>
    (nestedScript? depth .double rest).map fun (s, r) => (c :: s, r)

/-- The characters up to the backquote that closes a nested script, and those after it. -/
def backquoted? : List Char → Option (List Char × List Char)
  | [] => none
  | '\x60' :: rest => some ([], rest)
  | '\\' :: c :: rest =>
    (backquoted? rest).map fun (s, r) =>
      (if c = '\x60' ∨ c = '\\' ∨ c = '$' then c :: s else '\\' :: c :: s, r)
  | c :: rest => (backquoted? rest).map fun (s, r) => (c :: s, r)

/-- Puts a literal character in front of the parts of a word. -/
def consLiteral (quoted : Bool) (c : Char) : Word → Word
  | .literal q text :: parts =>
    if q = quoted then .literal q (c.toString ++ text) :: parts
    else .literal quoted c.toString :: .literal q text :: parts
  | parts => .literal quoted c.toString :: parts

/-- Reads the name of a parameter. -/
def readName? : List Char → Option (String × List Char)
  | c :: rest =>
    if isSpecialName c then some (c.toString, rest)
    else if startsName c then
      some (.ofList ((c :: rest).takeWhile continuesName), (c :: rest).dropWhile continuesName)
    else none
  | [] => none

/-- How the value of a parameter is chosen, and whether an empty one counts for none. -/
def readChoice? : List Char → Option (Choice × Bool × List Char)
  | ':' :: '-' :: rest | ':' :: '=' :: rest => some (.whenAbsent, true, rest)
  | ':' :: '+' :: rest => some (.whenPresent, true, rest)
  | '-' :: rest | '=' :: rest => some (.whenAbsent, false, rest)
  | '+' :: rest => some (.whenPresent, false, rest)
  | _ => none

mutual

/-- Reads the parts of a word up to a character outside of inner quotes at which it ends.  Each
step uses up a character. -/
def readParts (ends : Char → Bool) (quoted : Bool) :
    Nat → List Char → Except SyntaxFault (Word × List Char)
  | 0, cs => .ok ([], cs)
  | _ + 1, [] => .ok ([], [])
  | fuel + 1, c :: rest => do
    if ends c then
      return ([], c :: rest)
    else if c = '\\' then
      match rest with
      | [] => return ([.literal true "\\"], [])
      | e :: rest =>
        if e = '\n' then
          readParts ends quoted fuel rest
        else
          let (parts, after) ← readParts ends quoted fuel rest
          if !quoted || e == '$' || e == '\x60' || e == '"' || e == '\\' then
            return (consLiteral true e parts, after)
          else
            return (consLiteral true '\\' (consLiteral true e parts), after)
    else if c = '\'' ∧ quoted = false then
      match rest.dropWhile (· != '\'') with
      | [] => throw .openQuote
      | _ :: after =>
        let (parts, after) ← readParts ends quoted fuel after
        return (.literal true (.ofList (rest.takeWhile (· != '\''))) :: parts, after)
    else if c = '"' ∧ quoted = false then
      match ← readParts (· == '"') true fuel rest with
      | (inner, _ :: after) =>
        let (parts, after) ← readParts ends quoted fuel after
        return ((if inner.isEmpty then [.literal true ""] else inner) ++ parts, after)
      | (_, []) => throw .openQuote
    else if c = '\x60' then
      match backquoted? rest with
      | none => throw .openQuote
      | some (script, after) =>
        let (parts, after) ← readParts ends quoted fuel after
        return (.output quoted (.ofList script) :: parts, after)
    else if c = '$' then
      match ← readExpansion? quoted fuel rest with
      | some (part, after) =>
        let (parts, after) ← readParts ends quoted fuel after
        return (part :: parts, after)
      | none =>
        let (parts, after) ← readParts ends quoted fuel rest
        return (consLiteral quoted '$' parts, after)
    else
      let (parts, after) ← readParts ends quoted fuel rest
      return (consLiteral quoted c parts, after)

/-- Reads what follows a dollar sign, if it is an expansion. -/
def readExpansion? (quoted : Bool) :
    Nat → List Char → Except SyntaxFault (Option (WordPart × List Char))
  | 0, _ => .ok none
  | fuel + 1, '(' :: rest =>
    let arithmetic : Option (List Char × List Char) :=
      match rest with
      | '(' :: inner =>
        match nestedScript? 0 .plain inner with
        | some (expression, ')' :: after) => some (expression, after)
        | _ => none
      | _ => none
    match arithmetic, nestedScript? 0 .plain rest with
    | some (expression, after), _ => do
      let (parts, _) ← readParts (fun _ => false) true fuel expression
      return some (.arithmetic quoted parts, after)
    | none, some (script, after) => .ok (some (.output quoted (.ofList script), after))
    | none, none => .error (.unexpectedEnd (some ")"))
  | fuel + 1, '\x7b' :: rest =>
    match readName? rest with
    | none => .error (if rest.isEmpty then .openBrace else .badSubstitution)
    | some (name, '\x7d' :: after) => .ok (some (.parameter quoted name .value false [], after))
    | some (name, rest) =>
      match name, readName? rest, readChoice? rest with
      | "#", some (name, '\x7d' :: after), _ =>
        .ok (some (.parameter quoted ("#" ++ name) .value false [], after))
      | _, _, some (choice, strict, rest) => do
        match ← readParts (· == '\x7d') quoted fuel rest with
        | (other, _ :: after) => return some (.parameter quoted name choice strict other, after)
        | (_, []) => throw .openBrace
      | _, _, none => .error (if rest.isEmpty then .openBrace else .badSubstitution)
  | _ + 1, cs =>
    match readName? cs with
    | some (name, after) => .ok (some (.parameter quoted name .value false [], after))
    | none => .ok none

end

/-- The operators, longer ones first. -/
def operators : List String :=
  ["<<-", "&&", "||", ";;", ">>", "<<", ">&", "<&", ">|", ";", "&", "|", "<", ">", "(", ")"]

/-- The operator that some characters start with. -/
def operator? (cs : List Char) : Option String :=
  operators.find? (·.toList.isPrefixOf cs)

/-- The number before a redirection that some characters start with. -/
def descriptor? (cs : List Char) : Option (Nat × List Char) :=
  let digits := cs.takeWhile Text.isDigit
  let rest := cs.dropWhile Text.isDigit
  if digits ≠ [] ∧ (rest.head? = some '<' ∨ rest.head? = some '>') then
    some (Text.digitsValue digits, rest)
  else
    none

/-- The lines of a document up to the line that ends it, and what follows that line. -/
def readDocument (dropTabs : Bool) (last : List Char) : Nat → List Char → List Char × List Char
  | 0, cs => ([], cs)
  | _ + 1, [] => ([], [])
  | fuel + 1, cs =>
    let cs := if dropTabs then cs.dropWhile (· == '\t') else cs
    let line := cs.takeWhile (· != '\n')
    let rest := (cs.dropWhile (· != '\n')).drop 1
    if line = last then ([], rest)
    else
      let (more, after) := readDocument dropTabs last fuel rest
      (line ++ '\n' :: more, after)

/-- The text of a word without quotes, and whether any of it was quoted. -/
def documentEnd (ending : Word) : List Char × Bool :=
  ending.foldl (fun (text, quoted) part =>
    match part with
    | .literal q t => (text ++ t.toList, quoted || q)
    | _ => (text, quoted)) ([], false)

/-- Reads the word that ends a document and takes the document out of the lines that follow.
Gives what the document stands for and the characters without it. -/
def takeDocument? (dropTabs : Bool) (cs : List Char) :
    Except SyntaxFault (Word × List Char) := do
  let (ending, rest) ← readParts endsWord false (cs.length + 1) (cs.dropWhile isGap)
  let (last, quoted) := documentEnd ending
  let line := rest.takeWhile (· != '\n')
  let (content, after) :=
    readDocument dropTabs last rest.length ((rest.dropWhile (· != '\n')).drop 1)
  if quoted then
    return ([.literal true (.ofList content)], line ++ '\n' :: after)
  else
    let (parts, _) ← readParts (fun _ => false) true (content.length + 1) content
    return (parts, line ++ '\n' :: after)

/-- The tokens of a script, each with the number of its line, up to a fault if there is one.
Each step uses up a character. -/
def readFrom : Nat → Nat → List Char → List (Token × Nat) × Option SyntaxFault
  | 0, _, _ => ([], none)
  | _ + 1, _, [] => ([], none)
  | fuel + 1, line, c :: rest =>
    let cs := c :: rest
    let followedBy (token : Token) (line : Nat) (rest : List Char) :
        List (Token × Nat) × Option SyntaxFault :=
      let (tokens, fault) := readFrom fuel (if c = '\n' then line + 1 else line) rest
      ((token, line) :: tokens, fault)
    if c = '\n' then followedBy .lineEnd line rest
    else if isGap c then readFrom fuel line rest
    else if c = '#' then readFrom fuel line (rest.dropWhile (· != '\n'))
    else if c = '\\' ∧ rest.head? = some '\n' then readFrom fuel (line + 1) (rest.drop 1)
    else
      match descriptor? cs, operator? cs with
      | some (number, rest), _ => followedBy (.descriptor number) line rest
      | none, some symbol =>
        if symbol = "<<" ∨ symbol = "<<-" then
          match takeDocument? (symbol = "<<-") (cs.drop symbol.length) with
          | .error fault => ([], some fault)
          | .ok (parts, rest) =>
            let (tokens, fault) := readFrom fuel line rest
            ((.operator "<<", line) :: (.word parts, line) :: tokens, fault)
        else
          followedBy (.operator symbol) line (cs.drop symbol.length)
      | none, none =>
        match readParts endsWord false (cs.length + 1) cs with
        | .error fault => ([], some fault)
        | .ok (parts, rest) =>
          let inside := (cs.take (cs.length - rest.length)).count '\n'
          let (tokens, fault) := readFrom fuel (line + inside) rest
          ((.word parts, line) :: tokens, fault)

/-- The tokens of a script, each with the number of its line, up to a fault if there is one. -/
def readAll (script : List Char) : List (Token × Nat) × Option SyntaxFault :=
  readFrom (script.length + 1) 1 script

end Token

end LintRun.Shell
