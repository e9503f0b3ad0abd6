import LintRun.Shell.Token

/-!
# Reading shell scripts

A script is read line by line, where a line goes on as long as a command in it is not complete.
Commands before a line that cannot be read are carried out, so reading gives the commands of
the lines and then the fault, if there is one.
-/

set_option autoImplicit false

namespace LintRun.Shell

/-- The commands of a script, line by line, and the line and the kind of the first fault. -/
structure Script where
  commands : List Command
  fault : Option (Nat × SyntaxFault)
deriving Repr

namespace Script

/-- Tokens with the numbers of their lines. -/
abbrev Tokens := List (Token × Nat)

/-- The words that end or divide a command that is made of others. -/
def closers : List String := ["then", "else", "elif", "fi", "do", "done", "esac", "\x7d"]

/-- The text of a word without quotes and expansions. -/
def plainWord? : Token → Option String
  | .word [.literal false text] => some text
  | _ => none

/-- Whether no command starts with these tokens. -/
def isClosed : Tokens → Bool
  | [] => true
  | (.operator symbol, _) :: _ => symbol == ")" || symbol == ";;"
  | (token, _) :: _ => (plainWord? token).any closers.contains

/-- The fault of tokens that do not go on as they must. -/
def faultAt : Tokens → SyntaxFault
  | [] => .unexpectedEnd none
  | (.operator symbol, _) :: _ => .unexpected ("\"" ++ symbol ++ "\"")
  | (.lineEnd, _) :: _ => .unexpected "newline"
  | (.descriptor _, _) :: _ => .unexpected "word"
  | (.word parts, _) :: _ =>
    match plainWord? (.word parts) with
    | some text =>
      if closers.contains text then .unexpected ("\"" ++ text ++ "\"") else .unexpected "word"
    | none => .unexpected "word"

/-- The tokens after the ends of lines. -/
def skipLineEnds : Tokens → Tokens
  | (.lineEnd, _) :: rest => skipLineEnds rest
  | tokens => tokens

/-- The tokens after a word that must come next. -/
def expectWord (word : String) : Tokens → Except SyntaxFault Tokens
  | tokens@((token, _) :: rest) =>
    if plainWord? token = some word then .ok rest else .error (faultAt tokens)
  | [] => .error (.unexpectedEnd (some word))

/-- The tokens after an operator that must come next. -/
def expectOperator (symbol : String) : Tokens → Except SyntaxFault Tokens
  | tokens@((.operator found, _) :: rest) =>
    if found = symbol then .ok rest else .error (faultAt tokens)
  | [] => .error (.unexpectedEnd (some symbol))
  | tokens => .error (faultAt tokens)

/-- The name and the value of an assignment that a word is. -/
def assignment? : Word → Option (String × Word)
  | .literal false text :: parts =>
    let name := text.toList.takeWhile Token.continuesName
    match text.toList.dropWhile Token.continuesName with
    | '=' :: value =>
      if name.head?.any Token.startsName then
        some (.ofList name, if value = [] then parts else .literal false (.ofList value) :: parts)
      else
        none
    | _ => none
  | _ => none

/-- What an operator redirects, and which descriptor unless one is named. -/
def redirect? : String → Option (Redirect × Nat)
  | "<" => some (.input, 0)
  | ">" | ">|" => some (.output, 1)
  | ">>" => some (.append, 1)
  | ">&" => some (.duplicate, 1)
  | "<&" => some (.duplicate, 0)
  | "<<" => some (.document, 0)
  | _ => none

/-- Reads one redirection, if one comes next. -/
def redirection? : Tokens → Option (Redirection × Tokens)
  | (.descriptor number, _) :: (.operator symbol, _) :: (.word target, _) :: rest =>
    (redirect? symbol).map fun (redirect, _) => (⟨number, redirect, target⟩, rest)
  | (.operator symbol, _) :: (.word target, _) :: rest =>
    (redirect? symbol).map fun (redirect, number) => (⟨number, redirect, target⟩, rest)
  | _ => none

theorem length_redirection? {tokens rest : Tokens} {r : Redirection}
    (h : redirection? tokens = some (r, rest)) : rest.length < tokens.length := by
  unfold redirection? at h
  split at h
  · obtain ⟨_, _, eq⟩ := Option.map_eq_some_iff.mp h
    obtain ⟨_, rfl⟩ := Prod.mk.inj eq
    simp only [List.length_cons]
    omega
  · obtain ⟨_, _, eq⟩ := Option.map_eq_some_iff.mp h
    obtain ⟨_, rfl⟩ := Prod.mk.inj eq
    simp only [List.length_cons]
    omega
  · simp at h

/-- Reads the redirections that come next. -/
def redirections (tokens : Tokens) : List Redirection × Tokens :=
  match _h : redirection? tokens with
  | some (r, rest) =>
    let (more, after) := redirections rest
    (r :: more, after)
  | none => ([], tokens)
termination_by tokens.length
decreasing_by exact length_redirection? _h

/-- Reads the rest of a simple command. -/
def simpleFrom : SimpleCommand → Nat → Tokens → SimpleCommand × Tokens
  | command, 0, tokens => (command, tokens)
  | command, fuel + 1, tokens =>
    match redirection? tokens with
    | some (r, rest) =>
      simpleFrom { command with redirections := command.redirections ++ [r] } fuel rest
    | none =>
      match tokens with
      | (.word parts, _) :: rest =>
        match command.words, assignment? parts with
        | [], some a =>
          simpleFrom { command with assignments := command.assignments ++ [a] } fuel rest
        | _, _ => simpleFrom { command with words := command.words ++ [parts] } fuel rest
      | tokens => (command, tokens)

/-- Reads a simple command, which must not be empty. -/
def simple (tokens : Tokens) : Except SyntaxFault (Command × Tokens) :=
  match tokens with
  | [] => .error (.unexpectedEnd none)
  | (_, line) :: _ =>
    let (command, rest) := simpleFrom { line } (tokens.length + 1) tokens
    if rest.length < tokens.length then .ok (.simple command, rest) else .error (faultAt tokens)

/-- The words of a list up to the first token that is none. -/
def wordList : Tokens → List Word × Tokens
  | (.word parts, _) :: rest =>
    let (words, after) := wordList rest
    (parts :: words, after)
  | tokens => ([], tokens)

/-- The words between vertical bars, up to a closing parenthesis, and the tokens after it. -/
def patterns : Tokens → Except SyntaxFault (List Word × Tokens)
  | (.word parts, _) :: (.operator ")", _) :: rest => .ok ([parts], rest)
  | (.word parts, _) :: (.operator "|", _) :: rest => do
    let (more, after) ← patterns rest
    return (parts :: more, after)
  | (.word _, _) :: rest => .error (faultAt rest)
  | tokens => .error (faultAt tokens)

/-- The name of a function that a definition begins with, and the tokens after it. -/
def functionName? : Tokens → Option (String × Tokens)
  | (token, _) :: (.operator "(", _) :: (.operator ")", _) :: rest =>
    (plainWord? token).map (·, rest)
  | _ => none

/-- The tokens after one semicolon and after the ends of lines. -/
def skipSeparator : Tokens → Tokens
  | (.operator ";", _) :: rest => skipLineEnds rest
  | tokens => skipLineEnds tokens

mutual

/-- Reads commands that follow one another, to the end of the line or of the commands that
belong together.  Each step of these readers uses up a token or leads to one that does within a
fixed number of steps. -/
def sequenceFrom (oneLine : Bool) :
    Nat → Command → Tokens → Except SyntaxFault (Command × Tokens)
  | 0, _, tokens => .error (faultAt tokens)
  | fuel + 1, before, tokens => do
    let tokens := if oneLine then tokens else skipLineEnds tokens
    if isClosed tokens then
      return (before, tokens)
    match tokens with
    | (.lineEnd, _) :: _ => return (before, tokens)
    | _ =>
      let (command, rest) ← andOr fuel tokens
      match rest with
      | (.operator ";", _) :: rest => sequenceFrom oneLine fuel (.sequence before command) rest
      | (.operator "&", _) :: rest =>
        sequenceFrom oneLine fuel (.sequence before (.background command)) rest
      | (.lineEnd, _) :: _ =>
        if oneLine then return (.sequence before command, rest)
        else sequenceFrom oneLine fuel (.sequence before command) rest
      | rest =>
        if isClosed rest then return (.sequence before command, rest)
        else throw (faultAt rest)

/-- Reads pipelines of which each runs depending on the success of those before it. -/
def andOr : Nat → Tokens → Except SyntaxFault (Command × Tokens)
  | 0, tokens => .error (faultAt tokens)
  | fuel + 1, tokens => do
    let (command, rest) ← pipeline fuel tokens
    andOrFrom fuel command rest

/-- Reads what follows the first of several pipelines. -/
def andOrFrom : Nat → Command → Tokens → Except SyntaxFault (Command × Tokens)
  | 0, _, tokens => .error (faultAt tokens)
  | fuel + 1, before, tokens =>
    match tokens with
    | (.operator "&&", _) :: rest => do
      let (command, rest) ← pipeline fuel (skipLineEnds rest)
      andOrFrom fuel (.both before command) rest
    | (.operator "||", _) :: rest => do
      let (command, rest) ← pipeline fuel (skipLineEnds rest)
      andOrFrom fuel (.either before command) rest
    | tokens => .ok (before, tokens)

/-- Reads a pipeline. -/
def pipeline : Nat → Tokens → Except SyntaxFault (Command × Tokens)
  | 0, tokens => .error (faultAt tokens)
  | fuel + 1, tokens =>
    match tokens with
    | (.word [.literal false "!"], _) :: rest => do
      let (command, rest) ← pipeline fuel rest
      return (.negated command, rest)
    | tokens => do
      let (command, rest) ← compound fuel tokens
      match rest with
      | (.operator "|", _) :: rest =>
        let (second, rest) ← pipeline fuel (skipLineEnds rest)
        return (.pipeline command second, rest)
      | rest => return (command, rest)

/-- Reads a command and its redirections. -/
def compound : Nat → Tokens → Except SyntaxFault (Command × Tokens)
  | 0, tokens => .error (faultAt tokens)
  | fuel + 1, tokens => do
    let (command, rest) ← match tokens with
      | (.operator "(", _) :: rest => do
        let (body, rest) ← sequenceFrom false fuel .nothing rest
        pure (Command.subshell body, ← expectOperator ")" rest)
      | (.word [.literal false "\x7b"], _) :: rest => do
        let (body, rest) ← sequenceFrom false fuel .nothing rest
        pure (body, ← expectWord "\x7d" rest)
      | (.word [.literal false "if"], _) :: rest => conditional fuel rest
      | (.word [.literal false "while"], _) :: rest => loop true fuel rest
      | (.word [.literal false "until"], _) :: rest => loop false fuel rest
      | (.word [.literal false "for"], _) :: (token, _) :: rest => do
        let name ← match plainWord? token with
          | some name => pure name
          | none => throw .badLoopVariable
        let rest := skipLineEnds rest
        let (words, rest) := match rest with
          | (.word [.literal false "in"], _) :: rest =>
            let (words, rest) := wordList rest
            (some words, rest)
          | rest => (none, rest)
        let rest ← expectWord "do" (skipSeparator rest)
        let (body, rest) ← sequenceFrom false fuel .nothing rest
        pure (Command.each name words body, ← expectWord "done" rest)
      | (.word [.literal false "for"], _) :: [] => throw .badLoopVariable
      | (.word [.literal false "case"], _) :: (.word word, _) :: rest => do
        let rest ← expectWord "in" (skipLineEnds rest)
        let (branches, rest) ← branchesFrom fuel rest
        pure (Command.select word branches, rest)
      | tokens =>
        match functionName? tokens with
        | some (name, rest) => do
          let (body, rest) ← compound fuel (skipLineEnds rest)
          pure (Command.define name body, rest)
        | none => if isClosed tokens then throw (faultAt tokens) else simple tokens
    match redirections rest with
    | ([], rest) => return (command, rest)
    | (rs, rest) => return (.redirected command rs, rest)

/-- Reads the rest of a conditional command. -/
def conditional : Nat → Tokens → Except SyntaxFault (Command × Tokens)
  | 0, tokens => .error (faultAt tokens)
  | fuel + 1, tokens => do
    let (test, rest) ← sequenceFrom false fuel .nothing tokens
    let rest ← expectWord "then" rest
    let (yes, rest) ← sequenceFrom false fuel .nothing rest
    match rest with
    | (.word [.literal false "elif"], _) :: rest =>
      let (no, rest) ← conditional fuel rest
      return (.conditional test yes no, rest)
    | (.word [.literal false "else"], _) :: rest =>
      let (no, rest) ← sequenceFrom false fuel .nothing rest
      return (.conditional test yes no, ← expectWord "fi" rest)
    | rest => return (.conditional test yes .nothing, ← expectWord "fi" rest)

/-- Reads the branches of a selection that are left. -/
def branchesFrom : Nat → Tokens → Except SyntaxFault (List (List Word × Command) × Tokens)
  | 0, tokens => .error (faultAt tokens)
  | fuel + 1, tokens =>
    match skipLineEnds tokens with
    | (.word [.literal false "esac"], _) :: rest => .ok ([], rest)
    | tokens => do
      let tokens := match tokens with
        | (.operator "(", _) :: rest => rest
        | tokens => tokens
      let (words, rest) ← patterns tokens
      let (body, rest) ← sequenceFrom false fuel .nothing rest
      match rest with
      | (.operator ";;", _) :: rest =>
        let (more, rest) ← branchesFrom fuel rest
        return ((words, body) :: more, rest)
      | rest => return ([(words, body)], ← expectWord "esac" rest)

/-- Reads the rest of a loop. -/
def loop (expected : Bool) : Nat → Tokens → Except SyntaxFault (Command × Tokens)
  | 0, tokens => .error (faultAt tokens)
  | fuel + 1, tokens => do
    let (test, rest) ← sequenceFrom false fuel .nothing tokens
    let rest ← expectWord "do" rest
    let (body, rest) ← sequenceFrom false fuel .nothing rest
    return (.loop expected test body, ← expectWord "done" rest)

end

/-- Reads the lines of a script.  Each line uses up a token. -/
def linesFrom (lexical : Option (Nat × SyntaxFault)) : Nat → Tokens → Script
  | 0, _ => ⟨[], lexical⟩
  | fuel + 1, tokens =>
    match skipLineEnds tokens with
    | [] => ⟨[], lexical⟩
    | tokens@((_, line) :: _) =>
      match sequenceFrom true (8 * tokens.length + 8) .nothing tokens with
      | .error fault =>
        match fault, lexical with
        | .unexpectedEnd _, some lexical => ⟨[], some lexical⟩
        | _, _ => ⟨[], some (line, fault)⟩
      | .ok (command, []) =>
        if lexical.isSome then ⟨[], lexical⟩ else ⟨[command], none⟩
      | .ok (command, (.lineEnd, _) :: rest) =>
        let script := linesFrom lexical fuel rest
        { script with commands := command :: script.commands }
      | .ok (_, rest) => ⟨[], some (line, faultAt rest)⟩

/-- Reads a script. -/
def parse (script : String) : Script :=
  let (tokens, fault) := Token.readAll script.toList
  let lastLine := (tokens.getLast?.map (·.2)).getD 1
  linesFrom (fault.map (lastLine, ·)) (tokens.length + 1) tokens

end Script

end LintRun.Shell
