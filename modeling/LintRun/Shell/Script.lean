/-!
# Shell scripts

Linters are often small shell scripts.  A script is a command, and commands are put together
from **simple commands**, which set variables or run one program.  The **words** of a simple
command are kept in parts, because what a part stands for is known only when the command runs.
-/

set_option autoImplicit false

namespace LintRun.Shell

/-- What takes the place of the value of a parameter. -/
inductive Choice where
  /-- Nothing does. -/
  | value
  /-- Another word does when there is no value. -/
  | whenAbsent
  /-- Another word does when there is a value. -/
  | whenPresent
deriving DecidableEq, Repr

/-- A part of a word.  White space and wildcards have no meaning in a quoted part. -/
inductive WordPart where
  | literal (quoted : Bool) (text : String)
  /-- The value of a parameter, or another word in its place.  A strict choice takes an empty
  value for none. -/
  | parameter (quoted : Bool) (name : String) (choice : Choice) (strict : Bool)
      (other : List WordPart)
  /-- What a script prints. -/
  | output (quoted : Bool) (script : String)
  /-- The value of an arithmetic expression. -/
  | arithmetic (quoted : Bool) (expression : List WordPart)
deriving Repr

/-- A word of a script. -/
abbrev Word := List WordPart

/-- What a redirection does with a descriptor. -/
inductive Redirect where
  | input
  | output
  | append
  /-- Makes the descriptor mean the same as another one. -/
  | duplicate
  /-- Reads the text that the word stands for. -/
  | document
deriving DecidableEq, Repr

/-- A redirection of a descriptor to what a word stands for. -/
structure Redirection where
  descriptor : Nat
  redirect : Redirect
  target : Word
deriving Repr

/-- A simple command: what runs one program or sets variables. -/
structure SimpleCommand where
  /-- The line of the script that the command is on. -/
  line : Nat
  assignments : List (String × Word) := []
  words : List Word := []
  redirections : List Redirection := []
deriving Repr

/-- A command of a script. -/
inductive Command where
  | nothing
  | simple (command : SimpleCommand)
  /-- Commands of which each reads what the one before it prints. -/
  | pipeline (first second : Command)
  /-- A command whose success is turned around. -/
  | negated (command : Command)
  /-- A second command that runs if the first one has success. -/
  | both (first second : Command)
  /-- A second command that runs if the first one has no success. -/
  | either (first second : Command)
  | sequence (first second : Command)
  /-- A command that the script does not wait for. -/
  | background (command : Command)
  /-- A command that runs on a copy of the state. -/
  | subshell (command : Command)
  | redirected (command : Command) (redirections : List Redirection)
  | conditional (test yes no : Command)
  /-- A command that runs once for each field of some words, or for each argument. -/
  | each (name : String) (words : Option (List Word)) (body : Command)
  /-- A command that runs as long as the success of a test is as expected. -/
  | loop (expected : Bool) (test body : Command)
  /-- The first command whose patterns a word matches. -/
  | select (word : Word) (branches : List (List Word × Command))
  /-- A command that gets a name. -/
  | define (name : String) (body : Command)
deriving Repr

/-- Why a script cannot be read. -/
inductive SyntaxFault where
  | openQuote
  | unexpected (token : String)
  /-- The end of the script, and the word that had to come. -/
  | unexpectedEnd (expected : Option String)
  | openBrace
  | badLoopVariable
  | badSubstitution
deriving DecidableEq, Repr

/-- The message about a script that cannot be read. -/
def SyntaxFault.message : SyntaxFault → String
  | .openQuote => "Syntax error: Unterminated quoted string"
  | .unexpected token => "Syntax error: " ++ token ++ " unexpected"
  | .unexpectedEnd none => "Syntax error: end of file unexpected"
  | .unexpectedEnd (some word) =>
    "Syntax error: end of file unexpected (expecting \"" ++ word ++ "\")"
  | .openBrace => "Syntax error: Missing '\x7d'"
  | .badLoopVariable => "Syntax error: Bad for loop variable"
  | .badSubstitution => "Bad substitution"

end LintRun.Shell
