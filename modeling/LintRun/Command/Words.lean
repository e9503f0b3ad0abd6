/-!
# Words of a command line

A command is split into words as a shell does it: white space separates words, quotes keep
characters together, a backslash takes the meaning from the next character, and a hash at the
start of a word begins a comment.  The other way, words are joined into a command line that a
shell would split into the same words.
-/

set_option autoImplicit false

namespace LintRun.Command

/-- Where a reader of a command line stands. -/
inductive Mode where
  /-- Between words. -/
  | gap
  /-- After a backslash between words. -/
  | gapEscape
  /-- In a word, outside of quotes. -/
  | word
  /-- After a backslash in a word, outside of quotes. -/
  | wordEscape
  /-- Between single quotes. -/
  | single
  /-- Between double quotes. -/
  | double
  /-- After a backslash between double quotes. -/
  | doubleEscape
  /-- In a comment. -/
  | comment
deriving DecidableEq, Repr

/-- Whether a character separates words. -/
def isSeparator (c : Char) : Bool :=
  c == ' ' || c == '\t' || c == '\n'

/-- The characters from which a backslash takes the meaning between double quotes. -/
def isDoubleEscapable (c : Char) : Bool :=
  c == '$' || c == '\x60' || c == '"' || c == '\\'

/-- Splits the rest of a command line.  The word that is being read is given last character
first; there is no answer when a quote is left open. -/
def splitFrom : Mode → List Char → List Char → Option (List String)
  | .gap, _, [] | .comment, _, [] => some []
  | .word, word, [] => some [.ofList word.reverse]
  | .gapEscape, _, [] => some ["\\"]
  | .wordEscape, word, [] => some [.ofList (word.reverse ++ ['\\'])]
  | .single, _, [] | .double, _, [] | .doubleEscape, _, [] => none
  | .gap, word, c :: rest =>
    if c = '\'' then splitFrom .single word rest
    else if c = '"' then splitFrom .double word rest
    else if c = '\\' then splitFrom .gapEscape word rest
    else if isSeparator c then splitFrom .gap word rest
    else if c = '#' then splitFrom .comment word rest
    else splitFrom .word (c :: word) rest
  | .gapEscape, word, c :: rest =>
    if c = '\n' then splitFrom .gap word rest else splitFrom .word (c :: word) rest
  | .word, word, c :: rest =>
    if c = '\'' then splitFrom .single word rest
    else if c = '"' then splitFrom .double word rest
    else if c = '\\' then splitFrom .wordEscape word rest
    else if isSeparator c then (splitFrom .gap [] rest).map (String.ofList word.reverse :: ·)
    else splitFrom .word (c :: word) rest
  | .wordEscape, word, c :: rest =>
    if c = '\n' then splitFrom .word word rest else splitFrom .word (c :: word) rest
  | .single, word, c :: rest =>
    if c = '\'' then splitFrom .word word rest else splitFrom .single (c :: word) rest
  | .double, word, c :: rest =>
    if c = '"' then splitFrom .word word rest
    else if c = '\\' then splitFrom .doubleEscape word rest
    else splitFrom .double (c :: word) rest
  | .doubleEscape, word, c :: rest =>
    if c = '\n' then splitFrom .double word rest
    else if isDoubleEscapable c then splitFrom .double (c :: word) rest
    else splitFrom .double (c :: '\\' :: word) rest
  | .comment, word, c :: rest =>
    if c = '\n' then splitFrom .gap word rest else splitFrom .comment word rest

/-- The words of a command line, unless a quote is left open. -/
def splitWords (line : String) : Option (List String) :=
  splitFrom .gap [] line.toList

/-- Whether a character has a meaning of its own in a command line. -/
def isSpecial (c : Char) : Bool :=
  isSeparator c || "|&;<>()$\x60\\\"'*?[#~=%".toList.contains c

/-- How a character is written between single quotes. -/
def quoteChar (c : Char) : List Char :=
  if c = '\'' then ['\'', '\\', '\'', '\''] else [c]

/-- How a word is written in a command line. -/
def quoteWord (word : String) : String :=
  let cs := word.toList
  if cs ≠ [] ∧ !cs.any isSpecial then word
  else .ofList ('\'' :: cs.flatMap quoteChar ++ ['\''])

/-- The command line of some words. -/
def joinWords (words : List String) : String :=
  " ".intercalate (words.map quoteWord)

end LintRun.Command
