import LintRun.Regex.Machine
import LintRun.Regex.Parser

/-!
# Regular expressions

A regular expression is the text of a pattern together with the pattern.  Searching a text
gives the leftmost match and, of those that start there, the most preferred one.  Places in
the text are numbers of characters; `byteOffset` turns one into a number of bytes.
-/

set_option autoImplicit false

namespace LintRun

/-- A regular expression. -/
structure Regex where
  source : String
  node : Regex.Node
deriving DecidableEq, Repr

namespace Regex

/-- Reads a regular expression. -/
def compile [SizeRule] (source : String) : Except Fault Regex := do
  return { source, node := ← Node.parse source.toList }

/-- The number of a named group, if the pattern has one. -/
def groupNumber? (r : Regex) (name : String) : Option Nat :=
  r.node.names.lookup name

/-- Whether the pattern has a group of a name. -/
def hasGroup (r : Regex) (name : String) : Bool :=
  (r.groupNumber? name).isSome

/-- The match of a regular expression in a text. -/
def find? (r : Regex) (cs : List Char) : Option Match :=
  r.node.find cs

/-- Whether a regular expression matches anywhere in a text. -/
def isMatch (r : Regex) (text : String) : Bool :=
  (r.find? text.toList).isSome

/-- The characters of a text between two places. -/
def Span.slice (span : Span) (cs : List Char) : List Char :=
  (cs.drop span.start).take (span.stop - span.start)

/-- The text of a named group in a match, if the group took part. -/
def groupSpan? (r : Regex) (m : Match) (name : String) : Option Span :=
  (r.groupNumber? name).bind m.group?

/-- The number of bytes before a place in a text. -/
def byteOffset (cs : List Char) (index : Nat) : Nat :=
  ((cs.take index).map Char.utf8Size).foldl (· + ·) 0

end Regex

end LintRun
