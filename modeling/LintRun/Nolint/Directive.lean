import LintRun.Issue
import LintRun.Regex
import LintRun.Text.Decimal
import LintRun.Text.Lines

/-!
# Suppression directives

A directive is a comment with the word `nolint`, and after it perhaps a colon and the names of
linters with commas between them.  It suppresses issues on its own line, and when it stands
alone on its line those on the next line too.
-/

set_option autoImplicit false

namespace LintRun

/-- A directive in a source file. -/
structure Directive where
  /-- The line, counted from one. -/
  line : UInt32
  /-- The linters whose issues it suppresses; no names stand for all. -/
  linters : NameSet
  /-- Whether only white space stands before it on its line. -/
  standalone : Bool
deriving DecidableEq

namespace Directive

open Regex (Node CharSet)

/-- A text that stands for itself. -/
def literal (text : String) : Node :=
  Node.sequence (text.toList.map fun c => .set (CharSet.single c.toNat))

/-- Any amount of white space. -/
def blanks : Node :=
  Node.anyNumber true (.set CharSet.space)

/-- The characters of linter names. -/
def nameChars : CharSet :=
  CharSet.word.union (CharSet.single '-'.toNat)

/-- The start of a comment. -/
def marker : Node :=
  Node.choice (["//", "#", "/*", "--"].map literal)

/-- Names with commas between them. -/
def nameList : Node :=
  .cat (.run true nameChars)
    (Node.anyNumber true (Node.sequence [blanks, literal ",", blanks, .run true nameChars]))

/-- A directive from its comment marker to its last name. -/
def node : Node :=
  Node.sequence
    [marker, blanks, literal "nolint", .look (.boundary .word false),
      Node.optional true
        (Node.sequence [blanks, literal ":", blanks, .group 1 none nameList])]

/-- The names in a list with commas between them. -/
def splitNames : List Char → List (List Char)
  | [] => [[]]
  | c :: rest =>
    if c = ',' then [] :: splitNames rest
    else
      match splitNames rest with
      | [] => [[c]]
      | name :: more => (c :: name) :: more

/-- The set of the names in a list with commas between them. -/
def readNames (cs : List Char) : NameSet :=
  .ofList ((((splitNames cs).map Text.trimChars).filter (· ≠ [])).map .ofList)

/-- The directive on a line.  Every name in a list has a character, so the order of preference
alone finds it. -/
def ofLine? (number : UInt32) (line : List Char) : Option Directive :=
  (node.findByPreference line).map fun m =>
    { line := number
      linters :=
        match m.group? 1 with
        | some span => readNames (span.slice line)
        | none => ∅
      standalone := (line.take m.span.start).all Text.isBlank }

/-- The directives of a source text, in the order of their lines.  There are none on lines whose
numbers do not fit into a word of 32 bits. -/
def readAll (source : String) : List Directive :=
  ((Text.linesOf source.toList).zipIdx 1).filterMap fun (line, number) =>
    (Text.word32? number).bind (ofLine? · line)

/-- Whether a directive speaks of a line.  After the line with the greatest number comes zero, which
is the number of no line. -/
def appliesTo (d : Directive) (line : UInt32) : Bool :=
  d.line == line || (d.standalone && d.line + 1 == line)

/-- Whether a directive speaks of the linters of an issue. -/
def covers (d : Directive) (issue : Issue) : Bool :=
  d.linters.isEmpty || issue.linters.any d.linters.contains

/-- Whether a directive suppresses an issue in its file. -/
def suppresses (d : Directive) (issue : Issue) : Bool :=
  d.appliesTo issue.line && d.covers issue

end Directive

end LintRun
