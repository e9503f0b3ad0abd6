import LintRun.Issue
import LintRun.Text.Attribute

/-!
# Issues by file

The document form of a report has an element for each file and in it one for each issue.
Issues that follow one another and are in one file share its element, so the issues of a file
come together when they are sorted by path.
-/

set_option autoImplicit false

namespace LintRun.Checkstyle

/-- The element of an issue. -/
structure IssueElement where
  column : UInt32
  line : UInt32
  message : String
  severity : String
  source : String
deriving DecidableEq, Repr

/-- The element of a file. -/
structure FileElement where
  name : String
  issues : List IssueElement
deriving DecidableEq, Repr

/-- The element of an issue. -/
def IssueElement.ofIssue (issue : Issue) : IssueElement where
  column := issue.col
  line := issue.line
  message := issue.message
  severity := issue.severity.name
  source := issue.linterLabel

/-- The elements of files for some issues, in order. -/
def elements : List Issue → List FileElement
  | [] => []
  | issue :: rest =>
    match elements rest with
    | [] => [⟨issue.path, [.ofIssue issue]⟩]
    | file :: files =>
      if file.name = issue.path then
        { file with issues := .ofIssue issue :: file.issues } :: files
      else
        ⟨issue.path, [.ofIssue issue]⟩ :: file :: files

/-- An attribute and its value as written. -/
def writeAttribute (name value : String) : String :=
  " " ++ name ++ "=\"" ++ Text.Attribute.encode value ++ "\""

/-- The element of an issue as written. -/
def IssueElement.text (e : IssueElement) : String :=
  "    <error" ++ writeAttribute "column" (toString e.column) ++
    writeAttribute "line" (toString e.line) ++ writeAttribute "message" e.message ++
    writeAttribute "severity" e.severity ++ writeAttribute "source" e.source ++ " />\n"

/-- The element of a file as written. -/
def FileElement.text (e : FileElement) : String :=
  "  <file" ++ writeAttribute "name" e.name ++ ">\n" ++
    String.join (e.issues.map IssueElement.text) ++ "  </file>\n"

/-- The document of some elements. -/
def document (files : List FileElement) : String :=
  "<?xml version=\"1.0\" encoding=\"UTF-8\"?>\n<checkstyle version=\"5.0\">\n" ++
    String.join (files.map FileElement.text) ++ "</checkstyle>\n"

/-- The document of some issues. -/
def render (issues : List Issue) : String :=
  document (elements issues)

end LintRun.Checkstyle
