/-!
# Templates

A template is text with placeholders.  `{name}` stands for the value of a name and for nothing
when the name has no value; `{name=text}` stands for its text when the name has a value that
is not empty.
-/

set_option autoImplicit false

namespace LintRun

/-- A part of a template. -/
inductive Segment where
  /-- Text that stands for itself. -/
  | literal (text : String)
  /-- The value of a name. -/
  | value (name : String)
  /-- Text that appears only when a name has a value that is not empty. -/
  | conditional (name text : String)
deriving DecidableEq, Repr

/-- A template: the text it was read from and its parts. -/
structure Template where
  source : String
  segments : List Segment
deriving DecidableEq, Repr

/-- Why a text is not a template. -/
inductive TemplateFault where
  | unclosed
  | nested
  | unmatched
  | invalidName (name : String)
  | unknownField (name : String) (fields : List String)
deriving DecidableEq, Repr

namespace Segment

/-- The name that a part refers to, if it refers to one. -/
def name? : Segment → Option String
  | .literal _ => none
  | .value name => some name
  | .conditional name _ => some name

/-- What a part stands for when `lookup` gives the values of the names. -/
def render (lookup : String → Option String) : Segment → String
  | .literal text => text
  | .value name => (lookup name).getD ""
  | .conditional name text =>
    match lookup name with
    | some v => if v = "" then "" else text
    | none => ""

/-- How a part is written in a template. -/
def write : Segment → String
  | .literal text => text
  | .value name => "\x7b" ++ name ++ "\x7d"
  | .conditional name text => "\x7b" ++ name ++ "=" ++ text ++ "\x7d"

end Segment

namespace Template

/-- The text of a list of parts. -/
def write (segments : List Segment) : String :=
  String.join (segments.map Segment.write)

/-- The names that a template refers to, in order of appearance. -/
def placeholders (t : Template) : List String :=
  t.segments.filterMap Segment.name?

/-- Whether a template refers to a name. -/
def references (t : Template) (name : String) : Bool :=
  t.placeholders.contains name

/-- What a template stands for when `lookup` gives the values of the names. -/
def render (t : Template) (lookup : String → Option String) : String :=
  String.join (t.segments.map (Segment.render lookup))

end Template

end LintRun
