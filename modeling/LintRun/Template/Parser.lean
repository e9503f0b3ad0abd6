import LintRun.Template.Basic
import LintRun.Text.Blank

/-!
# Reading templates

A template is read from left to right, one placeholder after the other.  A closing brace is
looked for only inside a placeholder and after the last one: before a placeholder it is text.
-/

set_option autoImplicit false

namespace LintRun.Template

/-- Whether a character may stand in the name of a placeholder: letters and digits of ASCII
and the underscore. -/
def isNameChar (c : Char) : Bool :=
  c.isAlphanum || c == '_'

/-- Whether the characters are the name of a placeholder. -/
def isName (cs : List Char) : Bool :=
  !cs.isEmpty && cs.all isNameChar

/-- The literal part of some characters; no characters make no part. -/
def literalSegments (cs : List Char) : List Segment :=
  if cs = [] then [] else [.literal (.ofList cs)]

/-- The placeholder between a pair of braces. -/
def readPlaceholder (inner : List Char) : Except TemplateFault Segment :=
  let name := inner.takeWhile (· != '=')
  if isName name then
    match inner.dropWhile (· != '=') with
    | [] => .ok (.value (.ofList name))
    | _ :: text => .ok (.conditional (.ofList name) (.ofList text))
  else
    .error (.invalidName (.ofList name))

/-- The parts of a template. -/
def readSegments (cs : List Char) : Except TemplateFault (List Segment) :=
  match _opened : cs.dropWhile (· != '{') with
  | [] => if cs.contains '}' then .error .unmatched else .ok (literalSegments cs)
  | _ :: after =>
    match _closed : after.dropWhile (· != '}') with
    | [] => .error .unclosed
    | _ :: rest =>
      let inner := after.takeWhile (· != '}')
      if inner.contains '{' then
        .error .nested
      else do
        let placeholder ← readPlaceholder inner
        let more ← readSegments rest
        return literalSegments (cs.takeWhile (· != '{')) ++ placeholder :: more
termination_by cs.length
decreasing_by
  have first := Text.length_dropWhile_le (· != '{') cs
  have second := Text.length_dropWhile_le (· != '}') after
  simp only [_opened, _closed, List.length_cons] at first second
  omega

/-- Reads a template, with placeholders of any name. -/
def parse (source : String) : Except TemplateFault Template := do
  return { source, segments := ← readSegments source.toList }

/-- Reads a template whose placeholders all come from a list of fields. -/
def parseWithFields (source : String) (fields : List String) : Except TemplateFault Template := do
  let template ← parse source
  match template.placeholders.find? (!fields.contains ·) with
  | some name => .error (.unknownField name fields)
  | none => .ok template

end LintRun.Template
