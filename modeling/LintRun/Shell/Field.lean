import LintRun.Host
import LintRun.NameSet
import LintRun.Text.Blank

/-!
# Fields

When a command runs, its words become **fields**, its arguments.  A value that is not quoted is
split into fields at white space, and a field with wildcards that are not quoted stands for the
files that it matches, or for itself when it matches none.
-/

set_option autoImplicit false

namespace LintRun.Shell

/-- The characters of a field, each with whether it is quoted. -/
abbrev Field := List (Char × Bool)

/-- The text of a field. -/
def Field.text (f : Field) : String :=
  .ofList (f.map (·.1))

/-- Fields that are being put together, last one first, and the one that goes on. -/
structure Fields where
  done : List Field := []
  current : Option Field := none

namespace Fields

/-- The fields with characters added to the one that goes on. -/
def add (f : Fields) (quoted : Bool) (text : String) : Fields :=
  { f with current := some (f.current.getD [] ++ text.toList.map (·, quoted)) }

/-- The fields with the one that goes on brought to its end. -/
def stop (f : Fields) : Fields :=
  match f.current with
  | some field => { done := field :: f.done, current := none }
  | none => f

/-- Whether a character separates fields. -/
def isSeparator (c : Char) : Bool :=
  c == ' ' || c == '\t' || c == '\n'

/-- The fields with a value added that is split at white space. -/
def addSplit (f : Fields) (text : List Char) : Fields :=
  text.foldl (fun f c => if isSeparator c then f.stop else f.add false c.toString) f

/-- The fields with each of some values added as a field of its own. -/
def addEach (f : Fields) : List String → Fields
  | [] => f
  | [value] => f.add true value
  | value :: rest => addEach (f.add true value).stop rest

/-- All fields in their order. -/
def toList (f : Fields) : List Field :=
  f.stop.done.reverse

end Fields

namespace Field

/-- Whether a character is a wildcard. -/
def isWildcard (c : Char × Bool) : Bool :=
  !c.2 && (c.1 == '*' || c.1 == '?')

/-- Whether a name matches a pattern. -/
def isMatch : Field → List Char → Bool
  | [], cs => cs.isEmpty
  | ('*', false) :: pattern, [] => isMatch pattern []
  | ('*', false) :: pattern, c :: cs =>
    isMatch pattern (c :: cs) || isMatch (('*', false) :: pattern) cs
  | _ :: _, [] => false
  | ('?', false) :: pattern, _ :: cs => isMatch pattern cs
  | (p, _) :: pattern, c :: cs => p == c && isMatch pattern cs
termination_by pattern cs => pattern.length + cs.length

/-- The parts of a field between slashes. -/
def pieces : Field → List Field
  | [] => [[]]
  | c :: rest =>
    if c.1 = '/' then [] :: pieces rest
    else
      match pieces rest with
      | [] => [[c]]
      | piece :: more => (c :: piece) :: more

/-- The paths that match the parts of a field after what has been matched. -/
def pathsFrom (host : Host) (start : String) : List Field → List String
  | [] => []
  | piece :: rest =>
    let names : List String :=
      if piece.any isWildcard then
        match host.tree.resolve host.here (if start = "" then "." else start) true with
        | .error _ => []
        | .ok place =>
          (NameSet.ofList (host.tree.namesIn place)).names.filter fun name =>
            isMatch piece name.toList &&
              (!name.startsWith "." || piece.head? == some ('.', true) ||
                piece.head? == some ('.', false))
      else [Field.text piece]
    match rest with
    | [] => (names.map (start ++ ·)).filter fun path =>
      piece.any isWildcard || (host.tree.resolve host.here path false).isOk
    | rest => names.flatMap fun name => pathsFrom host (start ++ name ++ "/") rest

/-- The arguments that a field stands for. -/
def expand (host : Host) (f : Field) : List String :=
  if f.any isWildcard then
    match pathsFrom host "" (pieces f) with
    | [] => [f.text]
    | paths => paths
  else
    [f.text]

end Field

end LintRun.Shell
