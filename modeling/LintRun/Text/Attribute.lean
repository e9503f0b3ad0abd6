/-!
# Attribute values

In an attribute value of a markup document, the characters that could end the value or that a
reader would change are written as references.  Every other character stands for itself.
-/

set_option autoImplicit false

namespace LintRun.Text.Attribute

/-- The characters that are written as references, with the references. -/
def references : List (Char × String) :=
  [('<', "&lt;"), ('>', "&gt;"), ('"', "&quot;"), ('\'', "&apos;"), ('&', "&amp;"),
    ('\n', "&#xA;"), ('\r', "&#xD;")]

/-- A character as written. -/
def encodeChar (c : Char) : List Char :=
  match references.lookup c with
  | some reference => reference.toList
  | none => [c]

/-- The characters of a value as written. -/
def encodeChars (cs : List Char) : List Char :=
  cs.flatMap encodeChar

/-- A value as written. -/
def encode (s : String) : String :=
  .ofList (encodeChars s.toList)

/-- The character of the reference that some characters start with, and what follows it. -/
def reference? (cs : List Char) : Option (Char × List Char) :=
  references.findSome? fun (c, reference) =>
    if reference.toList.isPrefixOf cs then some (c, cs.drop reference.length) else none

/-- Reads a value back.  An ampersand must start a reference, and the other characters that have
references must not stand on their own. -/
def decodeChars? : Nat → List Char → Option (List Char)
  | 0, cs => if cs.isEmpty then some [] else none
  | _ + 1, [] => some []
  | fuel + 1, c :: rest =>
    match reference? (c :: rest) with
    | some (char, after) => (decodeChars? fuel after).map (char :: ·)
    | none =>
      if (references.lookup c).isSome then none else (decodeChars? fuel rest).map (c :: ·)

/-- Reads a value back. -/
def decode? (s : String) : Option String :=
  (decodeChars? s.length s.toList).map .ofList

end LintRun.Text.Attribute
