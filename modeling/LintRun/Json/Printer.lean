import LintRun.Json.Basic

/-!
# Writing documents

A value is written over several lines, with every element of a list and every entry of an
object on lines of its own, two spaces further in than what it belongs to.
-/

set_option autoImplicit false

namespace LintRun.Json

/-- A character inside quotes. -/
def quotedChar (c : Char) : List Char :=
  match c with
  | '"' => ['\\', '"']
  | '\\' => ['\\', '\\']
  | '\x08' => ['\\', 'b']
  | '\x0c' => ['\\', 'f']
  | '\n' => ['\\', 'n']
  | '\r' => ['\\', 'r']
  | '\t' => ['\\', 't']
  | c =>
    if c.toNat < 32 then
      ['\\', 'u', '0', '0', Nat.digitChar (c.toNat / 16), Nat.digitChar (c.toNat % 16)]
    else [c]

/-- A text in quotes. -/
def quoted (text : String) : String :=
  "\"" ++ .ofList (text.toList.flatMap quotedChar) ++ "\""

/-- The start of a line. -/
def indentation (depth : Nat) : String :=
  .ofList (List.replicate (2 * depth) ' ')

/-- Parts between brackets, each on lines of its own. -/
def bracketed (depth : Nat) (first last : String) (parts : List String) : String :=
  if parts.isEmpty then first ++ last
  else
    first ++ "\n" ++
      ",\n".intercalate (parts.map (indentation (depth + 1) ++ ·)) ++
      "\n" ++ indentation depth ++ last

mutual

/-- A value as written at some depth. -/
def pretty (depth : Nat) : Json → String
  | null => "null"
  | bool value => if value then "true" else "false"
  | natural value => toString value
  | number written => written
  | text value => quoted value
  | array elements => bracketed depth "[" "]" (prettyElements (depth + 1) elements)
  | object entries => bracketed depth "\x7b" "\x7d" (prettyEntries (depth + 1) entries)

/-- The elements of a list as written at some depth. -/
def prettyElements (depth : Nat) : List Json → List String
  | [] => []
  | value :: rest => pretty depth value :: prettyElements depth rest

/-- The entries of an object as written at some depth. -/
def prettyEntries (depth : Nat) : List (String × Json) → List String
  | [] => []
  | (name, value) :: rest => (quoted name ++ ": " ++ pretty depth value) :: prettyEntries depth rest

end

end LintRun.Json
