import LintRun.Text.Blank

/-!
# Lines

A line ends at a line feed, or at a carriage return and a line feed; the end of the text ends
its last line, and a text that ends in a line feed has no empty line after it.
-/

set_option autoImplicit false

namespace LintRun.Text

/-- The characters without the carriage return at their end, if there is one. -/
def dropReturn (line : List Char) : List Char :=
  if line.getLast? = some '\r' then line.dropLast else line

/-- The characters without the carriage returns at their end, however many there are. -/
def dropReturns (line : List Char) : List Char :=
  (line.reverse.dropWhile (· == '\r')).reverse

/-- The lines of a text. -/
def linesOf (cs : List Char) : List (List Char) :=
  match cs with
  | [] => []
  | c :: rest =>
    let line := (c :: rest).takeWhile (· != '\n')
    match _h : (c :: rest).dropWhile (· != '\n') with
    | [] => [line]
    | _ :: after => dropReturn line :: linesOf after
termination_by cs.length
decreasing_by
  have shorter := length_dropWhile_le (· != '\n') (c :: rest)
  simp only [_h, List.length_cons] at shorter ⊢
  omega

/-- The lines of a text, as texts. -/
def lines (s : String) : List String :=
  (linesOf s.toList).map .ofList

end LintRun.Text
