import LintRun.Duration.Basic
import LintRun.Number.Rounding
import LintRun.Text.Blank
import LintRun.Text.Decimal

/-!
# Reading durations

A duration is written as a number and a unit, such as `500ms`, `1.5s`, `2m` or `1h`; a zero
needs no unit.  The number and its product with the unit are kept to 53 binary digits, and the
result is the nearest whole number of nanoseconds.
-/

set_option autoImplicit false

namespace LintRun.Duration

/-- The binary digits that are kept of a number of seconds. -/
def precision : Nat := 53

/-- A number written with at most one point and at least one digit. -/
def readNumber? (cs : List Char) : Option Fraction :=
  let whole := cs.takeWhile Text.isDigit
  let make (places : List Char) : Option Fraction :=
    if places.all Text.isDigit && !(whole ++ places).isEmpty then
      let digits := Fraction.mk (Text.digitsValue (whole ++ places)) 1 Nat.one_pos
      some (digits.div (Nat.pow 10 places.length) (Nat.pow_pos (by decide)))
    else
      none
  match cs.dropWhile Text.isDigit with
  | [] => make []
  | '.' :: places => make places
  | _ => none

/-- The seconds of a number of units. -/
def inSeconds? (unit : String) (value : Fraction) : Option Fraction :=
  match unit with
  | "ms" => some ((value.div 1000 (by decide)).round precision)
  | "s" => some value
  | "m" => some ((value.mul 60).round precision)
  | "h" => some ((value.mul 3600).round precision)
  | _ => none

/-- The duration of a fraction of seconds: the nearest whole number of nanoseconds.  There is
none when the fraction itself is too large. -/
def ofSeconds? (x : Fraction) : Option Duration :=
  if x.num < x.den * UInt64.size then ofNanos? (x.mul nanosPerSecond).nearest else none

/-- Reads a duration, with white space around it. -/
def ofText? (text : String) : Option Duration := do
  let cs := Text.trimChars text.toList
  if cs = ['0'] then
    return zero
  let isNumberChar := fun c => Text.isDigit c || c == '.'
  let value ← readNumber? (cs.takeWhile isNumberChar)
  let seconds ← inSeconds? (.ofList (cs.dropWhile isNumberChar)) (value.round precision)
  ofSeconds? seconds

end LintRun.Duration
