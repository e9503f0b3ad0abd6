/-!
# Decimal numbers in texts

Line and column numbers are read from captured text.  They are words of 32 bits, so a number
with too many digits is no number; a plus sign may stand before the digits.
-/

set_option autoImplicit false

namespace LintRun.Text

/-- Whether a character is one of the ten digits of ASCII. -/
def isDigit (c : Char) : Bool :=
  '0' ≤ c && c ≤ '9'

/-- The number that a sequence of digits stands for. -/
def digitsValue (cs : List Char) : Nat :=
  cs.foldl (fun n c => 10 * n + (c.toNat - '0'.toNat)) 0

/-- The number written by the characters, if they are digits alone and at least one. -/
def readDigits? (cs : List Char) : Option Nat :=
  if cs ≠ [] ∧ cs.all isDigit then some (digitsValue cs) else none

/-- The number written by the characters, with at most a plus sign before the digits. -/
def readUnsigned? (cs : List Char) : Option Nat :=
  match cs with
  | '+' :: rest => readDigits? rest
  | _ => readDigits? cs

/-- The word of 32 bits for a number, if the number fits into one. -/
def word32? (n : Nat) : Option UInt32 :=
  if n < UInt32.size then some (.ofNat n) else none

/-- The number written by the characters if it fits into a word of 32 bits. -/
def readWord32? (cs : List Char) : Option UInt32 :=
  (readUnsigned? cs).bind word32?

/-- The number written by the characters if it fits into a word of 64 bits. -/
def readWord64? (cs : List Char) : Option Nat :=
  (readUnsigned? cs).filter (· < UInt64.size)

end LintRun.Text
