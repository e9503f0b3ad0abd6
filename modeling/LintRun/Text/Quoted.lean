import LintRun.Unicode.Property

/-!
# Quoted text

Messages quote a text that the user wrote between double quotes, with everything escaped that
could not be told apart on a terminal: the quote and the backslash, the usual control
characters by a letter, and every other character that is not drawn on its own by its code
point.  Which characters are drawn is that of version 17.0 of the character standard.
-/

set_option autoImplicit false

namespace LintRun.Text

/-- The digits of a code point in base sixteen, in small letters and without leading zeros. -/
def hexDigits (n : Nat) : List Char :=
  Nat.toDigits 16 n

/-- How one character is written between the quotes. -/
def quoteChar (c : Char) : List Char :=
  if c = '\x00' then ['\\', '0']
  else if c = '\t' then ['\\', 't']
  else if c = '\n' then ['\\', 'n']
  else if c = '\r' then ['\\', 'r']
  else if c = '"' then ['\\', '"']
  else if c = '\\' then ['\\', '\\']
  else if Unicode.isGraphemeExtend c.toNat || !Unicode.isPrintable c.toNat then
    ['\\', 'u', '{'] ++ hexDigits c.toNat ++ ['}']
  else [c]

/-- The text between double quotes, with everything escaped that is not plainly visible. -/
def quoted (s : String) : String :=
  .ofList ('"' :: s.toList.flatMap quoteChar ++ ['"'])

end LintRun.Text
