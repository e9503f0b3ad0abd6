/-!
# Octets and texts

Files and the output of linters are octets.  They are read as texts in the usual encoding of
one to four octets for a character.  Output need not be well formed: each longest part that
starts a character and does not end it, and each octet that starts none, is read as the
replacement character.
-/

set_option autoImplicit false

namespace LintRun.Text

/-- The first octet of a character of several octets: how many octets follow, the bounds of
the next one, and the leading bits of the code point. -/
structure Lead where
  following : Nat
  low : UInt8 := 0x80
  high : UInt8 := 0xBF
  bits : Nat

/-- What an octet says about the character that it starts, if it starts one.  The bounds of the
second octet leave out overlong forms and surrogates. -/
def lead? (b : UInt8) : Option Lead :=
  if b < 0xC2 then none
  else if b < 0xE0 then some { following := 1, bits := b.toNat - 0xC0 }
  else if b < 0xF0 then
    some {
      following := 2
      low := if b = 0xE0 then 0xA0 else 0x80
      high := if b = 0xED then 0x9F else 0xBF
      bits := b.toNat - 0xE0 }
  else if b < 0xF5 then
    some {
      following := 3
      low := if b = 0xF0 then 0x90 else 0x80
      high := if b = 0xF4 then 0x8F else 0xBF
      bits := b.toNat - 0xF0 }
  else none

/-- Reads the octets of a character after the first one.  The rest begins with the first octet
that does not belong to the character. -/
def readTail (low high : UInt8) : Nat → Nat → List UInt8 → Option Char × List UInt8
  | 0, bits, rest => (some (.ofNat bits), rest)
  | _ + 1, _, [] => (none, [])
  | n + 1, bits, b :: rest =>
    if low ≤ b ∧ b ≤ high then readTail 0x80 0xBF n (bits * 64 + b.toNat % 64) rest
    else (none, b :: rest)

theorem length_readTail_le (low high : UInt8) (n bits : Nat) (octets : List UInt8) :
    (readTail low high n bits octets).2.length ≤ octets.length := by
  fun_induction readTail low high n bits octets with
  | case1 => exact Nat.le_refl _
  | case2 => exact Nat.le_refl _
  | case3 low high n bits b rest inside ih => exact Nat.le_succ_of_le ih
  | case4 => exact Nat.le_refl _

/-- Reads one character from its first octet and the octets after it.  There is no character
when the octets do not make up one. -/
def readChar (first : UInt8) (rest : List UInt8) : Option Char × List UInt8 :=
  if first < 0x80 then (some (.ofNat first.toNat), rest)
  else
    match lead? first with
    | none => (none, rest)
    | some lead => readTail lead.low lead.high lead.following lead.bits rest

theorem length_readChar_le (first : UInt8) (rest : List UInt8) :
    (readChar first rest).2.length ≤ rest.length := by
  simp only [readChar]
  split
  · exact Nat.le_refl _
  · split
    · exact Nat.le_refl _
    · exact length_readTail_le ..

/-- The characters of a sequence of octets, with nothing for each part that is no character. -/
def readChars : List UInt8 → List (Option Char)
  | [] => []
  | first :: rest =>
    (readChar first rest).1 :: readChars (readChar first rest).2
termination_by octets => octets.length
decreasing_by
  have := length_readChar_le first rest
  simp only [List.length_cons]
  omega

/-- The text of a sequence of octets, with a replacement character for each part that is no
character. -/
def decodeLossy (octets : List UInt8) : String :=
  .ofList ((readChars octets).map (·.getD '\uFFFD'))

/-- The text of a sequence of octets, if all of it is text. -/
def decode? (octets : List UInt8) : Option String :=
  ((readChars octets).mapM id).map .ofList

/-- The octets of a text. -/
def encode (s : String) : List UInt8 :=
  s.toList.flatMap String.utf8EncodeChar

end LintRun.Text
