import LintRun.Unicode.Property

/-!
# White space

White space is the property of the character standard, not the handful of characters of
ASCII: a no-break space or an ogham space mark is white space too.  The functions here trim
it from the ends of a text and cut a text into the words between it.
-/

set_option autoImplicit false

namespace LintRun.Text

/-- Whether a character is white space. -/
def isBlank (c : Char) : Bool :=
  Unicode.blank.has c.toNat

/-- The characters after the leading white space. -/
def trimStartChars (cs : List Char) : List Char :=
  cs.dropWhile isBlank

/-- The characters before the trailing white space. -/
def trimEndChars (cs : List Char) : List Char :=
  (cs.reverse.dropWhile isBlank).reverse

/-- The characters between the outer white space. -/
def trimChars (cs : List Char) : List Char :=
  trimEndChars (trimStartChars cs)

/-- The text without white space at its ends. -/
def trim (s : String) : String :=
  .ofList (trimChars s.toList)

/-- The text without white space at its end. -/
def trimEnd (s : String) : String :=
  .ofList (trimEndChars s.toList)

/-- Whether a text holds nothing but white space. -/
def isBlankText (s : String) : Bool :=
  s.toList.all isBlank

theorem length_dropWhile_le (p : Char → Bool) (cs : List Char) :
    (cs.dropWhile p).length ≤ cs.length :=
  (List.dropWhile_suffix p).length_le

/-- The words of a text: its longest runs without white space. -/
def wordsOf (cs : List Char) : List (List Char) :=
  match _h : trimStartChars cs with
  | [] => []
  | c :: rest =>
    (c :: rest.takeWhile (!isBlank ·)) :: wordsOf (rest.dropWhile (!isBlank ·))
termination_by cs.length
decreasing_by
  have first := length_dropWhile_le isBlank cs
  have second := length_dropWhile_le (!isBlank ·) rest
  simp only [trimStartChars] at _h
  simp only [_h, List.length_cons] at first
  omega

end LintRun.Text
