import LintRun.Unicode.Case
import LintRun.Unicode.Property

/-!
# Lower case

Lower case of a whole text, by version 17.0 of the character standard.  A character is mapped on its
own, with two exceptions: the dotted capital I becomes two characters, and a capital sigma at the
end of a word becomes the final form of the small letter.  A sigma ends a word when the nearest
character before it that is not skipped has case, and the nearest one after it has none.
-/

set_option autoImplicit false

namespace LintRun.Text

/-- Whether the first character that is not skipped has case. -/
def startsCased (cs : List Char) : Bool :=
  match cs.dropWhile fun c => Unicode.isCaseIgnorable c.toNat with
  | [] => false
  | c :: _ => Unicode.isCased c.toNat

/-- Lower case of one character, whatever stands around it. -/
def lowerChar (c : Char) : List Char :=
  if c = 'İ' then ['i', '\u0307'] else [Char.ofNat (Unicode.mapCase Unicode.lowercaseRuns c.toNat)]

/-- Lower case of the characters that follow `before`, which is given last character first. -/
def lowerAfter (before : List Char) : List Char → List Char
  | [] => []
  | c :: rest =>
    let image :=
      if c = 'Σ' then
        if startsCased before && !startsCased rest then ['ς'] else ['σ']
      else lowerChar c
    image ++ lowerAfter (c :: before) rest

/-- Lower case of a sequence of characters. -/
def lowerChars (cs : List Char) : List Char :=
  lowerAfter [] cs

/-- Lower case of the letters of ASCII only. -/
def lowerAscii (s : String) : String :=
  .ofList (s.toList.map Char.toLower)

end LintRun.Text
