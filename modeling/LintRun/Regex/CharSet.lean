import LintRun.Unicode.Case
import LintRun.Unicode.Property

/-!
# Sets of characters

A set of characters is a list of ranges of code points, disjoint and in ascending order.  The
operations bring their results back into that form.  Negation is relative to the greatest
code point that is meant, which is smaller where a pattern speaks of single bytes.
-/

set_option autoImplicit false

namespace LintRun.Regex

open Unicode (Ranges)

/-- A set of characters by their code points. -/
abbrev CharSet := Ranges

namespace CharSet

/-- The greatest code point. -/
def lastCodePoint : Nat := 0x10FFFF

/-- The greatest byte. -/
def lastByte : Nat := 0xFF

/-- The set with one range of code points more, which is joined with those that it overlaps or
touches. -/
def insertRange (lo hi : Nat) : CharSet → CharSet
  | [] => [(lo, hi)]
  | (lo', hi') :: rest =>
    if hi + 1 < lo' then (lo, hi) :: (lo', hi') :: rest
    else if hi' + 1 < lo then (lo', hi') :: insertRange lo hi rest
    else insertRange (min lo lo') (max hi hi') rest

/-- The set of the code points in any of some ranges, which may overlap. -/
def ofRanges (ranges : List (Nat × Nat)) : CharSet :=
  ranges.foldr (fun range set => insertRange range.1 range.2 set) []

/-- The set of one character. -/
def single (c : Nat) : CharSet :=
  [(c, c)]

/-- The characters in either set. -/
def union (a b : CharSet) : CharSet :=
  ofRanges (a ++ b)

/-- The code points up to `last` that are not in a set, from `start` on. -/
def complementFrom (last start : Nat) : CharSet → CharSet
  | [] => if start ≤ last then [(start, last)] else []
  | (lo, hi) :: rest =>
    if start < lo then (start, lo - 1) :: complementFrom last (hi + 1) rest
    else complementFrom last (hi + 1) rest

/-- The code points up to `last` that are not in a set. -/
def complement (last : Nat) (a : CharSet) : CharSet :=
  complementFrom last 0 a

/-- The characters in both sets. -/
def inter (last : Nat) (a b : CharSet) : CharSet :=
  complement last (union (complement last a) (complement last b))

/-- The characters in the first set only. -/
def diff (last : Nat) (a b : CharSet) : CharSet :=
  inter last a (complement last b)

/-- The characters in exactly one of two sets. -/
def symmDiff (last : Nat) (a b : CharSet) : CharSet :=
  union (diff last a b) (diff last b a)

/-- Whether a set holds characters of ASCII alone. -/
def isAscii (a : CharSet) : Bool :=
  a.all fun r => r.2 < 0x80

/-- Every code point that has another case, with the one that stands for all its cases. -/
def foldPairs : List (Nat × Nat) :=
  Unicode.foldRuns.flatMap Unicode.CaseRun.pairs

/-- The set with every other case of its characters. -/
def fold (a : CharSet) : CharSet :=
  let images := (foldPairs.filter fun p => a.has p.1).map fun p => (p.2, p.2)
  let withImages := ofRanges (a ++ images)
  let sources := (foldPairs.filter fun p => withImages.has p.2).map fun p => (p.1, p.1)
  ofRanges (withImages ++ sources)

/-- The set with the other case of its letters of ASCII. -/
def foldAscii (a : CharSet) : CharSet :=
  let letters := (List.range 26).flatMap fun i =>
    let upper := 0x41 + i
    let lower := 0x61 + i
    if a.has upper || a.has lower then [(upper, upper), (lower, lower)] else []
  ofRanges (a ++ letters)

/-- The decimal digits of every script. -/
def digit : CharSet :=
  ofRanges Unicode.decimalNumber

/-- White space. -/
def space : CharSet :=
  ofRanges Unicode.blank

/-- The characters of words: letters, marks, digits and connecting punctuation. -/
def word : CharSet :=
  ofRanges (Unicode.uppercaseLetter ++ Unicode.lowercaseLetter ++ Unicode.titlecaseLetter ++
    Unicode.modifierLetter ++ Unicode.otherLetter ++ Unicode.letterNumber ++
    Unicode.otherAlphabetic ++ Unicode.nonspacingMark ++ Unicode.spacingMark ++
    Unicode.enclosingMark ++ Unicode.decimalNumber ++ Unicode.connectorPunctuation ++
    [(0x200C, 0x200D)])

/-- The digits of ASCII. -/
def asciiDigit : CharSet :=
  [(0x30, 0x39)]

/-- The white space of ASCII. -/
def asciiSpace : CharSet :=
  [(0x09, 0x0D), (0x20, 0x20)]

/-- The characters of words that are in ASCII. -/
def asciiWord : CharSet :=
  [(0x30, 0x39), (0x41, 0x5A), (0x5F, 0x5F), (0x61, 0x7A)]

/-- The classes of ASCII that have names in brackets. -/
def asciiClass? (name : String) : Option CharSet :=
  match name with
  | "alnum" => some [(0x30, 0x39), (0x41, 0x5A), (0x61, 0x7A)]
  | "alpha" => some [(0x41, 0x5A), (0x61, 0x7A)]
  | "ascii" => some [(0x00, 0x7F)]
  | "blank" => some [(0x09, 0x09), (0x20, 0x20)]
  | "cntrl" => some [(0x00, 0x1F), (0x7F, 0x7F)]
  | "digit" => some asciiDigit
  | "graph" => some [(0x21, 0x7E)]
  | "lower" => some [(0x61, 0x7A)]
  | "print" => some [(0x20, 0x7E)]
  | "punct" => some [(0x21, 0x2F), (0x3A, 0x40), (0x5B, 0x60), (0x7B, 0x7E)]
  | "space" => some asciiSpace
  | "upper" => some [(0x41, 0x5A)]
  | "word" => some asciiWord
  | "xdigit" => some [(0x30, 0x39), (0x41, 0x46), (0x61, 0x66)]
  | _ => none

end CharSet

end LintRun.Regex
