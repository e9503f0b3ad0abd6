/-!
# What can be wrong with a pattern

The causes for which a pattern is refused.  They are told apart so that each rule of the
pattern language has its own name.
-/

set_option autoImplicit false

namespace LintRun.Regex

/-- Why a pattern is refused. -/
inductive Fault where
  | groupUnclosed
  | groupUnopened
  | groupNameEmpty
  | groupNameInvalid
  | groupNameUnclosed
  | groupNameRepeated (name : String)
  | lookAround
  | flagUnknown
  | flagRepeated
  | flagDangling
  | flagUnclosed
  | repetitionMissing
  | countUnclosed
  | countEmpty
  | countTooLarge
  | countReversed
  | escapeUnclosed
  | escapeUnknown
  | escapeInClass
  | backreference
  | codePointDigit
  | codePointEmpty
  | codePointInvalid
  | boundaryUnclosed
  | boundaryUnknown
  | classUnclosed
  | classRangeReversed
  | classRangeEnd
  | propertyInvalid
  | propertyUnknown
  | unicodeOff
  | notText
  | nestedTooDeep
  | tooLarge
deriving DecidableEq, Repr

/-- The cause in words. -/
def Fault.message : Fault → String
  | .groupUnclosed => "unclosed group"
  | .groupUnopened => "unopened group"
  | .groupNameEmpty => "empty capture group name"
  | .groupNameInvalid => "invalid capture group character"
  | .groupNameUnclosed => "unclosed capture group name"
  | .groupNameRepeated name => "duplicate capture group name " ++ name
  | .lookAround => "look-around is not supported"
  | .flagUnknown => "unrecognized flag"
  | .flagRepeated => "duplicate flag"
  | .flagDangling => "dangling flag negation operator"
  | .flagUnclosed => "expected flag but got end of regex"
  | .repetitionMissing => "repetition operator missing expression"
  | .countUnclosed => "unclosed counted repetition"
  | .countEmpty => "repetition quantifier expects a valid decimal"
  | .countTooLarge => "decimal literal invalid"
  | .countReversed => "invalid repetition count range"
  | .escapeUnclosed => "incomplete escape sequence, reached end of pattern prematurely"
  | .escapeUnknown => "unrecognized escape sequence"
  | .escapeInClass => "invalid escape sequence found in character class"
  | .backreference => "backreferences are not supported"
  | .codePointDigit => "invalid hexadecimal digit"
  | .codePointEmpty => "hexadecimal literal empty"
  | .codePointInvalid => "hexadecimal literal is not a code point"
  | .boundaryUnclosed => "special word boundary assertion is unclosed"
  | .boundaryUnknown => "unrecognized special word boundary assertion"
  | .classUnclosed => "unclosed character class"
  | .classRangeReversed => "invalid character class range"
  | .classRangeEnd => "invalid range boundary, must be a literal"
  | .propertyInvalid => "invalid character property"
  | .propertyUnknown => "character property not found"
  | .unicodeOff => "character not allowed here"
  | .notText => "pattern can match bytes that are not text"
  | .nestedTooDeep => "exceeded the maximum number of nested parentheses and brackets"
  | .tooLarge => "compiled pattern exceeds the size limit"

end LintRun.Regex
