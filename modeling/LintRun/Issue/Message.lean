import LintRun.Text.Blank
import LintRun.Text.Lower

/-!
# Comparing messages

Two linters seldom word a finding alike to the letter.  Messages are compared in lower case
and with every run of white space as one space.
-/

set_option autoImplicit false

namespace LintRun

/-- The form in which messages are compared. -/
def normalizeMessage (message : String) : String :=
  .ofList (Text.lowerChars ([' '].intercalate (Text.wordsOf message.toList)))

end LintRun
