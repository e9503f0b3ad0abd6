import LintRun.Duration.Basic
import LintRun.Regex.Fault
import LintRun.Template.Basic
import LintRun.Text.Quoted

/-!
# Errors

Errors of two kinds.  A configuration error stops a run before any linter starts.  A job error
stops one job: it contributes no issues and the run goes on.  Each is a cause; the words are
in one function for each type.
-/

set_option autoImplicit false

namespace LintRun

/-- The reason in a message about a template. -/
def TemplateFault.message : TemplateFault → String
  | .unclosed => "unclosed '\x7b'"
  | .nested => "nested '\x7b'"
  | .unmatched => "unmatched '\x7d'"
  | .invalidName name => "invalid placeholder name " ++ Text.quoted name
  | .unknownField name fields =>
    "unknown field " ++ Text.quoted name ++ " (expected one of " ++ ", ".intercalate fields ++ ")"

/-- Why the command of a linter is refused. -/
inductive CommandFault where
  | unclosedQuote
  | empty
  | word (source : String) (fault : TemplateFault)
deriving DecidableEq, Repr

/-- Which of the two filters a pattern belongs to. -/
inductive FilterKind where
  | keeping
  | dropping
deriving DecidableEq, Repr

/-- The name of a filter in messages. -/
def FilterKind.name : FilterKind → String
  | .keeping => "include"
  | .dropping => "exclude"

/-- Why a configuration file is refused. -/
inductive FileFault where
  | missing
  | directory
  | notText
  | malformed
  | wrongShape
deriving DecidableEq, Repr

/-- The reason in a message about a configuration file. -/
def FileFault.message : FileFault → String
  | .missing => "No such file or directory (os error 2)"
  | .directory => "Is a directory (os error 21)"
  | .notText => "stream did not contain valid UTF-8"
  | .malformed => "not a valid document"
  | .wrongShape => "not a valid configuration"

/-- Why a run cannot start. -/
inductive ConfigError where
  /-- The output pattern of a linter is no pattern. -/
  | pattern (linter : String) (fault : Regex.Fault)
  /-- The output pattern of a linter has no group for the path. -/
  | missingPathGroup (linter : String)
  /-- The command of a linter cannot be split into argument templates. -/
  | command (linter : String) (fault : CommandFault)
  | template (source : String) (fault : TemplateFault)
  | filter (kind : FilterKind) (fault : Regex.Fault)
  | sortKey (name : String)
  | severity (name : String)
  /-- Names of linters that are neither built in nor defined. -/
  | unknownLinters (names : List String)
  /-- A linter in short form without a colon. -/
  | shorthand (text : String)
  /-- A linter definition without a name, a command or a pattern. -/
  | definition (text : String)
  | duration (text : String)
  | zeroConcurrency
  | file (path : String) (fault : FileFault)
  /-- The value of a flag that is no pair. -/
  | pair (flag value : String) (separator : Char)
deriving DecidableEq, Repr

namespace ConfigError

/-- The reason in a message about a template. -/
def templateMessage (source : String) (fault : TemplateFault) : String :=
  "invalid template " ++ Text.quoted source ++ ": " ++ fault.message

/-- The message of a configuration error. -/
def message : ConfigError → String
  | .pattern linter fault => "invalid pattern for linter '" ++ linter ++ "': " ++ fault.message
  | .missingPathGroup linter =>
    "pattern for linter '" ++ linter ++ "' must contain a (?P<path>...) capture group"
  | .command linter fault =>
    "invalid command for linter '" ++ linter ++ "': " ++
      match fault with
      | .unclosedQuote => "missing closing quote"
      | .empty => "empty command"
      | .word source fault => templateMessage source fault
  | .template source fault => templateMessage source fault
  | .filter kind fault => "invalid " ++ kind.name ++ " filter: " ++ fault.message
  | .sortKey name =>
    "unknown sort key '" ++ name ++
      "' (expected one of none, path, line, column, severity, message, linter)"
  | .severity name => "unknown severity '" ++ name ++ "' (expected error or warning)"
  | .unknownLinters names => "unknown linters: " ++ ", ".intercalate names
  | .shorthand text =>
    "incorrectly formatted linter definition: " ++ Text.quoted text ++
      " needs at least two components (command:pattern)"
  | .definition text => "incorrectly formatted linter definition: " ++ text
  | .duration text => "invalid duration '" ++ text ++ "'"
  | .zeroConcurrency => "concurrency must be at least 1"
  | .file path fault => "configuration file " ++ path ++ ": " ++ fault.message
  | .pair flag value separator =>
    "invalid --" ++ flag ++ " value " ++ Text.quoted value ++ ": expected KEY" ++
      separator.toString ++ "VALUE"

end ConfigError

/-- Why a job produced nothing. -/
inductive JobFault where
  /-- The program could not be started, for a reason in the system's words. -/
  | launch (program reason : String)
  /-- The job was not over when its time was. -/
  | timeout (deadline : Duration)
  /-- The output could not be collected, for a reason in the system's words. -/
  | io (reason : String)
deriving DecidableEq

/-- The failure of one job. -/
structure JobError where
  linter : String
  /-- The target of the job. -/
  path : String
  fault : JobFault
deriving DecidableEq

/-- The message of a job error. -/
def JobError.message (e : JobError) : String :=
  match e.fault with
  | .launch program reason =>
    "failed to execute linter " ++ e.linter ++ " on " ++ e.path ++ " (" ++ program ++ "): " ++
      reason
  | .timeout deadline =>
    "deadline exceeded by linter " ++ e.linter ++ " on " ++ e.path ++ " after " ++
      deadline.text ++ " (try increasing --deadline)"
  | .io reason => "linter " ++ e.linter ++ " on " ++ e.path ++ ": " ++ reason

end LintRun
