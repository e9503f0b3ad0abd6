import LintRun.Linter.Spec

/-!
# The built-in catalog

The linters that are known from the start, and the default values of templates and messages
that belong to them.
-/

set_option autoImplicit false

namespace LintRun

/-- A built-in linter. -/
structure BuiltinLinter where
  name : String
  command : String
  pattern : String
  fast : Bool
  defaultEnabled : Bool
deriving Repr

namespace Catalog

/-- What the vet tools print. -/
def vetPattern : String :=
  "^(?:vet:.*?\\.go:\\s+)?(?P<path>.*?\\.go):(?P<line>\\d+):(?:(?P<col>\\d+):)?\\s*(?P<message>.*)$"

/-- What the check tools print. -/
def checkPattern : String :=
  "^(?:[^:]+: )?(?P<path>.*?\\.go):(?P<line>\\d+):(?P<col>\\d+):\\s*(?P<message>.+)$"

/-- The usual output with a column. -/
def withColumn : String := "PATH:LINE:COL:MESSAGE"

/-- The usual output without a column. -/
def withoutColumn : String := "PATH:LINE:MESSAGE"

/-- The built-in linters, in ascending order of their names. -/
def linters : List BuiltinLinter :=
  [⟨"aligncheck", "aligncheck", checkPattern, false, true⟩,
   ⟨"deadcode", "deadcode",
     "^deadcode: (?P<path>.*?\\.go):(?P<line>\\d+):(?P<col>\\d+):\\s*(?P<message>.*)$", true, true⟩,
   ⟨"dupl", "dupl -plumbing -threshold \x7bduplthreshold\x7d",
     "^(?P<path>.*?\\.go):(?P<line>\\d+)-\\d+:\\s*(?P<message>.*)$", true, false⟩,
   ⟨"errcheck", "errcheck -abspath \x7bnot_tests=-ignoretests\x7d", withColumn, false, true⟩,
   ⟨"gas", "gas -fmt=csv",
     "^(?P<path>.*?\\.go),(?P<line>\\d+),(?P<message>[^,]+,[^,]+,[^,]+)", true, false⟩,
   ⟨"goconst",
     "goconst -min-occurrences \x7bmin_occurrences\x7d -min-length \x7bmin_const_length\x7d",
     withColumn, true, true⟩,
   ⟨"gocyclo", "gocyclo -over \x7bmincyclo\x7d",
     "^(?P<cyclo>\\d+)\\s+\\S+\\s(?P<function>\\S+)\\s+(?P<path>.*?\\.go):(?P<line>\\d+):(?P<col>\\d+)$",
     true, true⟩,
   ⟨"gofmt", "gofmt -l -s", "^(?P<path>.*?\\.go)$", true, false⟩,
   ⟨"goimports", "goimports -l", "^(?P<path>.*?\\.go)$", true, false⟩,
   ⟨"golint", "golint -min_confidence \x7bmin_confidence\x7d", withColumn, true, true⟩,
   ⟨"gosimple", "gosimple", withColumn, false, false⟩,
   ⟨"gotype", "gotype -e \x7btests=-t\x7d", withColumn, true, true⟩,
   ⟨"ineffassign", "ineffassign -n", withColumn, true, true⟩,
   ⟨"interfacer", "interfacer", withColumn, false, true⟩,
   ⟨"lll", "lll -g -l \x7bmaxlinelength\x7d", withoutColumn, true, false⟩,
   ⟨"megacheck", "megacheck", withColumn, false, true⟩,
   ⟨"misspell", "misspell -j 1", withColumn, true, false⟩,
   ⟨"staticcheck", "staticcheck", withColumn, false, false⟩,
   ⟨"structcheck", "structcheck \x7btests=-t\x7d", checkPattern, false, true⟩,
   ⟨"unconvert", "unconvert", withColumn, false, true⟩,
   ⟨"unparam", "unparam", withColumn, false, false⟩,
   ⟨"unused", "unused", withColumn, false, false⟩,
   ⟨"varcheck", "varcheck", checkPattern, false, true⟩,
   ⟨"vet", "go tool vet", vetPattern, true, true⟩,
   ⟨"vetshadow", "go tool vet --shadow", vetPattern, true, false⟩]

/-- The severities of built-in linters whose output states none. -/
def severities : List (String × String) :=
  [("gotype", "error"), ("vet", "error")]

/-- The values of template variables unless others are set. -/
def defaultVars : List (String × String) :=
  [("duplthreshold", "50"),
   ("mincyclo", "10"),
   ("maxlinelength", "80"),
   ("min_confidence", "0.800000"),
   ("min_occurrences", "3"),
   ("min_const_length", "3"),
   ("tests", ""),
   ("not_tests", "true")]

/-- The message templates of linters unless others are set. -/
def messageOverrides : List (String × String) :=
  [("errcheck", "error return value not checked (\x7bmessage\x7d)"),
   ("gocyclo",
     "cyclomatic complexity \x7bcyclo\x7d of function \x7bfunction\x7d() is high (> \x7bmincyclo\x7d)"),
   ("gofmt", "file is not gofmted with -s"),
   ("goimports", "file is not goimported"),
   ("structcheck", "unused struct field \x7bmessage\x7d"),
   ("unparam", "parameter \x7bmessage\x7d"),
   ("varcheck", "unused variable or constant \x7bmessage\x7d")]

/-- The built-in linter of a name. -/
def find? (name : String) : Option BuiltinLinter :=
  linters.find? (·.name == name)

/-- The specification of a built-in linter. -/
def spec? (name : String) : Option LinterSpec :=
  (find? name).map fun b =>
    { command := b.command, pattern := b.pattern, severity := severities.lookup name,
      fast := b.fast }

end Catalog

end LintRun
