import LintRun.Dict
import LintRun.Linter.Catalog
import LintRun.Linter.Definition

/-!
# The registry

The registry holds every linter that a run can use, the rules by which issues of several
linters are merged, and the rules by which several linters are replaced by one.
-/

set_option autoImplicit false

namespace LintRun

/-- What two issues must agree on to be merged. -/
inductive MergeKey where
  /-- The path and the line, whatever the messages say. -/
  | pathLine
  /-- The path, the line and the message up to case and white space. -/
  | pathLineMessage
deriving DecidableEq, Repr

/-- Linters whose issues may be merged. -/
structure MergeRule where
  linters : NameSet
  key : MergeKey
deriving DecidableEq

/-- Linters that are replaced by one other when all of them are selected. -/
structure SubstitutionRule where
  replaces : NameSet
  replacement : String
deriving DecidableEq

/-- Every known linter and the rules about several of them. -/
structure Registry where
  linters : Dict LinterDefinition := ∅
  /-- The linters that were defined rather than built in. -/
  custom : NameSet := ∅
  mergeRules : List MergeRule := []
  substitutions : List SubstitutionRule := []

/-- The merge rules about built-in linters. -/
def Catalog.mergeRules : List MergeRule :=
  [⟨.ofList ["gosimple", "megacheck", "staticcheck", "unused"], .pathLine⟩,
   ⟨.ofList ["gotype", "vet", "vetshadow"], .pathLine⟩]

/-- The substitution rules about built-in linters. -/
def Catalog.substitutions : List SubstitutionRule :=
  [⟨.ofList ["gosimple", "staticcheck", "unused"], "megacheck"⟩]

namespace Registry

/-- The registry without linters and rules. -/
def empty : Registry := {}

/-- The registry with a linter put in its place. -/
def insert (r : Registry) (definition : LinterDefinition) : Registry :=
  { r with linters := r.linters.insert definition.name definition }

/-- The registry with one built-in linter more. -/
def addBuiltin [Regex.SizeRule] (r : Registry) (b : BuiltinLinter) :
    Except ConfigError Registry := do
  let definition ← LinterDefinition.ofSpec b.name ((Catalog.spec? b.name).getD {})
  return r.insert { definition with defaultEnabled := b.defaultEnabled }

/-- The registry of the built-in linters and rules. -/
def withDefaults [Regex.SizeRule] : Except ConfigError Registry := do
  let r ← Catalog.linters.foldlM addBuiltin empty
  return { r with mergeRules := Catalog.mergeRules, substitutions := Catalog.substitutions }

/-- The definition of a linter. -/
def get? (r : Registry) (name : String) : Option LinterDefinition :=
  r.linters.get? name

/-- Whether a linter is known. -/
def contains (r : Registry) (name : String) : Bool :=
  r.linters.contains name

/-- Whether a linter was defined rather than built in. -/
def isCustom (r : Registry) (name : String) : Bool :=
  r.custom.contains name

/-- The names of all linters in ascending order. -/
def names (r : Registry) : List String :=
  r.linters.names

/-- All definitions in ascending order of their names. -/
def definitions (r : Registry) : List LinterDefinition :=
  r.linters.values

/-- Changes a registry so that a linter is defined in it.  What the specification leaves empty is
taken from the built-in linter of the same name, and whether the linter runs by default stays as it
is. -/
def defining [Regex.SizeRule] (name : String) (spec : LinterSpec) :
    ExceptT ConfigError (StateM Registry) Unit := do
  let definition ← LinterDefinition.ofSpec name (((Catalog.spec? name).getD {}).overlay spec)
  let existing := ((← get).get? name).getD definition
  modify (·.insert { definition with defaultEnabled := existing.defaultEnabled })
  modify fun r => { r with custom := r.custom.insert name }

/-- The registry with a linter defined in it. -/
def define [Regex.SizeRule] (r : Registry) (name : String) (spec : LinterSpec) :
    Except ConfigError Registry :=
  match (defining name spec).run.run r with
  | (.ok (), r) => .ok r
  | (.error e, _) => .error e

/-- The registry with one merge rule more. -/
def addMergeRule (r : Registry) (rule : MergeRule) : Registry :=
  { r with mergeRules := r.mergeRules ++ [rule] }

end Registry

end LintRun
