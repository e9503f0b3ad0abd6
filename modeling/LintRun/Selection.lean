import LintRun.Registry

/-!
# Selecting linters

A selection says which linters to run.  It starts from every known linter, from the linters
that it names, or from those that run by default.  Then it leaves out what it excludes, then,
for a fast run, what is not fast, and last it replaces linters by the rules of the registry.
-/

set_option autoImplicit false

namespace LintRun

/-- Which linters the user asked for. -/
structure LinterSelection where
  enable : List String := []
  disable : List String := []
  /-- Start from every known linter. -/
  enableAll : Bool := false
  /-- Start from nothing but what is named. -/
  disableAll : Bool := false
  /-- Keep only fast linters. -/
  fast : Bool := false
deriving DecidableEq, Inhabited

/-- The outcome of a selection: the linters, and a warning for each replacement that the user
did not ask for. -/
structure Selected where
  linters : NameSet
  warnings : List String := []
deriving DecidableEq

namespace LinterSelection

/-- The names that are not known. -/
def unknown (s : LinterSelection) (r : Registry) : NameSet :=
  .ofList ((s.enable ++ s.disable).filter (!r.contains ·))

/-- The linters to start from. -/
def start (s : LinterSelection) (r : Registry) : NameSet :=
  if s.enableAll then r.linters.nameSet
  else if s.disableAll || !s.enable.isEmpty then .ofList s.enable
  else .ofList ((r.definitions.filter (·.defaultEnabled)).map (·.name))

/-- The linters that are left before any are replaced. -/
def kept (s : LinterSelection) (r : Registry) : NameSet :=
  let wanted := (s.start r).filter (!s.disable.contains ·)
  if s.fast then wanted.filter fun name => (r.get? name).any (·.fast) else wanted

/-- Replaces linters by one rule, if the rule applies. -/
def substitute (s : LinterSelection) (r : Registry) (now : Selected) (rule : SubstitutionRule) :
    Selected :=
  if r.contains rule.replacement && rule.replaces.isSubsetOf now.linters then
    { linters := (now.linters.filter (!rule.replaces.contains ·)).insert rule.replacement
      warnings :=
        if s.enableAll then now.warnings
        else
          now.warnings ++
            [", ".intercalate rule.replaces.names ++ " are all enabled, using " ++
              rule.replacement ++ " instead"] }
  else
    now

/-- The linters that a selection stands for. -/
def resolve (s : LinterSelection) (r : Registry) : Except ConfigError Selected :=
  let unknown := s.unknown r
  if unknown.isEmpty then
    .ok (r.substitutions.foldl (s.substitute r) { linters := s.kept r })
  else
    .error (.unknownLinters unknown.names)

end LinterSelection

end LintRun
