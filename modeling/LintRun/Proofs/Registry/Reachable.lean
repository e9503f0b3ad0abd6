import Mathlib.Data.List.Forall2
import LintRun.Proofs.Regex.Alternatives
import LintRun.Registry

/-!
# Reachable registries

Every built-in linter passes the checks of a definition, so the registry of the built-in linters
exists (`exists_withDefaults`). It knows the linters of the catalog and no others
(`contains_of_withDefaults`).

A registry is **reachable** when it comes from this one or from the empty one by defining linters.
A reachable registry holds what has been checked and nothing else (`Reachable.checked`), in
particular each linter under its own name (`Reachable.wellNamed`), and as definitions add no rules,
it replaces linters by the rule of the catalog or by none (`Reachable.substitutions`). Merge rules
that are added between the definitions change nothing else (`Assembled.exists_reachable`).
-/

set_option autoImplicit false

namespace LintRun

open Regex (SizeRule)

namespace LinterDefinition

/-- A compiled command has at least one word, and its templates are its words, each read on its
own. -/
theorem exists_words_of_compileCommand {name command : String} {args : List Template}
    (compiled : compileCommand name command = .ok args) :
    ∃ words, Command.splitWords command = some words ∧ words ≠ [] ∧
      List.Forall₂ (fun word t => Template.parse word = .ok t) words args := by
  rw [compileCommand] at compiled
  split at compiled
  · cases compiled
  · cases compiled
  · rename_i words nonempty wordsOf
    refine ⟨words, wordsOf, nonempty, (forall₂_of_mapM compiled).imp fun word t read => ?_⟩
    cases parsed : Template.parse word with
    | error fault =>
      rw [parsed] at read
      cases read
    | ok template =>
      rw [parsed] at read
      exact congrArg Except.ok (Except.ok.inj read)

theorem ne_nil_of_compileCommand {name command : String} {args : List Template}
    (compiled : compileCommand name command = .ok args) : args ≠ [] := by
  obtain ⟨words, -, nonempty, read⟩ := exists_words_of_compileCommand compiled
  rintro rfl
  cases read
  exact nonempty rfl

/-- A definition has the name for which its specification is checked and an argument template, and
it does not run by default. -/
theorem of_ofSpec [SizeRule] {name : String} {spec : LinterSpec} {d : LinterDefinition}
    (checked : ofSpec name spec = .ok d) :
    d.name = name ∧ d.args ≠ [] ∧ d.defaultEnabled = false := by
  obtain ⟨args, compiled, checked⟩ := exists_ok_of_bind checked
  obtain ⟨pattern, -, checked⟩ := exists_ok_of_bind checked
  obtain ⟨severity, -, checked⟩ := exists_ok_of_bind checked
  cases checked
  exact ⟨rfl, ne_nil_of_compileCommand compiled, rfl⟩

end LinterDefinition

/-! ## The catalog passes its own checks -/

namespace Catalog

/-- The command of every built-in linter is split into argument templates. -/
theorem compileCommand_isSome : ∀ b ∈ linters,
    (LinterDefinition.compileCommand b.name b.command).toOption.isSome = true := by
  decide +kernel

/-- Every output pattern of a built-in linter is small and can find the path of an issue. -/
theorem pattern_hasGroup : ∀ text ∈ (linters.map (·.pattern)).eraseDups,
    (@Regex.compile .strictest (expandPattern text)).toOption.any (·.hasGroup "path") = true := by
  -- Linters share patterns, and reading one is slow, so each pattern is read once.
  decide

/-- Every severity of a built-in linter has a name. -/
theorem severity_isSome : ∀ b ∈ linters,
    ((severities.lookup b.name).mapM Severity.ofText).toOption.isSome = true := by
  decide

theorem exists_spec? {b : BuiltinLinter} (builtin : b ∈ linters) :
    ∃ spec, spec? b.name = some spec := by
  have found : (find? b.name).isSome = true :=
    List.find?_isSome.mpr ⟨b, builtin, beq_self_eq_true b.name⟩
  obtain ⟨other, found⟩ := Option.isSome_iff_exists.mp found
  rw [spec?, found]
  exact ⟨_, rfl⟩

variable [SizeRule]

theorem exists_compilePattern {text : String} (builtin : text ∈ linters.map (·.pattern))
    (linter : String) : ∃ p, OutputPattern.compile linter text = .ok p := by
  have valid := pattern_hasGroup text (List.mem_eraseDups.mpr builtin)
  cases read : @Regex.compile .strictest (expandPattern text) with
  | error fault =>
    rw [read] at valid
    cases valid
  | ok regex =>
    rw [read] at valid
    rw [OutputPattern.compile, Regex.compile_of_strictest read]
    exact ⟨_, dif_pos valid⟩

/-- Every built-in linter passes the checks of a definition. -/
theorem exists_ofSpec {name : String} {spec : LinterSpec} (builtin : spec? name = some spec) :
    ∃ d, LinterDefinition.ofSpec name spec = .ok d := by
  obtain ⟨b, found, rfl⟩ := Option.map_eq_some_iff.mp builtin
  have member : b ∈ linters := List.mem_of_find?_eq_some found
  obtain rfl : b.name = name :=
    eq_of_beq (List.find?_some (p := fun other : BuiltinLinter => other.name == name) found)
  obtain ⟨args, command⟩ := exists_ok_of_isSome (compileCommand_isSome b member)
  obtain ⟨pattern, compiled⟩ := exists_compilePattern (List.mem_map_of_mem member) b.name
  obtain ⟨severity, known⟩ := exists_ok_of_isSome (severity_isSome b member)
  rw [LinterDefinition.ofSpec, command, compiled, known]
  exact ⟨_, rfl⟩

end Catalog

namespace Registry

variable {r r' : Registry}

@[simp] theorem get?_insert (r : Registry) (d : LinterDefinition) (name : String) :
    (r.insert d).get? name = if name = d.name then some d else r.get? name :=
  Dict.get?_insert r.linters d.name name d

@[simp] theorem contains_insert (r : Registry) (d : LinterDefinition) (name : String) :
    (r.insert d).contains name = true ↔ name = d.name ∨ r.contains name = true :=
  Dict.contains_insert r.linters d.name name d

/-- Whether a linter is known and runs by default. -/
def runsByDefault (r : Registry) (name : String) : Bool :=
  (r.get? name).any (·.defaultEnabled)

/-- Whether every linter is held under its own name. -/
def WellNamed (r : Registry) : Prop :=
  ∀ name d, r.get? name = some d → d.name = name

variable [SizeRule]

/-- Whether every linter is held as it has been checked for its name, but for whether it runs by
default. -/
def Checked (r : Registry) : Prop :=
  ∀ name d, r.get? name = some d → ∃ spec e, LinterDefinition.ofSpec name spec = .ok e ∧
    d = { e with defaultEnabled := d.defaultEnabled }

theorem checked_empty : empty.Checked := by
  intro name d held
  cases held

theorem Checked.insert (held : r.Checked) {name : String} {spec : LinterSpec}
    {d : LinterDefinition} (checked : LinterDefinition.ofSpec name spec = .ok d) (enabled : Bool) :
    (r.insert { d with defaultEnabled := enabled }).Checked := by
  intro other e at_other
  rw [get?_insert] at at_other
  split at at_other
  · rename_i same
    cases at_other
    have sameName : other = name := same.trans (LinterDefinition.of_ofSpec checked).1
    exact ⟨spec, d, sameName ▸ checked, rfl⟩
  · exact held other e at_other

theorem Checked.wellNamed (held : r.Checked) : r.WellNamed := by
  intro name d at_name
  obtain ⟨spec, e, checked, same⟩ := held name d at_name
  rw [same]
  exact (LinterDefinition.of_ofSpec checked).1

/-! ## The built-in linters -/

/-- A built-in linter is put in its place when it has been checked. -/
theorem addBuiltin_cases {b : BuiltinLinter} (added : r.addBuiltin b = .ok r') :
    ∃ spec d, LinterDefinition.ofSpec b.name spec = .ok d ∧
      r' = r.insert { d with defaultEnabled := b.defaultEnabled } := by
  obtain ⟨d, checked, added⟩ := exists_ok_of_bind added
  cases added
  exact ⟨_, d, checked, rfl⟩

theorem exists_addBuiltin {b : BuiltinLinter} (builtin : b ∈ Catalog.linters) (r : Registry) :
    ∃ r', r.addBuiltin b = .ok r' := by
  obtain ⟨spec, known⟩ := Catalog.exists_spec? builtin
  obtain ⟨d, checked⟩ := Catalog.exists_ofSpec known
  rw [addBuiltin, known, Option.getD_some, checked]
  exact ⟨_, rfl⟩

theorem exists_addBuiltins {bs : List BuiltinLinter} (builtin : ∀ b ∈ bs, b ∈ Catalog.linters)
    (r : Registry) : ∃ r', bs.foldlM addBuiltin r = .ok r' := by
  induction bs generalizing r with
  | nil => exact ⟨r, rfl⟩
  | cons b rest ih =>
    obtain ⟨next, added⟩ := exists_addBuiltin (builtin b List.mem_cons_self) r
    rw [List.foldlM_cons, added]
    exact ih (fun other later => builtin other (List.mem_cons_of_mem b later)) next

theorem checked_addBuiltins {bs : List BuiltinLinter} (held : r.Checked)
    (added : bs.foldlM addBuiltin r = .ok r') : r'.Checked := by
  refine holds_of_foldlM held (fun b _ before after held added => ?_) added
  obtain ⟨spec, d, checked, rfl⟩ := addBuiltin_cases added
  exact held.insert checked b.defaultEnabled

theorem contains_addBuiltins {bs : List BuiltinLinter} {name : String}
    (added : bs.foldlM addBuiltin r = .ok r') :
    r'.contains name = true ↔ (∃ b ∈ bs, b.name = name) ∨ r.contains name = true := by
  induction bs generalizing r with
  | nil =>
    cases added
    simp
  | cons b rest ih =>
    rw [List.foldlM_cons] at added
    obtain ⟨next, first, added⟩ := exists_ok_of_bind added
    obtain ⟨spec, d, checked, rfl⟩ := addBuiltin_cases first
    obtain ⟨same, -, -⟩ := LinterDefinition.of_ofSpec checked
    rw [ih added, contains_insert, same, or_left_comm, ← or_assoc, eq_comm (a := name)]
    simp only [List.mem_cons, exists_eq_or_imp]

/-- The registry of the built-in linters and rules exists. -/
theorem exists_withDefaults : ∃ r, withDefaults = .ok r := by
  obtain ⟨r, added⟩ := exists_addBuiltins (fun b builtin => builtin) empty
  rw [withDefaults, added]
  exact ⟨_, rfl⟩

/-- The default registry is the registry of the built-in linters with the rules of the catalog. -/
theorem withDefaults_cases (defaults : withDefaults = .ok r) :
    ∃ linters, Catalog.linters.foldlM addBuiltin empty = .ok linters ∧
      r = { linters with
        mergeRules := Catalog.mergeRules, substitutions := Catalog.substitutions } := by
  obtain ⟨linters, added, defaults⟩ := exists_ok_of_bind defaults
  cases defaults
  exact ⟨linters, added, rfl⟩

theorem checked_of_withDefaults (defaults : withDefaults = .ok r) : r.Checked := by
  obtain ⟨linters, added, rfl⟩ := withDefaults_cases defaults
  have held : linters.Checked := checked_addBuiltins checked_empty added
  exact held

theorem contains_of_withDefaults (defaults : withDefaults = .ok r) (name : String) :
    r.contains name = true ↔ ∃ b ∈ Catalog.linters, b.name = name := by
  obtain ⟨linters, added, rfl⟩ := withDefaults_cases defaults
  exact (contains_addBuiltins added).trans (or_iff_left Bool.false_ne_true)

theorem substitutions_of_withDefaults (defaults : withDefaults = .ok r) :
    r.substitutions = Catalog.substitutions := by
  obtain ⟨linters, -, rfl⟩ := withDefaults_cases defaults
  rfl

theorem custom_of_withDefaults (defaults : withDefaults = .ok r) : r.custom = ∅ := by
  obtain ⟨linters, added, rfl⟩ := withDefaults_cases defaults
  show linters.custom = ∅
  refine holds_of_foldlM (motive := fun r => r.custom = ∅) rfl ?_ added
  intro b _ before after none added
  obtain ⟨spec, d, -, rfl⟩ := addBuiltin_cases added
  exact none

/-! ## Definitions -/

/-- A specification that does not pass the checks changes nothing. -/
theorem run_defining_of_error {name : String} {spec : LinterSpec} {e : ConfigError} (refused :
      LinterDefinition.ofSpec name (((Catalog.spec? name).getD {}).overlay spec) = .error e)
    (r : Registry) : (defining name spec).run.run r = (.error e, r) := by
  rw [defining, refused]
  rfl

/-- A linter that passes the checks is put in its place. It runs by default if it did before, and
the rules stay as they are. -/
theorem run_defining_of_ok {name : String} {spec : LinterSpec} {d : LinterDefinition}
    (checked : LinterDefinition.ofSpec name (((Catalog.spec? name).getD {}).overlay spec) = .ok d)
    (r : Registry) :
    (defining name spec).run.run r =
      (.ok (), { r.insert { d with defaultEnabled := r.runsByDefault name } with
        custom := r.custom.insert name }) := by
  obtain ⟨-, -, disabled⟩ := LinterDefinition.of_ofSpec checked
  have same : ((r.get? name).getD d).defaultEnabled = r.runsByDefault name := by
    rw [runsByDefault]
    cases r.get? name with
    | none => exact disabled
    | some existing => rfl
  rw [defining, checked, ← same]
  rfl

/-- Defining a linter checks what is specified of it over the built-in linter of its name, and puts
it in its place. -/
theorem define_cases {name : String} {spec : LinterSpec} (defined : r.define name spec = .ok r') :
    ∃ d, LinterDefinition.ofSpec name (((Catalog.spec? name).getD {}).overlay spec) = .ok d ∧
      r' = { r.insert { d with defaultEnabled := r.runsByDefault name } with
        custom := r.custom.insert name } := by
  rw [define] at defined
  cases checked : LinterDefinition.ofSpec name (((Catalog.spec? name).getD {}).overlay spec) with
  | error e =>
    rw [run_defining_of_error checked] at defined
    cases defined
  | ok d =>
    rw [run_defining_of_ok checked] at defined
    exact ⟨d, rfl, (Except.ok.inj defined).symm⟩

/-- A definition that succeeds changes the registry to the one with the linter. -/
theorem run_defining_of_define {name : String} {spec : LinterSpec}
    (defined : r.define name spec = .ok r') : (defining name spec).run.run r = (.ok (), r') := by
  obtain ⟨d, checked, rfl⟩ := define_cases defined
  exact run_defining_of_ok checked r

/-- A definition that fails leaves the registry as it was. -/
theorem run_defining_of_failed {name : String} {spec : LinterSpec} {e : ConfigError}
    (failed : r.define name spec = .error e) : (defining name spec).run.run r = (.error e, r) := by
  rw [define] at failed
  cases checked : LinterDefinition.ofSpec name (((Catalog.spec? name).getD {}).overlay spec) with
  | error e' =>
    rw [run_defining_of_error checked] at failed ⊢
    rw [Except.error.inj failed]
  | ok d =>
    rw [run_defining_of_ok checked] at failed
    cases failed

/-- The registries that come from the empty one or the default one by definitions. A definition
that is refused leaves the registry as it is. -/
inductive Reachable : Registry → Prop where
  | empty : Reachable empty
  | defaults {r : Registry} (defaults : withDefaults = .ok r) : Reachable r
  | define {r r' : Registry} {name : String} {spec : LinterSpec} (reachable : Reachable r)
      (defined : r.define name spec = .ok r') : Reachable r'

/-- **A reachable registry holds what has been checked.** -/
theorem Reachable.checked (reachable : r.Reachable) : r.Checked := by
  induction reachable with
  | empty => exact checked_empty
  | defaults defaults => exact checked_of_withDefaults defaults
  | define _ defined ih =>
    obtain ⟨d, checked, rfl⟩ := define_cases defined
    exact ih.insert checked _

theorem Reachable.wellNamed (reachable : r.Reachable) : r.WellNamed :=
  reachable.checked.wellNamed

theorem Reachable.substitutions (reachable : r.Reachable) :
    r.substitutions = [] ∨ r.substitutions = Catalog.substitutions := by
  induction reachable with
  | empty => exact .inl rfl
  | defaults defaults => exact .inr (substitutions_of_withDefaults defaults)
  | define _ defined ih =>
    obtain ⟨d, -, rfl⟩ := define_cases defined
    exact ih

/-! ## Merge rules -/

/-- The registries that come from the empty one or the default one by definitions and merge
rules. -/
inductive Assembled : Registry → Prop where
  | empty : Assembled empty
  | defaults {r : Registry} (defaults : withDefaults = .ok r) : Assembled r
  | define {r r' : Registry} {name : String} {spec : LinterSpec} (assembled : Assembled r)
      (defined : r.define name spec = .ok r') : Assembled r'
  | addMergeRule {r : Registry} (assembled : Assembled r) (rule : MergeRule) :
      Assembled (r.addMergeRule rule)

/-- **A registry with merge rules is a reachable one but for its merge rules**, to which definitions
pay no attention. -/
theorem Assembled.exists_reachable (assembled : r.Assembled) :
    ∃ base : Registry, base.Reachable ∧ r = { base with mergeRules := r.mergeRules } := by
  induction assembled with
  | empty => exact ⟨_, .empty, rfl⟩
  | defaults defaults => exact ⟨_, .defaults defaults, rfl⟩
  | @define r r' name spec _ defined ih =>
    obtain ⟨base, reachable, same⟩ := ih
    obtain ⟨d, checked, rfl⟩ := define_cases defined
    obtain ⟨base', defined'⟩ : ∃ base', base.define name spec = .ok base' := by
      rw [Registry.define, run_defining_of_ok checked]
      exact ⟨_, rfl⟩
    obtain ⟨d', checked', rfl⟩ := define_cases defined'
    obtain rfl : d = d' := Except.ok.inj (checked.symm.trans checked')
    refine ⟨_, reachable.define defined', ?_⟩
    rw [same]
    rfl
  | @addMergeRule r _ rule ih =>
    obtain ⟨base, reachable, same⟩ := ih
    refine ⟨base, reachable, ?_⟩
    rw [same]
    rfl

theorem Assembled.wellNamed (assembled : r.Assembled) : r.WellNamed := by
  obtain ⟨base, reachable, same⟩ := assembled.exists_reachable
  rw [same]
  exact reachable.wellNamed

end Registry

end LintRun
