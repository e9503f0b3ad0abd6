import LintRun.CommandLine.Settings
import LintRun.Proofs.Dictionaries
import LintRun.Proofs.Text.Cutting

/-!
# Layers of settings

The settings of a run come from three layers: the flags lie over the configuration of the project,
and this lies over the defaults. Each layer is put over the one below by changing settings one after
another, and everything is checked at the end, apart from the time that a job may take, which each
layer checks at once. What this comes to is one computation (`buildPolicy_eq`), in which the value
of a setting is that of the topmost layer with a value (`layered`).

So when a policy comes out, each of its settings is that of the topmost layer that sets it
(`layers_of_buildPolicy`).
-/

set_option autoImplicit false

namespace LintRun

/-! ## One layer -/

/-- The time that a text allows, or what is wrong with it. Without a text the time is as it was. -/
def readDeadline (given : Option String) (before : Duration) : Except ConfigError Duration :=
  match given with
  | none => .ok before
  | some text =>
    match Duration.ofText? text with
    | some deadline => .ok deadline
    | none => .error (.duration (Text.trim text))

/-- The variables that tell whether test files are included, when they are. -/
def testVars : List (String × String) :=
  [("tests", "true"), ("not_tests", "")]

/-- The variables of a layer that may include test files. -/
def withTests (tests : Bool) (vars : Dict String) : Dict String :=
  if tests then vars.insertAll testVars else vars

namespace Flags

/-- The names with their texts that the values of a flag give. -/
def pairs (flag : String) (separator : Char) (values : List String) :
    Except ConfigError (List (String × String)) :=
  values.mapM fun value => splitPair flag value separator

theorem applyPairs_eq (flag : String) (separator : Char)
    (set : PolicyBuilder → String → String → PolicyBuilder) (values : List String)
    (b : PolicyBuilder) :
    applyPairs flag separator set values b = (do
      let es ← pairs flag separator values
      return es.foldl (fun b e => set b e.1 e.2) b) := by
  induction values generalizing b with
  | nil => rfl
  | cons value rest ih =>
    rw [applyPairs, pairs, List.foldlM_cons, List.mapM_cons]
    cases splitPair flag value separator with
    | error fault => rfl
    | ok e =>
      refine (ih (set b e.1 e.2)).trans ?_
      rw [pairs]
      cases rest.mapM fun value => splitPair flag value separator <;> rfl

end Flags

/-- Setting a dictionary anew for one entry after another sets it to the one with all of them. -/
theorem foldl_put (get : PolicyBuilder → Dict String)
    (put : PolicyBuilder → Dict String → PolicyBuilder) (get_put : ∀ b d, get (put b d) = d)
    (put_put : ∀ b d d', put (put b d) d' = put b d') (put_get : ∀ b, put b (get b) = b)
    (es : List (String × String)) (b : PolicyBuilder) :
    es.foldl (fun b e => put b ((get b).insert e.1 e.2)) b = put b ((get b).insertAll es) := by
  induction es generalizing b with
  | nil => exact (put_get b).symm
  | cons e es ih =>
    rw [List.foldl_cons, ih, get_put, put_put]
    rfl

theorem foldl_setSeverity (es : List (String × String)) (b : PolicyBuilder) :
    es.foldl (fun b e => b.setSeverity e.1 e.2) b =
      { b with severity := b.severity.insertAll es } :=
  foldl_put PolicyBuilder.severity (fun b severity => { b with severity })
    (fun _ _ => rfl) (fun _ _ _ => rfl) (fun _ => rfl) es b

theorem foldl_setMessage (es : List (String × String)) (b : PolicyBuilder) :
    es.foldl (fun b e => b.setMessage e.1 e.2) b =
      { b with messageOverrides := b.messageOverrides.insertAll es } :=
  foldl_put PolicyBuilder.messageOverrides (fun b messageOverrides => { b with messageOverrides })
    (fun _ _ => rfl) (fun _ _ _ => rfl) (fun _ => rfl) es b

theorem foldl_var (es : List (String × String)) (b : PolicyBuilder) :
    es.foldl (fun b e => b.var e.1 e.2) b = { b with vars := b.vars.insertAll es } :=
  foldl_put PolicyBuilder.vars (fun b vars => { b with vars })
    (fun _ _ => rfl) (fun _ _ _ => rfl) (fun _ => rfl) es b

namespace PolicyBuilder

variable (b : PolicyBuilder)

theorem setIfGiven_format (given : Option String) :
    b.setIfGiven given (fun b format => { b with format }) =
      { b with format := given.getD b.format } := by
  cases given <;> rfl

theorem setIfGiven_concurrency (given : Option UInt64) :
    b.setIfGiven given (fun b concurrency => { b with concurrency := some concurrency.toNat }) =
      { b with concurrency := (given.map (·.toNat)).or b.concurrency } := by
  cases given <;> rfl

theorem setSort_eq (keys : List String) :
    (if keys.isEmpty then b else { b with sort := keys }) =
      { b with sort := if keys.isEmpty then b.sort else keys } := by
  split <;> rfl

theorem setTests_eq (tests : Bool) :
    (if tests then b.tests true else b) = { b with vars := withTests tests b.vars } := by
  cases tests <;> rfl

end PolicyBuilder

open PolicyBuilder

theorem Config.apply_eq (c : Config) (b : PolicyBuilder) :
    c.apply b = (readDeadline c.deadline b.deadline).map fun deadline => { b with
      concurrency := (c.concurrency.map (·.toNat)).or b.concurrency
      deadline
      aggregate := c.aggregate
      sort := if c.sort.isEmpty then b.sort else c.sort
      keeping := b.keeping ++ c.keep
      dropping := b.dropping ++ c.exclude
      format := c.format.getD b.format
      severity := b.severity.overlay c.severity
      messageOverrides := b.messageOverrides.overlay c.messageOverrides
      vars := (withTests c.tests b.vars).overlay c.vars
      warnUnmatchedNolint := c.warnUnmatchedNolint
      errorsOnly := c.errors
      output := c.output } := by
  rw [Config.apply]
  simp only [setIfGiven_format, setIfGiven_concurrency, setSort_eq, setTests_eq]
  cases c.deadline with
  | none => rfl
  | some text =>
    rw [readDeadline]
    simp only [setDeadline]
    cases Duration.ofText? text <;> rfl

theorem Flags.apply_eq (f : Flags) (b : PolicyBuilder) :
    f.apply b = (do
      let deadline ← readDeadline f.deadline b.deadline
      let severity ← pairs "severity" ':' f.severity
      let messages ← pairs "message-overrides" ':' f.messageOverrides
      let vars ← pairs "var" '=' f.vars
      return { b with
        concurrency := (f.concurrency.map (·.toNat)).or b.concurrency
        deadline
        sort := if f.sort.isEmpty then b.sort else f.sort
        keeping := b.keeping ++ f.keep
        dropping := b.dropping ++ f.exclude
        format := f.format.getD b.format
        severity := b.severity.insertAll severity
        messageOverrides := b.messageOverrides.insertAll messages
        vars := (withTests f.tests b.vars).insertAll vars }) := by
  rw [Flags.apply]
  simp only [setIfGiven_format, setIfGiven_concurrency, setSort_eq, setTests_eq, applyPairs_eq,
    foldl_setSeverity, foldl_setMessage, foldl_var]
  cases f.deadline with
  | none => simp only [readDeadline, bind_assoc, pure_bind]; rfl
  | some text =>
    rw [readDeadline]
    simp only [setDeadline]
    cases Duration.ofText? text with
    | none => rfl
    | some deadline => simp only [bind_assoc, pure_bind]; rfl

/-! ## All layers -/

/-- What the settings are when all layers have been put over one another. -/
def layered (c : Config) (f : Flags) (root : String) (deadline : Duration)
    (severity messages vars : List (String × String)) : PolicyBuilder where
  concurrency := (f.concurrency.or c.concurrency).map (·.toNat)
  deadline
  aggregate := c.aggregate || f.aggregate
  sort := if f.sort.isEmpty then c.sort else f.sort
  keeping := c.keep ++ f.keep
  dropping := c.exclude ++ f.exclude
  format := (f.format.or c.format).getD Issue.defaultFormat
  severity := (Dict.empty.overlay c.severity).insertAll severity
  messageOverrides :=
    ((Dict.ofList Catalog.messageOverrides).overlay c.messageOverrides).insertAll messages
  vars :=
    let lower := (withTests c.tests (.ofList Catalog.defaultVars)).overlay c.vars
    (withTests f.tests lower).insertAll vars
  warnUnmatchedNolint := c.warnUnmatchedNolint || f.warnUnmatchedNolint
  errorsOnly := c.errors || f.errors
  output := outputOf c f
  root := some root

/-- The policy of all layers: first the times are read, then the values of flags with names, and at
last all settings are checked together. -/
theorem buildPolicy_eq [Regex.SizeRule] (machine : Machine) (c : Config) (f : Flags)
    (root : String) :
    buildPolicy machine c f root = (do
      let deadline ← readDeadline f.deadline (← readDeadline c.deadline defaultDeadline)
      let severity ← Flags.pairs "severity" ':' f.severity
      let messages ← Flags.pairs "message-overrides" ':' f.messageOverrides
      let vars ← Flags.pairs "var" '=' f.vars
      (layered c f root deadline severity messages vars).build machine) := by
  have format : f.format.getD (c.format.getD Issue.defaultFormat) =
      (f.format.or c.format).getD Issue.defaultFormat := by
    cases f.format <;> rfl
  have concurrency : (f.concurrency.map (·.toNat)).or ((c.concurrency.map (·.toNat)).or none) =
      (f.concurrency.or c.concurrency).map (·.toNat) := by
    cases f.concurrency <;> cases c.concurrency <;> rfl
  have sort : (if c.sort.isEmpty then [] else c.sort) = c.sort := by
    cases c.sort <;> rfl
  rw [buildPolicy, Config.apply_eq]
  cases readDeadline c.deadline defaultDeadline with
  | error fault => rfl
  | ok deadline =>
    simp only [Except.map, bind_assoc, pure_bind, Flags.apply_eq, layered, sort, ← format,
      ← concurrency]
    rfl

/-! ## Names in the values of flags -/

namespace Flags

/-- The text that the value of a flag gives to a name. -/
def givenFor? (separator : Char) (name value : String) : Option String := do
  let (first, rest) ← LinterSpec.splitOnce separator value.toList
  if String.ofList first = name then some (.ofList rest) else none

/-- The last text that the values of a flag give to a name. -/
def lastFor? (separator : Char) (values : List String) (name : String) : Option String :=
  (values.filterMap (givenFor? separator name)).getLast?

/-- A value gives a text to a name when it is the name, the separator and the text. -/
theorem givenFor?_eq_some_iff {separator : Char} {name value text : String} :
    givenFor? separator name value = some text ↔
      value.toList = name.toList ++ separator :: text.toList ∧ separator ∉ name.toList := by
  rw [givenFor?, ← Text.splitOnce_eq_some_iff]
  cases LinterSpec.splitOnce separator value.toList with
  | none => exact ⟨nofun, nofun⟩
  | some parts =>
    obtain ⟨first, rest⟩ := parts
    simp only [Option.bind_eq_bind, Option.bind_some, Option.some.injEq, Prod.mk.injEq,
      Option.ite_none_right_eq_some]
    constructor
    · rintro ⟨rfl, rfl⟩
      exact ⟨String.toList_ofList.symm, String.toList_ofList.symm⟩
    · rintro ⟨rfl, rfl⟩
      exact ⟨String.ofList_toList, String.ofList_toList⟩

/-- The last text for a name is that of the last value with the name in front. -/
theorem lastFor?_eq_some_iff {separator : Char} {values : List String} {name text : String} :
    lastFor? separator values name = some text ↔
      ∃ before value after, values = before ++ value :: after ∧
        (value.toList = name.toList ++ separator :: text.toList ∧ separator ∉ name.toList) ∧
        ∀ later ∈ after, givenFor? separator name later = none := by
  rw [lastFor?, List.getLast?_filterMap, List.findSome?_eq_some_iff]
  constructor
  · rintro ⟨after, value, before, reversed, given, silent⟩
    refine ⟨before.reverse, value, after.reverse, ?_, givenFor?_eq_some_iff.mp given,
      fun later member => silent later (List.mem_reverse.mp member)⟩
    rw [← List.reverse_inj, reversed]
    simp
  · rintro ⟨before, value, after, rfl, given, silent⟩
    refine ⟨after.reverse, value, before.reverse, by simp, givenFor?_eq_some_iff.mpr given,
      fun later member => silent later (List.mem_reverse.mp member)⟩

theorem splitPair_eq_ok {flag value : String} {separator : Char} {e : String × String}
    (read : splitPair flag value separator = .ok e) (name : String) :
    givenFor? separator name value = if e.1 = name then some e.2 else none := by
  rw [splitPair] at read
  rw [givenFor?]
  cases split : LinterSpec.splitOnce separator value.toList with
  | none => rw [split] at read; cases read
  | some parts =>
    obtain ⟨first, rest⟩ := parts
    rw [split] at read
    cases first with
    | nil => cases read
    | cons c first =>
      cases read
      rfl

theorem valuesOf_pairs {flag : String} {separator : Char} {values : List String}
    {es : List (String × String)} (read : pairs flag separator values = .ok es) (name : String) :
    valuesOf name es = values.filterMap (givenFor? separator name) := by
  induction values generalizing es with
  | nil =>
    cases read
    rfl
  | cons value rest ih =>
    rw [pairs, List.mapM_cons] at read
    obtain ⟨e, first, read⟩ := exists_ok_of_bind read
    obtain ⟨others, later, read⟩ := exists_ok_of_bind read
    cases read
    rw [valuesOf_cons, List.filterMap_cons, splitPair_eq_ok first, ih later]
    by_cases here : e.1 = name
    · rw [if_pos here, if_pos here]
    · rw [if_neg here, if_neg here]

end Flags

/-! ## The settings of a policy -/

namespace PolicyBuilder

/-- What the settings of a policy are checked from. -/
structure Builds [Regex.SizeRule] (machine : Machine) (b : PolicyBuilder) (p : Policy) : Prop where
  concurrency : p.concurrency = b.concurrency.getD (machine.processors.getD 1)
  deadline : p.deadline = b.deadline
  aggregate : p.aggregate = b.aggregate
  sort : SortKey.ofNames b.sort = .ok p.sort
  filter : IssueFilter.ofPatterns b.keeping b.dropping = .ok p.filter
  format : checkFormat b.format = .ok p.format
  severity : checkAll checkSeverity b.severity = .ok p.severity
  messageOverrides : checkAll checkTemplate b.messageOverrides = .ok p.messageOverrides
  vars : p.vars = b.vars
  warnUnmatchedNolint : p.warnUnmatchedNolint = b.warnUnmatchedNolint
  errorsOnly : p.errorsOnly = b.errorsOnly
  output : p.output = b.output
  root : p.root = b.root.getD (machine.currentDirectory.getD ".")

theorem builds_of_build [Regex.SizeRule] {machine : Machine} {b : PolicyBuilder} {p : Policy}
    (result : b.build machine = .ok p) : b.Builds machine p := by
  rw [build] at result
  split at result
  · cases result
  · obtain ⟨format, formatOk, result⟩ := exists_ok_of_bind result
    obtain ⟨sort, sortOk, result⟩ := exists_ok_of_bind result
    obtain ⟨filter, filterOk, result⟩ := exists_ok_of_bind result
    obtain ⟨severity, severityOk, result⟩ := exists_ok_of_bind result
    obtain ⟨messages, messagesOk, result⟩ := exists_ok_of_bind result
    cases result
    exact ⟨rfl, rfl, rfl, sortOk, filterOk, formatOk, severityOk, messagesOk, rfl, rfl, rfl, rfl,
      rfl⟩

end PolicyBuilder

/-- The value that a layer gives to a variable when it includes test files. -/
def testsFor (tests : Bool) (name : String) : Option String :=
  if tests then testVars.lookup name else none

theorem get?_withTests (tests : Bool) (vars : Dict String) (name : String) :
    (withTests tests vars).get? name = (testsFor tests name).or (vars.get? name) := by
  cases tests with
  | false => rfl
  | true =>
    show (vars.insertAll testVars).get? name = _
    rw [Dict.get?_insertAll, getLast?_valuesOf (by decide)]
    rfl

/-- Whether the settings of a policy are those of the topmost layer that sets them. -/
structure Layers [Regex.SizeRule] (machine : Machine) (c : Config) (f : Flags) (root : String)
    (p : Policy) : Prop where
  format : PolicyBuilder.checkFormat ((f.format.or c.format).getD Issue.defaultFormat) =
    .ok p.format
  /-- The number of processors counts if no layer says how many jobs run at a time. -/
  concurrency : p.concurrency =
    ((f.concurrency.or c.concurrency).map (·.toNat)).getD (machine.processors.getD 1)
  deadline : ((f.deadline.or c.deadline).map Duration.ofText?).getD (some defaultDeadline) =
    some p.deadline
  sort : SortKey.ofNames (if f.sort = [] then c.sort else f.sort) = .ok p.sort
  /-- A document by file is in the order of paths, whatever the keys are. -/
  sortKeys : p.sortKeys = if p.output = .checkstyle then [.path] else p.sort
  severity : ∀ linter,
    ((Flags.lastFor? ':' f.severity linter).or (c.severity.get? linter)).map
      PolicyBuilder.checkSeverity = (p.severityFor linter).map .ok
  messageOverrides : ∀ linter,
    ((Flags.lastFor? ':' f.messageOverrides linter).or (c.messageOverrides.get? linter)
      |>.or (Catalog.messageOverrides.lookup linter)).map
        PolicyBuilder.checkTemplate = (p.messageOverride linter).map .ok
  vars : ∀ name, p.var name =
    ((Flags.lastFor? '=' f.vars name).or (testsFor f.tests name)
      |>.or (c.vars.get? name) |>.or (testsFor c.tests name)
      |>.or (Catalog.defaultVars.lookup name))
  filter : IssueFilter.ofPatterns (c.keep ++ f.keep) (c.exclude ++ f.exclude) = .ok p.filter
  aggregate : p.aggregate = true ↔ c.aggregate = true ∨ f.aggregate = true
  errorsOnly : p.errorsOnly = true ↔ c.errors = true ∨ f.errors = true
  warnUnmatchedNolint : p.warnUnmatchedNolint = true ↔
    c.warnUnmatchedNolint = true ∨ f.warnUnmatchedNolint = true
  output : p.output =
    if c.json = true ∨ f.json = true then .json
    else if c.checkstyle = true ∨ f.checkstyle = true then .checkstyle
    else .text
  root : p.root = root

theorem ofText?_of_readDeadline {text : String} {before deadline : Duration}
    (read : readDeadline (some text) before = .ok deadline) :
    Duration.ofText? text = some deadline := by
  rw [readDeadline] at read
  cases told : Duration.ofText? text with
  | none =>
    simp only [told] at read
    cases read
  | some time =>
    simp only [told] at read
    cases read
    rfl

theorem readDeadline_layers {given below : Option String} {before lower deadline : Duration}
    (first : readDeadline below before = .ok lower)
    (second : readDeadline given lower = .ok deadline) :
    ((given.or below).map Duration.ofText?).getD (some before) = some deadline := by
  cases given with
  | some text => exact ofText?_of_readDeadline second
  | none =>
    cases second
    cases below with
    | some text => exact ofText?_of_readDeadline first
    | none =>
      cases first
      rfl

/-- **Every setting comes from the topmost layer that sets it.** -/
theorem layers_of_buildPolicy [Regex.SizeRule] {machine : Machine} {c : Config} {f : Flags}
    {root : String} {p : Policy} (result : buildPolicy machine c f root = .ok p) :
    Layers machine c f root p := by
  rw [buildPolicy_eq] at result
  obtain ⟨lower, lowerOk, result⟩ := exists_ok_of_bind result
  obtain ⟨deadline, deadlineOk, result⟩ := exists_ok_of_bind result
  obtain ⟨severity, severityOk, result⟩ := exists_ok_of_bind result
  obtain ⟨messages, messagesOk, result⟩ := exists_ok_of_bind result
  obtain ⟨vars, varsOk, result⟩ := exists_ok_of_bind result
  have builds := PolicyBuilder.builds_of_build result
  have defaults : (∀ linter, (Dict.ofList Catalog.messageOverrides).get? linter =
      Catalog.messageOverrides.lookup linter) ∧
      ∀ name, (Dict.ofList Catalog.defaultVars).get? name = Catalog.defaultVars.lookup name :=
    ⟨Dict.get?_ofList (by decide), Dict.get?_ofList (by decide)⟩
  exact {
    format := builds.format
    concurrency := builds.concurrency
    deadline := by
      rw [builds.deadline]
      exact readDeadline_layers lowerOk deadlineOk
    sort := by
      rw [← builds.sort, layered]
      cases f.sort <;> rfl
    sortKeys := by
      rw [Policy.sortKeys]
      cases p.output <;> rfl
    severity := fun linter => by
      have unset : (Dict.empty : Dict String).get? linter = none := rfl
      simp only [Policy.severityFor, ← get?_checkAll builds.severity, layered,
        Dict.get?_insertAll, Dict.get?_overlay, Flags.valuesOf_pairs severityOk, unset,
        Option.or_none, Flags.lastFor?]
    messageOverrides := fun linter => by
      simp only [Policy.messageOverride, ← get?_checkAll builds.messageOverrides, layered,
        Dict.get?_insertAll, Dict.get?_overlay, defaults.1, Flags.valuesOf_pairs messagesOk,
        Option.or_assoc, Flags.lastFor?]
    vars := fun name => by
      simp only [Policy.var, builds.vars, layered, Dict.get?_insertAll, get?_withTests,
        Dict.get?_overlay, defaults.2, Flags.valuesOf_pairs varsOk, Option.or_assoc,
        Flags.lastFor?]
    filter := builds.filter
    aggregate := by rw [builds.aggregate]; exact Bool.or_eq_true_iff
    errorsOnly := by rw [builds.errorsOnly]; exact Bool.or_eq_true_iff
    warnUnmatchedNolint := by rw [builds.warnUnmatchedNolint]; exact Bool.or_eq_true_iff
    output := by
      rw [builds.output]
      show outputOf c f = _
      simp only [outputOf, Bool.or_eq_true, or_comm]
    root := builds.root }

namespace Layers.Sample

/-- A configuration with a value for almost everything. -/
def project : Config where
  format := some "\x7bpath\x7d"
  concurrency := some 2
  deadline := some "1m"
  sort := ["line"]
  severity := .ofList [("golint", "e"), ("vet", "error")]
  messageOverrides := .ofList [("vet", "\x7bmessage\x7d!")]
  keep := ["a"]
  exclude := ["b"]
  tests := true
  vars := .ofList [("mincyclo", "5"), ("tests", "no")]
  checkstyle := true

def machine : Machine where
  processors := some 4

/-- Flags that set some of it again, and some more than once. -/
def flags : Flags where
  format := some "\x7bline\x7d"
  deadline := some "5s"
  severity := ["vet:error", "golint:warning", "vet:warning"]
  messageOverrides := ["gofmt:gofmt"]
  keep := ["c"]
  vars := ["mincyclo=6", "mincyclo=7=8"]
  json := true

end Layers.Sample

open Layers.Sample Regex.SizeRule in
theorem layers_sample :
    ∃ p, buildPolicy machine project flags "/w" = .ok p ∧
      Layers machine project flags "/w" p := by
  have valid : (buildPolicy machine project flags "/w").toOption.isSome = true := by decide +kernel
  obtain ⟨p, built⟩ := exists_ok_of_isSome valid
  exact ⟨p, built, layers_of_buildPolicy built⟩

end LintRun
