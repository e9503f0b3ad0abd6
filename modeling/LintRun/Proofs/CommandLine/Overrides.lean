import LintRun.Proofs.CommandLine.Layers

/-!
# Overridden settings

Flags give values for settings that a configuration has values for as well. What a configuration is
without these settings (`Config.without`) is all that a policy is made of, with one exception: the
time that it allows a job is read while it is put over the defaults, and when it cannot be read
there is no policy, whether a flag gives another time or not. The format, the sort keys and the
number of jobs are checked at the end, when those of the flags have replaced them.

So two configurations that are the same without the overridden settings come to the same, unless the
time of one of them cannot be read (`buildPolicy_eq_iff`).
-/

set_option autoImplicit false

namespace LintRun

/-- A configuration without the settings that flags give values for. -/
def Config.without (c : Config) (f : Flags) : Config :=
  { c with
    format := if f.format.isSome then none else c.format
    concurrency := if f.concurrency.isSome then none else c.concurrency
    deadline := if f.deadline.isSome then none else c.deadline
    sort := if f.sort = [] then c.sort else [] }

/-- What is wrong with the time that a layer gives, if it gives one. -/
def deadlineFault? : Option String → Option ConfigError
  | none => none
  | some text =>
    match Duration.ofText? text with
    | some _ => none
    | none => some (.duration (Text.trim text))

theorem readDeadline_eq_error {given : Option String} {fault : ConfigError}
    (refused : deadlineFault? given = some fault) (before : Duration) :
    readDeadline given before = .error fault := by
  cases given with
  | none => cases refused
  | some text =>
    rw [deadlineFault?] at refused
    rw [readDeadline]
    cases read : Duration.ofText? text with
    | none =>
      simp only [read, Option.some.injEq] at refused
      exact congrArg Except.error refused
    | some deadline => simp only [read, reduceCtorEq] at refused

theorem exists_readDeadline {given : Option String} (fine : deadlineFault? given = none)
    (before : Duration) : ∃ deadline, readDeadline given before = .ok deadline := by
  cases given with
  | none => exact ⟨before, rfl⟩
  | some text =>
    rw [deadlineFault?] at fine
    cases read : Duration.ofText? text with
    | none => simp only [read, reduceCtorEq] at fine
    | some deadline => exact ⟨deadline, by simp only [readDeadline, read]⟩

theorem exists_duration {given : Option String} {fault : ConfigError}
    (refused : deadlineFault? given = some fault) : ∃ text, fault = .duration text := by
  cases given with
  | none => cases refused
  | some text =>
    rw [deadlineFault?] at refused
    split at refused
    · cases refused
    · exact ⟨Text.trim text, (Option.some.inj refused).symm⟩

/-! ## Errors about times -/

/-- Whether an error is about something else than a time. -/
def NoDuration : ConfigError → Prop
  | .duration _ => False
  | _ => True

theorem Flags.pairs_failsOnly (flag : String) (separator : Char) (values : List String) :
    FailsOnly NoDuration (Flags.pairs flag separator values) := by
  refine .mapM (fun value => ?_) values
  rw [Flags.splitPair]
  rcases LinterSpec.splitOnce separator value.toList with _ | ⟨_ | ⟨c, name⟩, text⟩
  · exact .error trivial
  · exact .error trivial
  · exact .ok _

theorem SortKey.ofNames_failsOnly (names : List String) :
    FailsOnly NoDuration (SortKey.ofNames names) := by
  refine .mapM (fun name => ?_) names
  cases SortKey.ofName? name with
  | none => exact .error trivial
  | some key => exact .ok key

theorem IssueFilter.ofPatterns_failsOnly [Regex.SizeRule] (keeping dropping : List String) :
    FailsOnly NoDuration (IssueFilter.ofPatterns keeping dropping) := by
  have joins (kind : FilterKind) (patterns : List String) :
      FailsOnly NoDuration (IssueFilter.joinPatterns kind patterns) := by
    rw [IssueFilter.joinPatterns]
    by_cases none : patterns.isEmpty = true
    · rw [if_pos none]
      exact .ok _
    · rw [if_neg none]
      cases Regex.compile ("|".intercalate patterns) with
      | error fault => exact .error trivial
      | ok regex => exact .ok _
  exact (joins _ _).bind fun _ => (joins _ _).bind fun _ => .ok _

namespace PolicyBuilder

theorem checkFormat_failsOnly (source : String) :
    FailsOnly NoDuration (checkFormat source) := by
  rw [checkFormat]
  cases Template.parseWithFields source Issue.formatFields with
  | error fault => exact .error trivial
  | ok template => exact .ok template

theorem checkSeverity_failsOnly (text : String) :
    FailsOnly NoDuration (checkSeverity text) := by
  rw [checkSeverity]
  cases Severity.ofText? text with
  | none => exact .error trivial
  | some severity => exact .ok severity

theorem checkTemplate_failsOnly (source : String) :
    FailsOnly NoDuration (checkTemplate source) := by
  rw [checkTemplate]
  cases Template.parse source with
  | error fault => exact .error trivial
  | ok template => exact .ok template

theorem checkAll_failsOnly {α β : Type} {check : α → Except ConfigError β}
    (step : ∀ a, FailsOnly NoDuration (check a)) (d : Dict α) :
    FailsOnly NoDuration (checkAll check d) :=
  .bind (.mapM (fun e => (step e.2).bind fun _ => .ok _) d.entries) fun _ => .ok _

theorem build_failsOnly [Regex.SizeRule] (machine : Machine) (b : PolicyBuilder) :
    FailsOnly NoDuration (b.build machine) := by
  rw [build]
  by_cases zero : b.concurrency = some 0
  · rw [if_pos zero]
    exact .error trivial
  · rw [if_neg zero]
    exact (checkFormat_failsOnly _).bind fun _ => (SortKey.ofNames_failsOnly _).bind fun _ =>
      (IssueFilter.ofPatterns_failsOnly _ _).bind fun _ =>
      (checkAll_failsOnly checkSeverity_failsOnly _).bind fun _ =>
      (checkAll_failsOnly checkTemplate_failsOnly _).bind fun _ => .ok _

end PolicyBuilder

/-! ## Configurations that differ in overridden settings -/

variable {machine : Machine} {c c' : Config} {f : Flags}

theorem layered_without (c : Config) (f : Flags) :
    layered (c.without f) f = layered c f := by
  have format : f.format.or (c.without f).format = f.format.or c.format := by
    rw [Config.without]
    cases f.format <;> rfl
  have concurrency : f.concurrency.or (c.without f).concurrency =
      f.concurrency.or c.concurrency := by
    rw [Config.without]
    cases f.concurrency <;> rfl
  have sort : (if f.sort.isEmpty then (c.without f).sort else f.sort) =
      if f.sort.isEmpty then c.sort else f.sort := by
    rw [Config.without]
    cases f.sort <;> rfl
  funext root deadline severity messages vars
  rw [layered, layered, format, concurrency, sort]
  rfl

section Overridden

variable [Regex.SizeRule]

/-- The first time that cannot be read, that of the configuration or else that of the flags, is all
that is said. -/
theorem buildPolicy_eq_error {fault : ConfigError}
    (refused : (deadlineFault? c.deadline).or (deadlineFault? f.deadline) = some fault)
    (root : String) : buildPolicy machine c f root = .error fault := by
  rw [buildPolicy_eq]
  cases config : deadlineFault? c.deadline with
  | some first =>
    rw [config] at refused
    cases refused
    rw [readDeadline_eq_error config]
    rfl
  | none =>
    obtain ⟨lower, read⟩ := exists_readDeadline config defaultDeadline
    rw [config] at refused
    rw [read]
    show (readDeadline f.deadline lower >>= _) = _
    rw [readDeadline_eq_error refused]
    rfl

/-- Where all times can be read, what the flags override says nothing. -/
theorem buildPolicy_without
    (fine : (deadlineFault? c.deadline).or (deadlineFault? f.deadline) = none) (root : String) :
    buildPolicy machine c f root = buildPolicy machine (c.without f) f root := by
  rw [buildPolicy_eq, buildPolicy_eq machine (c.without f), layered_without]
  cases given : f.deadline with
  | none =>
    have kept : (c.without f).deadline = c.deadline := by
      rw [Config.without, given]
      rfl
    rw [kept]
  | some text =>
    have dropped : (c.without f).deadline = none := by
      rw [Config.without, given]
      rfl
    have config := (Option.or_eq_none_iff.mp fine).1
    obtain ⟨lower, read⟩ := exists_readDeadline config defaultDeadline
    rw [dropped, read]
    rfl

theorem buildPolicy_failsOnly
    (fine : (deadlineFault? c.deadline).or (deadlineFault? f.deadline) = none) (root : String) :
    FailsOnly NoDuration (buildPolicy machine c f root) := by
  obtain ⟨config, flags⟩ := Option.or_eq_none_iff.mp fine
  obtain ⟨lower, lowerOk⟩ := exists_readDeadline config defaultDeadline
  obtain ⟨deadline, deadlineOk⟩ := exists_readDeadline flags lower
  rw [buildPolicy_eq, lowerOk]
  show FailsOnly NoDuration (readDeadline f.deadline lower >>= _)
  rw [deadlineOk]
  exact (Flags.pairs_failsOnly _ _ _).bind fun _ => (Flags.pairs_failsOnly _ _ _).bind fun _ =>
    (Flags.pairs_failsOnly _ _ _).bind fun _ => PolicyBuilder.build_failsOnly _ _

theorem buildPolicy_ne {fault : ConfigError}
    (refused : (deadlineFault? c.deadline).or (deadlineFault? f.deadline) = some fault)
    (fine : (deadlineFault? c'.deadline).or (deadlineFault? f.deadline) = none) (root : String) :
    buildPolicy machine c f root ≠ buildPolicy machine c' f root := by
  intro equal
  rw [buildPolicy_eq_error refused] at equal
  have duration : ∃ text, fault = .duration text := by
    rcases Option.or_eq_some_iff.mp refused with config | ⟨-, flags⟩
    · exact exists_duration config
    · exact exists_duration flags
  obtain ⟨text, rfl⟩ := duration
  exact buildPolicy_failsOnly fine root _ equal.symm

/-- **Overridden settings say nothing, apart from a time that cannot be read.** Two configurations
that are the same without what the flags override come to the same exactly if the first time that
cannot be read, in the configuration or else in the flags, is the same for both. -/
theorem buildPolicy_eq_iff (same : c.without f = c'.without f) (root : String) :
    buildPolicy machine c f root = buildPolicy machine c' f root ↔
      (deadlineFault? c.deadline).or (deadlineFault? f.deadline) =
        (deadlineFault? c'.deadline).or (deadlineFault? f.deadline) := by
  cases first : (deadlineFault? c.deadline).or (deadlineFault? f.deadline) with
  | some fault =>
    cases second : (deadlineFault? c'.deadline).or (deadlineFault? f.deadline) with
    | some fault' =>
      rw [buildPolicy_eq_error first, buildPolicy_eq_error second, Except.error.injEq,
        Option.some.injEq]
    | none => exact iff_of_false (buildPolicy_ne first second root) nofun
  | none =>
    cases second : (deadlineFault? c'.deadline).or (deadlineFault? f.deadline) with
    | some fault => exact iff_of_false (buildPolicy_ne second first root).symm nofun
    | none =>
      rw [buildPolicy_without first, buildPolicy_without second, same]
      exact iff_of_true rfl rfl

end Overridden

namespace Overrides.Sample

/-- Flags that give a value for each setting of which a configuration's value can be overridden. -/
def flags : Flags where
  format := some "\x7bpath\x7d"
  concurrency := some 2
  deadline := some "5s"
  sort := ["line"]

/-- A configuration with values that would be refused, apart from the time. -/
def unusable : Config where
  format := some "\x7b"
  concurrency := some 0
  deadline := some "1h"
  sort := ["colour"]

end Overrides.Sample

open Overrides.Sample Regex.SizeRule in
theorem buildPolicy_eq_unusable :
    unusable.without flags = Config.without {} flags ∧
      buildPolicy {} unusable flags "/w" = buildPolicy {} {} flags "/w" :=
  have same : unusable.without flags = Config.without {} flags := by decide
  ⟨same, (buildPolicy_eq_iff same "/w").mpr (by decide)⟩

open Overrides.Sample Regex.SizeRule in
/-- A time that cannot be read is refused although the flags give another. -/
theorem overridden_time_refused :
    Config.without { deadline := some "soon" } flags =
        Config.without { deadline := some "1h" } flags ∧
      buildPolicy {} { deadline := some "soon" } flags "/w" = .error (.duration "soon") ∧
      ∃ p, buildPolicy {} { deadline := some "1h" } flags "/w" = .ok p := by
  refine ⟨by decide, buildPolicy_eq_error (by decide) "/w", ?_⟩
  exact exists_ok_of_isSome (by decide +kernel)

end LintRun
