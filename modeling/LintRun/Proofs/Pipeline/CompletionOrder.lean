import LintRun.Proofs.Aggregation.Columns
import LintRun.Proofs.Pipeline.Stages
import LintRun.Proofs.Schedule.Orders

/-!
# Reports and the order of completion

The results of the jobs of a run arrive in the order in which the jobs are completed. The
diagnostics are the same in every order, and so are the issues as long as they are not merged.
Merging puts the `i`-th issue of every linter under a key into one group, and a linter that ran on
several targets has its issues in the order in which these jobs were completed. So the merged
issues are the same exactly when the same findings are shown under every key, and in particular
when no linter reports under one key in two of its jobs (`report_perm_iff`).

Sorting leaves issues that its keys do not tell apart in the order in which they arrive. Two orders
of completion give the same list exactly when they give the same issues in the same order in every
class of ties, and in particular when the keys tell all different issues apart that are shown
(`report_issues_eq_iff`).
-/

set_option autoImplicit false

namespace LintRun.Pipeline

open Aggregation Schedule SortKey

variable (r : Registry) (p : Policy) (read : SourceKey → Option String) (sources : List SourceKey)
variable {first second : List JobResult}

/-! ## Stages without merging -/

theorem rawIssues_perm (perm : first.Perm second) :
    (rawIssues r p first).Perm (rawIssues r p second) :=
  (perm.filterMap _).flatMap_right _

theorem kept_perm (perm : first.Perm second) : (kept r p read first).Perm (kept r p read second) :=
  (rawIssues_perm r p perm).filter _

theorem unmatchedDiagnostics_perm (perm : first.Perm second) :
    (unmatchedDiagnostics r p read sources first).Perm
      (unmatchedDiagnostics r p read sources second) := by
  rw [unmatchedDiagnostics, unmatchedDiagnostics]
  split
  · have raw := rawIssues_perm r p perm
    have files := NolintFilter.consulted_perm (nodup_filesAtFirst p read sources) raw
    exact NolintFilter.unmatched_perm files raw
  · exact .refl _

theorem exitDiagnostics_perm (perm : first.Perm second) :
    (exitDiagnostics r first).Perm (exitDiagnostics r second) :=
  (perm.filterMap _).filterMap _

/-! ## Merged issues -/

/-- The same issues are shown exactly when, in case they are merged, the same findings are shown
under every key. -/
theorem shown_perm_iff (perm : first.Perm second) :
    (shown r p (kept r p read first)).Perm (shown r p (kept r p read second)) ↔
      (p.aggregate = true → ∀ key,
        ((findings r.mergeRules (kept r p read first) key).filter (shows p)).Perm
          ((findings r.mergeRules (kept r p read second) key).filter (shows p))) := by
  rw [shown, shown]
  cases p.aggregate with
  | false =>
    exact iff_of_true ((kept_perm r p read perm).filter _) fun on => absurd on Bool.false_ne_true
  | true =>
    refine Iff.trans ?_ ⟨fun same _ => same, fun same => same rfl⟩
    exact filter_merge_perm_iff (contributors_kept r p read first)
      (contributors_kept r p read second) (shows p)

/-- Whether no linter has kept issues under one key in the results of two jobs. -/
def Separate (results : List JobResult) : Prop :=
  results.Pairwise fun x y => ∀ a ∈ kept r p read [x], ∀ b ∈ kept r p read [y],
    a.linter = b.linter → keyOf r.mergeRules a ≠ keyOf r.mergeRules b

variable {r p read} in
theorem Separate.of_perm (separate : Separate r p read first) (perm : first.Perm second) :
    Separate r p read second :=
  perm.pairwise separate fun apart a ofA b ofB sameLinter sameKey =>
    apart b ofB a ofA sameLinter.symm sameKey.symm

/-- The rows of the kept issues are made of those of the results. -/
theorem row_kept (results : List JobResult) (key : GroupKey) (name : String) :
    row r.mergeRules (kept r p read results) key name =
      results.flatMap fun result => row r.mergeRules (kept r p read [result]) key name := by
  rw [kept_eq_flatMap, row, List.filter_flatMap]
  rfl

/-- A row that only one result contributes to is the same in every order of the results. -/
theorem row_kept_of_separate (separate : Separate r p read first) (perm : first.Perm second)
    (key : GroupKey) (name : String) :
    row r.mergeRules (kept r p read first) key name =
      row r.mergeRules (kept r p read second) key name := by
  rw [row_kept, row_kept]
  refine Lists.flatMap_eq_of_perm perm (separate.imp fun {x y} apart => ?_)
  -- If two results contributed to the row, they would have issues of one linter under one key.
  by_contra both
  obtain ⟨someX, someY⟩ := not_or.mp both
  obtain ⟨a, ofA⟩ := List.exists_mem_of_ne_nil _ someX
  obtain ⟨b, ofB⟩ := List.exists_mem_of_ne_nil _ someY
  obtain ⟨inX, keyA, linterA⟩ := List.mem_filter.mp ofA |>.imp id of_decide_eq_true
  obtain ⟨inY, keyB, linterB⟩ := List.mem_filter.mp ofB |>.imp id of_decide_eq_true
  exact apart a inX b inY (linterA.trans linterB.symm) (keyA.trans keyB.symm)

/-- The same issues are shown in every order of the results if merged issues are kept apart by the
jobs that they come from. -/
theorem shown_perm_of_separate (perm : first.Perm second)
    (separate : p.aggregate = true → Separate r p read first) :
    (shown r p (kept r p read first)).Perm (shown r p (kept r p read second)) := by
  refine (shown_perm_iff r p read perm).mpr fun enabled key => ?_
  have sameRows := row_kept_of_separate r p read (separate enabled) perm key
  rw [findings_congr (kept_perm r p read perm) sameRows]

/-- The order of the reported issues aside, a report has the issues that are shown. -/
theorem issues_perm_iff (s t : Schedule) :
    (report r p read sources s).issues.Perm (report r p read sources t).issues ↔
      (shown r p (kept r p read s.results)).Perm (shown r p (kept r p read t.results)) := by
  rw [report_eq, report_eq]
  exact (sortIssues_perm _ _).congr_left _ |>.trans ((sortIssues_perm _ _).congr_right _)

/-! ## Sorted issues -/

/-- Sorted issues are the same exactly when the shown ones come in the same order in every class of
ties. -/
theorem issues_eq_iff (s t : Schedule) :
    (report r p read sources s).issues = (report r p read sources t).issues ↔
      ∀ issue, (shown r p (kept r p read s.results)).filter (tied p.sortKeys issue) =
        (shown r p (kept r p read t.results)).filter (tied p.sortKeys issue) := by
  rw [report_eq, report_eq]
  exact sortIssues_eq_iff p.sortKeys _ _

/-- Classes of ties without different issues are the same in every order. -/
theorem filter_tied_eq_of_perm {keys : List SortKey} {issues issues' : List Issue}
    (perm : issues.Perm issues')
    (apart : ∀ a ∈ issues, ∀ b ∈ issues, tied keys a b = true → a = b) (issue : Issue) :
    issues.filter (tied keys issue) = issues'.filter (tied keys issue) := by
  refine Lists.eq_of_perm_of_all_eq (perm.filter _) fun a ofA b ofB => ?_
  obtain ⟨inA, tiedA⟩ := List.mem_filter.mp ofA
  obtain ⟨inB, tiedB⟩ := List.mem_filter.mp ofB
  have back : compareBy keys a issue = .eq := Std.OrientedCmp.eq_symm (of_decide_eq_true tiedA)
  refine apart a inA b inB (decide_eq_true ?_)
  exact Std.TransCmp.eq_trans back (of_decide_eq_true tiedB)

/-! ## A run whose order shows

Two linters print the targets that they are given, and one of them finds something on the same
line in two of its jobs. -/

namespace Sample

open scoped Regex.SizeRule

/-- The linters `dead` and `spell`, whose issues on one line are merged. -/
def linters : Except ConfigError Registry := do
  let pattern := "(?P<path>f):(?P<line>1):(?P<message>.)"
  let r ← Registry.empty.define "dead" { command := "echo", pattern }
  let r ← r.define "spell" { command := "echo", pattern }
  return r.addMergeRule ⟨.ofList ["dead", "spell"], .pathLine⟩

def registry : Registry :=
  linters.toOption.getD .empty

theorem linters_eq : linters = .ok registry := by
  have valid : linters.toOption.isSome = true := by decide +kernel
  rw [registry]
  cases made : linters with
  | error e =>
    rw [made] at valid
    cases valid
  | ok r => rfl

/-- Settings for a run of three jobs at a time. -/
def settings (aggregate : Bool) (sort : List String) : PolicyBuilder :=
  { concurrency := some 3, aggregate, sort, format := "", messageOverrides := ∅, vars := ∅,
    root := some "/work" }

/-- The settings as they are when they have been checked. -/
def policy (aggregate : Bool) (sort : List SortKey) : Policy where
  concurrency := 3
  deadline := defaultDeadline
  aggregate
  sort
  filter := {}
  format := ⟨"", []⟩
  severity := ∅
  messageOverrides := ∅
  vars := ∅
  warnUnmatchedNolint := false
  errorsOnly := false
  output := .text
  root := "/work"

theorem checkFormat_empty : PolicyBuilder.checkFormat "" = .ok ⟨"", []⟩ := by
  have parsed : Template.parseWithFields "" Issue.formatFields = .ok ⟨"", []⟩ := by decide +kernel
  rw [PolicyBuilder.checkFormat, parsed]

theorem build_settings {sort : List String} {keys : List SortKey}
    (named : SortKey.ofNames sort = .ok keys) (aggregate : Bool) :
    (settings aggregate sort).build {} = .ok (policy aggregate keys) := by
  rw [PolicyBuilder.build, settings, checkFormat_empty]
  simp only [named]
  rfl

/-- The job of a linter on a target, which it prints. -/
def job (id : Nat) (linter path : String) : Job :=
  { id, linter, path, program := "echo", args := [path] }

def echo (job : Job) : JobOutcome :=
  .ok { stdout := job.path, status := some 0 }

def dead : Job :=
  job 0 "dead" "f:1:x"

def deadAgain : Job :=
  job 1 "dead" "f:1:y"

def spell : Job :=
  job 2 "spell" "f:1:z"

/-- No source file can be read. -/
def noText : SourceKey → Option String := fun _ => none

/-- The results of the jobs in the order in which the jobs were given. -/
def inOrder : List JobResult :=
  [dead, deadAgain, spell].map (resultOf echo)

def outOfOrder : List JobResult :=
  [deadAgain, dead, spell].map (resultOf echo)

theorem exists_inOrder : ∃ s, Completes 3 [dead, deadAgain, spell] echo s ∧ s.results = inOrder :=
  exists_completes_of_perm (by decide) (by decide)

theorem exists_outOfOrder :
    ∃ s, Completes 3 [dead, deadAgain, spell] echo s ∧ s.results = outOfOrder :=
  exists_completes_of_perm (by decide) (by decide)

end Sample

/-! ## Two runs of the same jobs -/

variable {concurrency : Nat} {jobs : List Job} {outcome : Job → JobOutcome} {s t : Schedule}

/-- **When two runs of the same jobs report the same.** The diagnostics are always the same. The
issues are the same exactly when, in case they are merged, the same findings are shown under every
key, for which it is enough that no linter has issues under one key from two of the jobs. -/
theorem report_perm_iff (ended : Completes concurrency jobs outcome s)
    (ended' : Completes concurrency jobs outcome t) :
    (report r p read sources s).diagnostics.Perm (report r p read sources t).diagnostics ∧
    ((report r p read sources s).issues.Perm (report r p read sources t).issues ↔
      (p.aggregate = true → ∀ key,
        ((findings r.mergeRules (kept r p read s.results) key).filter (shows p)).Perm
          ((findings r.mergeRules (kept r p read t.results) key).filter (shows p)))) ∧
    ((p.aggregate = true → Separate r p read (jobs.map (resultOf outcome))) →
      (report r p read sources s).issues.Perm (report r p read sources t).issues) := by
  have perm := ended.results_perm ended'
  refine ⟨?_, ?_, fun separate => ?_⟩
  · rw [report_eq, report_eq]
    exact ((ended.diagnostics_perm ended').append (exitDiagnostics_perm r perm)).append
      (unmatchedDiagnostics_perm r p read sources perm)
  · rw [issues_perm_iff]
    exact shown_perm_iff r p read perm
  · rw [issues_perm_iff]
    refine shown_perm_of_separate r p read perm fun enabled => ?_
    exact (separate enabled).of_perm ended.results_perm_map.symm

open Sample in
theorem report_perm_unmerged :
    ∃ s t, Completes 3 [dead, deadAgain, spell] echo s ∧ s.results = inOrder ∧
      Completes 3 [dead, deadAgain, spell] echo t ∧ t.results = outOfOrder ∧
      (report registry (policy false []) noText [] s).diagnostics.Perm
        (report registry (policy false []) noText [] t).diagnostics ∧
      (report registry (policy false []) noText [] s).issues.Perm
        (report registry (policy false []) noText [] t).issues := by
  obtain ⟨s, ended, results⟩ := exists_inOrder
  obtain ⟨t, ended', results'⟩ := exists_outOfOrder
  have same := report_perm_iff registry (policy false []) noText [] ended ended'
  exact ⟨s, t, ended, results, ended', results', same.1, same.2.1.mpr nofun⟩

open Sample Regex.SizeRule in
/-- Of the two issues of one linter on a line, the one that arrives first is merged with that of
the other linter. -/
theorem merged_with_first_arrival :
    linters = .ok registry ∧ (settings true []).build {} = .ok (policy true []) ∧
    ∃ s t, Completes 3 [dead, deadAgain, spell] echo s ∧
      Completes 3 [dead, deadAgain, spell] echo t ∧
      ¬ (report registry (policy true []) noText [] s).issues.Perm
        (report registry (policy true []) noText [] t).issues := by
  obtain ⟨s, ended, results⟩ := exists_inOrder
  obtain ⟨t, ended', results'⟩ := exists_outOfOrder
  refine ⟨linters_eq, build_settings rfl true, s, t, ended, ended', ?_⟩
  rw [issues_perm_iff, results, results']
  decide +kernel

/-- **When two runs of the same jobs give the same list of issues.** They do so exactly when they
show the same issues in the same order in every class of ties. If merged issues are kept apart by
the jobs that they come from, it is enough that the sort keys tell all different issues apart. -/
theorem report_issues_eq_iff (ended : Completes concurrency jobs outcome s)
    (ended' : Completes concurrency jobs outcome t) :
    ((report r p read sources s).issues = (report r p read sources t).issues ↔
      ∀ issue, (shown r p (kept r p read s.results)).filter (tied p.sortKeys issue) =
        (shown r p (kept r p read t.results)).filter (tied p.sortKeys issue)) ∧
    ((p.aggregate = true → Separate r p read (jobs.map (resultOf outcome))) →
      (∀ a ∈ shown r p (kept r p read s.results), ∀ b ∈ shown r p (kept r p read s.results),
        tied p.sortKeys a b = true → a = b) →
      (report r p read sources s).issues = (report r p read sources t).issues) := by
  refine ⟨issues_eq_iff r p read sources s t, fun separate apart => ?_⟩
  have perm := shown_perm_of_separate r p read (ended.results_perm ended') fun enabled =>
    (separate enabled).of_perm ended.results_perm_map.symm
  exact (issues_eq_iff r p read sources s t).mpr (filter_tied_eq_of_perm perm apart)

open Sample in
/-- Sorted by their paths the issues of one file come in two orders, sorted by their messages in
one. -/
theorem report_issues_eq_iff_of_paths :
    ∃ s t, Completes 3 [dead, deadAgain, spell] echo s ∧ s.results = inOrder ∧
      Completes 3 [dead, deadAgain, spell] echo t ∧ t.results = outOfOrder ∧
      (report registry (policy false [.path]) noText [] s).issues ≠
        (report registry (policy false [.path]) noText [] t).issues ∧
      (report registry (policy false [.message]) noText [] s).issues =
        (report registry (policy false [.message]) noText [] t).issues := by
  obtain ⟨s, ended, results⟩ := exists_inOrder
  obtain ⟨t, ended', results'⟩ := exists_outOfOrder
  have byPath := report_issues_eq_iff registry (policy false [.path]) noText [] ended ended'
  have byMessage := report_issues_eq_iff registry (policy false [.message]) noText [] ended ended'
  rw [results, results'] at byPath
  rw [results, results'] at byMessage
  refine ⟨s, t, ended, results, ended', results', fun same => ?_, ?_⟩
  · have ties := byPath.1.mp same { linter := "dead", path := "f", line := 1, message := "x" }
    exact absurd ties (by decide +kernel)
  · exact byMessage.2 nofun (by decide +kernel)

open Sample Regex.SizeRule in
/-- Issues in one file that are sorted by their paths alone stay in the order of their arrival. -/
theorem tied_in_order_of_arrival :
    linters = .ok registry ∧ (settings false ["path"]).build {} = .ok (policy false [.path]) ∧
    (∃ key ∈ (policy false [.path]).sortKeys, key ≠ .none) ∧
    ∃ s t, Completes 3 [dead, deadAgain, spell] echo s ∧
      Completes 3 [dead, deadAgain, spell] echo t ∧
      (report registry (policy false [.path]) noText [] s).issues ≠
        (report registry (policy false [.path]) noText [] t).issues := by
  obtain ⟨s, ended, results⟩ := exists_inOrder
  obtain ⟨t, ended', results'⟩ := exists_outOfOrder
  refine ⟨linters_eq, build_settings rfl false, ⟨.path, List.mem_singleton_self _, nofun⟩,
    s, t, ended, ended', ?_⟩
  rw [Ne, issues_eq_iff, results, results']
  intro same
  have ties := same { linter := "dead", path := "f", line := 1, message := "x" }
  exact absurd ties (by decide +kernel)

end LintRun.Pipeline
