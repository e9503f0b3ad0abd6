import LintRun.Pipeline
import LintRun.Proofs.Aggregation.Groups
import LintRun.Proofs.Nolint.Record
import LintRun.Proofs.Output.Lines
import LintRun.Proofs.Sorting

/-!
# The stages of a run

A report is put together in stages. The **kept** issues are those of the outputs that no
directive suppresses; the **shown** ones are what is left when the kept ones are merged and those
are dropped that the filter rejects or that are no errors when only errors are wanted; and the
reported ones are the shown ones in their final order (`report_eq`).

Each stage before the merging works on every issue by itself, so it gives the same issues, perhaps
in another order, when the results of the jobs come in another order.
-/

set_option autoImplicit false

namespace LintRun.Pipeline

variable (r : Registry) (p : Policy) (read : SourceKey → Option String)

theorem rawIssues_append (first second : List JobResult) :
    rawIssues r p (first ++ second) = rawIssues r p first ++ rawIssues r p second := by
  rw [rawIssues, readable, List.filterMap_append, List.flatMap_append]
  rfl

theorem contributors_rawIssues (results : List JobResult) :
    ∀ issue ∈ rawIssues r p results, issue.contributors = ∅ := by
  intro issue member
  obtain ⟨⟨job, definition, output⟩, -, inOutput⟩ := List.mem_flatMap.mp member
  exact (OutputReader.of_mem_read inOutput).1

/-! ## The issues that are kept -/

/-- The issues that no directive suppresses. -/
def kept (results : List JobResult) : List Issue :=
  (rawIssues r p results).filter (!NolintFilter.suppressed read ·)

theorem kept_append (first second : List JobResult) :
    kept r p read (first ++ second) = kept r p read first ++ kept r p read second := by
  rw [kept, rawIssues_append, List.filter_append]
  rfl

/-- The kept issues are those of the results, one result after the other. -/
theorem kept_eq_flatMap (results : List JobResult) :
    kept r p read results = results.flatMap fun result => kept r p read [result] := by
  induction results with
  | nil => rfl
  | cons result rest ih =>
    rw [List.flatMap_cons, ← ih]
    exact kept_append r p read [result] rest

theorem contributors_kept (results : List JobResult) :
    ∀ issue ∈ kept r p read results, issue.contributors = ∅ := fun issue member =>
  contributors_rawIssues r p results issue (List.mem_of_mem_filter member)

/-! ## The issues that are shown -/

/-- Whether an issue that has been merged is reported. -/
def shows (issue : Issue) : Bool :=
  (p.filter.isEmpty || p.filter.accepts (issue.render p.format)) &&
    (!p.errorsOnly || issue.severity == .error)

/-- The issues that are reported, in the order of the pipeline. -/
def shown (issues : List Issue) : List Issue :=
  (Aggregation.apply r.mergeRules p.aggregate issues).filter (shows p)

theorem filter_apply_eq (f : IssueFilter) (format : Template) (issues : List Issue) :
    f.apply format issues =
      issues.filter fun issue => f.isEmpty || f.accepts (issue.render format) := by
  rw [IssueFilter.apply]
  by_cases empty : f.isEmpty = true
  · rw [if_pos empty, empty]
    exact (List.filter_eq_self.mpr fun _ _ => rfl).symm
  · rw [if_neg empty, Bool.eq_false_iff.mpr empty]
    rfl

/-- Issues are presented as the shown ones in the order of the sort keys. -/
theorem present_eq (issues : List Issue) :
    present r p issues = sortIssues p.sortKeys (shown r p issues) := by
  have shown_eq : shown r p issues =
      List.filter (fun issue => !p.errorsOnly || issue.severity == .error)
        (p.filter.apply p.format (Aggregation.apply r.mergeRules p.aggregate issues)) := by
    rw [shown, filter_apply_eq, List.filter_filter]
    exact List.filter_congr fun issue _ => Bool.and_comm _ _
  rw [present, shown_eq, ← filter_sortIssues]
  cases p.errorsOnly with
  | false => exact (List.filter_eq_self.mpr fun _ _ => rfl).symm
  | true => rfl

/-! ## Reports -/

/-- The files whose directives count before any issue is judged. -/
def filesAtFirst (sources : List SourceKey) : List SourceKey :=
  if p.warnUnmatchedNolint then NolintFilter.preloaded read [] sources else []

theorem nodup_filesAtFirst (sources : List SourceKey) : (filesAtFirst p read sources).Nodup := by
  rw [filesAtFirst]
  split
  · exact NolintFilter.nodup_preloaded read List.nodup_nil
  · exact List.nodup_nil

/-- What is known of the source files when all issues have been judged. -/
def judged (sources : List SourceKey) (results : List JobResult) : NolintFilter :=
  NolintFilter.recorded read
    (NolintFilter.consulted (filesAtFirst p read sources) (rawIssues r p results))
    (rawIssues r p results)

/-- The diagnostics about directives that suppressed nothing, if they are asked for. -/
def unmatchedDiagnostics (sources : List SourceKey) (results : List JobResult) : List Diagnostic :=
  if p.warnUnmatchedNolint then (judged r p read sources results).unmatched else []

/-- **A report, stage by stage.** -/
theorem report_eq (sources : List SourceKey) (s : Schedule) :
    report r p read sources s =
      { issues := sortIssues p.sortKeys (shown r p (kept r p read s.results))
        diagnostics := s.diagnostics ++ exitDiagnostics r s.results ++
          unmatchedDiagnostics r p read sources s.results } := by
  have atFirst : (if p.warnUnmatchedNolint then NolintFilter.preload read {} sources else {}) =
      NolintFilter.recorded read (filesAtFirst p read sources) [] := by
    rw [filesAtFirst]
    split
    · show NolintFilter.preload read (NolintFilter.recorded read [] []) sources = _
      exact NolintFilter.preload_recorded (fun _ _ => rfl)
        (fun _ member => absurd member List.not_mem_nil) sources
    · rfl
  have nothingJudged : NolintFilter.Covers (filesAtFirst p read sources) [] :=
    fun _ member => absurd member List.not_mem_nil
  have agree : ∀ key, key ∉ filesAtFirst p read sources → read key = read key := fun _ _ => rfl
  have applied := NolintFilter.apply_recorded agree nothingJudged (rawIssues r p s.results)
  rw [report, atFirst, applied]
  simp only [present_eq, List.nil_append]
  rfl

end LintRun.Pipeline
