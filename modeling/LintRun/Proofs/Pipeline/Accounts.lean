import Mathlib.Data.List.Perm.Basic
import LintRun.Proofs.Job.Waiting
import LintRun.Proofs.Nolint.Sessions
import LintRun.Proofs.Pipeline.CompletionOrder
import LintRun.Proofs.Schedule.Completion

/-!
# Accounts of a run

As long as issues are not merged, a run keeps accounts of everything that its jobs come to
(`Accounts`). Every line of output that matches gives one issue, and an issue is reported exactly
when it passes: no directive suppresses it, the filter accepts its shown form, and it is an error
if only errors are wanted. A failed job gives one diagnostic and no issue, a linter whose output
counts only on success gives one for each run that ends otherwise, and a directive gives one if it
is asked for and has suppressed nothing.

The accounts are right at the end of every run that the workers can make (`report_accounts`), and
so in the run that is carried out (`run_accounts`).
-/

set_option autoImplicit false

namespace LintRun.Pipeline

open Schedule
open OutputReader (linesRead readLine Matches)

variable (r : Registry) (p : Policy) (read : SourceKey → Option String) (sources : List SourceKey)

/-! ## Lines and issues -/

/-- The lines that a result gives to be read, each with the definition of its linter. A failed job
gives none, and neither does a job of a linter that is not defined. -/
def linesFrom (result : JobResult) : List (LinterDefinition × String) :=
  match r.get? result.job.linter, result.outcome with
  | some d, .ok output => (linesRead d output).map (d, ·)
  | _, _ => []

/-- The issues of the lines of some results. -/
def issuesFrom (results : List JobResult) : List Issue :=
  (results.flatMap (linesFrom r)).filterMap fun printed => readLine printed.1 p printed.2

theorem issuesFrom_cons (result : JobResult) (rest : List JobResult) :
    issuesFrom r p (result :: rest) = issuesFrom r p [result] ++ issuesFrom r p rest := by
  simp only [issuesFrom, List.flatMap_cons, List.flatMap_nil, List.append_nil,
    List.filterMap_append]

/-- The raw issues are those of the lines. -/
theorem rawIssues_eq (results : List JobResult) :
    rawIssues r p results = issuesFrom r p results := by
  induction results with
  | nil => rfl
  | cons result rest ih =>
    rw [issuesFrom_cons, ← ih, ← List.singleton_append, rawIssues_append]
    refine congrArg (· ++ rawIssues r p rest) ?_
    rw [rawIssues, readable, issuesFrom]
    simp only [List.filterMap_cons, List.filterMap_nil, List.flatMap_cons, List.flatMap_nil,
      List.append_nil, linesFrom, JobResult.output?]
    cases r.get? result.job.linter with
    | none => rfl
    | some d =>
      cases result.outcome with
      | error e => rfl
      | ok output =>
        show OutputReader.read d p output ++ [] = _
        rw [List.append_nil, OutputReader.read_eq, List.filterMap_map]
        rfl

/-- Whether an issue that is not merged is reported. -/
structure Passes (issue : Issue) : Prop where
  spared : NolintFilter.Spared read issue
  notDropped : ∀ regex, p.filter.dropping = some regex →
    regex.isMatch (issue.render p.format) = false
  kept : ∀ regex, p.filter.keeping = some regex → regex.isMatch (issue.render p.format) = true
  severe : p.errorsOnly = true → issue.severity = .error

theorem accepts_iff (f : IssueFilter) (text : String) :
    (f.isEmpty || f.accepts text) = true ↔
      (∀ regex, f.dropping = some regex → regex.isMatch text = false) ∧
        ∀ regex, f.keeping = some regex → regex.isMatch text = true := by
  obtain ⟨keeping, dropping⟩ := f
  cases keeping <;> cases dropping <;> simp [IssueFilter.isEmpty, IssueFilter.accepts]

theorem passes_iff (issue : Issue) :
    (!NolintFilter.suppressed read issue && shows p issue) = true ↔ Passes p read issue := by
  have severe_iff : (!p.errorsOnly || issue.severity == .error) = true ↔
      (p.errorsOnly = true → issue.severity = .error) := by
    cases p.errorsOnly <;> simp
  rw [NolintFilter.not_suppressed_eq, shows, Bool.and_eq_true, Bool.and_eq_true,
    decide_eq_true_iff, accepts_iff, severe_iff]
  constructor
  · rintro ⟨spared, ⟨notDropped, kept⟩, severe⟩
    exact ⟨spared, notDropped, kept, severe⟩
  · rintro ⟨spared, notDropped, kept, severe⟩
    exact ⟨spared, ⟨notDropped, kept⟩, severe⟩

instance (issue : Issue) : Decidable (Passes p read issue) :=
  decidable_of_iff _ (passes_iff p read issue)

/-! ## Diagnostics -/

/-- The diagnostic that a result leads to, if there is one. -/
def complaint? (result : JobResult) : Option Diagnostic :=
  match result.outcome, r.get? result.job.linter with
  | .error e, _ => some (Diagnostic.ofJobError e)
  | .ok output, some d =>
    if d.partialOutput = false ∧ output.status ≠ some 0 then
      some (Diagnostic.exitStatus d.name result.job.path output.status output.stderr)
    else
      none
  | .ok _, none => none

theorem exitDiagnostics_append (first second : List JobResult) :
    exitDiagnostics r (first ++ second) = exitDiagnostics r first ++ exitDiagnostics r second := by
  rw [exitDiagnostics, readable, List.filterMap_append, List.filterMap_append]
  rfl

theorem failures_append (first second : List JobResult) :
    failures (first ++ second) = failures first ++ failures second := by
  rw [failures, List.filterMap_append, List.map_append]
  rfl

/-- A result gives one diagnostic at most: it has failed, or its linter may have ended without
success. -/
theorem toList_complaint? (result : JobResult) :
    failures [result] ++ exitDiagnostics r [result] = (complaint? r result).toList := by
  obtain ⟨job, outcome⟩ := result
  rw [exitDiagnostics, readable]
  cases outcome with
  | error e =>
    cases defined : r.get? job.linter <;>
      simp only [List.filterMap_cons, List.filterMap_nil, defined] <;> rfl
  | ok output =>
    cases defined : r.get? job.linter with
    | none =>
      simp only [List.filterMap_cons, List.filterMap_nil, complaint?, defined]
      rfl
    | some d =>
      have unsuccessful : (!d.partialOutput && !output.success) = true ↔
          d.partialOutput = false ∧ output.status ≠ some 0 := by
        simp [RawOutput.success]
      simp only [List.filterMap_cons, List.filterMap_nil, complaint?, defined]
      show (if (!d.partialOutput && !output.success) = true then _ else none).toList = _
      simp only [unsuccessful]

theorem complaints_perm (results : List JobResult) :
    (failures results ++ exitDiagnostics r results).Perm (results.filterMap (complaint? r)) := by
  induction results with
  | nil => exact .refl _
  | cons result rest ih =>
    have complaints : (result :: rest).filterMap (complaint? r) =
        (complaint? r result).toList ++ rest.filterMap (complaint? r) := by
      rw [List.filterMap_cons]
      cases complaint? r result <;> rfl
    rw [complaints, ← toList_complaint?, ← List.singleton_append, failures_append,
      exitDiagnostics_append, List.append_assoc, List.append_assoc]
    refine List.Perm.append_left _ ?_
    exact (List.perm_append_comm_assoc _ _ _).trans (ih.append_left _)

/-! ## Accounts -/

/-- What a report on some results has to say, apart from the order in which it does. -/
structure Accounts (results : List JobResult) (report : Report) : Prop where
  /-- A line that is read gives an issue exactly when it matches. -/
  lines : ∀ printed ∈ results.flatMap (linesFrom r),
    (readLine printed.1 p printed.2).isSome = true ↔ Matches printed.1 printed.2
  /-- The issues of the lines that pass are reported. -/
  issues : report.issues.Perm ((issuesFrom r p results).filter (Passes p read ·))
  /-- The complaints about the results are reported and, if they are asked for, the idle directives
  of the readable sources and of the files with issues, each file taken once. -/
  diagnostics : ∃ files : List SourceKey, files.Pairwise (Path.compareComponents · · = .lt) ∧
    (∀ key, key ∈ files ↔ key ∈ sources ∧ (read key).isSome = true ∨
      ∃ issue ∈ issuesFrom r p results, issue.line ≠ 0 ∧ Path.sourceKey issue.path = key) ∧
    report.diagnostics.Perm (results.filterMap (complaint? r) ++
      if p.warnUnmatchedNolint then
        files.flatMap (NolintFilter.unmatchedIn read (issuesFrom r p results))
      else [])

variable {r p read sources}

/-- Without merging, the issues that pass are shown. -/
theorem shown_eq_of_unmerged (off : p.aggregate = false) (results : List JobResult) :
    shown r p (kept r p read results) = (issuesFrom r p results).filter (Passes p read ·) := by
  have unmerged : Aggregation.apply r.mergeRules false (kept r p read results) =
      kept r p read results := rfl
  rw [shown, off, unmerged, kept, rawIssues_eq, List.filter_filter]
  refine List.filter_congr fun issue _ => ?_
  rw [Bool.and_comm, Bool.eq_iff_iff, passes_iff, decide_eq_true_iff]

theorem Accounts.of_perm (off : p.aggregate = false) {s : Schedule} {results : List JobResult}
    (arrived : s.results.Perm results) (reported : s.diagnostics.Perm (failures s.results)) :
    Accounts r p read sources results (report r p read sources s) where
  lines printed _ := OutputReader.isSome_readLine_iff
  issues := by
    rw [← shown_eq_of_unmerged off, report_eq]
    refine (sortIssues_perm _ _).trans ?_
    rw [shown_eq_of_unmerged off, shown_eq_of_unmerged off, ← rawIssues_eq, ← rawIssues_eq]
    exact (rawIssues_perm r p arrived).filter _
  diagnostics := by
    have distinct : (NolintFilter.consulted (NolintFilter.preloaded read [] sources)
        (rawIssues r p results)).Nodup :=
      NolintFilter.nodup_consulted (NolintFilter.nodup_preloaded read List.nodup_nil)
    obtain ⟨files, ascending, members, unmatched⟩ :=
      NolintFilter.unmatched_recorded read distinct (rawIssues r p results)
    rw [← rawIssues_eq]
    refine ⟨files, ascending, fun key => ?_, ?_⟩
    · rw [members, NolintFilter.mem_consulted, NolintFilter.mem_preloaded]
      simp only [List.not_mem_nil, false_or, NolintFilter.concerns, Bool.and_eq_true, bne_iff_ne,
        beq_iff_eq]
    · have idle : unmatchedDiagnostics r p read sources results =
          if p.warnUnmatchedNolint then
            files.flatMap (NolintFilter.unmatchedIn read (rawIssues r p results))
          else [] := by
        rw [unmatchedDiagnostics, judged, filesAtFirst]
        split
        · exact unmatched
        · rfl
      rw [← idle, report_eq]
      have complaints : (s.diagnostics ++ exitDiagnostics r s.results).Perm
          (results.filterMap (complaint? r)) :=
        ((reported.append_right _).trans (complaints_perm r s.results)).trans
          (arrived.filterMap _)
      exact complaints.append (unmatchedDiagnostics_perm r p read sources arrived)

/-- The results of a run, in the order of the jobs. -/
theorem exists_results_in_order {s : Schedule} {jobs : List Job}
    (delivered : (s.results.map (·.job)).Perm jobs) :
    ∃ results : List JobResult, results.map (·.job) = jobs ∧ s.results.Perm results := by
  have itself : List.Forall₂ (fun job result => job = JobResult.job result)
      (s.results.map (·.job)) s.results :=
    List.forall₂_map_left_iff.mpr (List.forall₂_same.mpr fun _ _ => rfl)
  obtain ⟨results, inOrder, perm⟩ := List.perm_comp_forall₂ delivered.symm itself
  have same : List.Forall₂ Eq jobs (results.map (·.job)) := List.forall₂_map_right_iff.mpr inOrder
  rw [List.forall₂_eq_eq_eq] at same
  exact ⟨results, same.symm, perm.symm⟩

/-- **The accounts are right at the end of every run** in which issues are not merged. -/
theorem report_accounts (off : p.aggregate = false) {concurrency : Nat} {jobs : List Job}
    {s : Schedule} (reached : Reachable (start concurrency jobs) s)
    (complete : s.isComplete = true) :
    ∃ results : List JobResult, results.map (·.job) = jobs ∧ s.results.Perm results ∧
      Accounts r p read sources results (report r p read sources s) := by
  obtain ⟨results, inOrder, arrived⟩ :=
    exists_results_in_order (results_perm_of_complete reached complete)
  have reported := diagnostics_perm_of_complete reached complete
  exact ⟨results, inOrder, arrived, Accounts.of_perm off arrived reported⟩

namespace Sample

/-- Settings for a run that tells which directives suppress nothing. -/
def watching : Policy :=
  { policy false [] with warnUnmatchedNolint := true }

def refused : JobError :=
  deadAgain.failure (.launch "echo" "Permission denied (os error 13)")

/-- Of the three jobs, the second one cannot be started. -/
def unlucky (job : Job) : JobOutcome :=
  if job = deadAgain then .error refused else echo job

theorem exists_unlucky : ∃ s, Completes 3 [dead, deadAgain, spell] unlucky s ∧
    s.results = [spell, deadAgain, dead].map (resultOf unlucky) :=
  exists_completes_of_perm (by decide) (by decide)

end Sample

open Sample in
theorem report_accounts_unlucky :
    ∃ s, Reachable (start 3 [dead, deadAgain, spell]) s ∧ s.isComplete = true ∧
      watching.aggregate = false ∧
      (∃ results : List JobResult, results.map (·.job) = [dead, deadAgain, spell] ∧
        s.results.Perm results ∧ Accounts registry watching noText [] results
          (report registry watching noText [] s)) ∧
      (report registry watching noText [] s).issues.Perm
        [{ linter := "dead", path := "f", line := 1, message := "x" },
          { linter := "spell", path := "f", line := 1, message := "z" }] ∧
      (report registry watching noText [] s).diagnostics.Perm [Diagnostic.ofJobError refused] := by
  obtain ⟨s, ended, results⟩ := exists_unlucky
  refine ⟨s, ended.reached, ended.complete, rfl,
    report_accounts rfl ended.reached ended.complete, ?_, ?_⟩
  · rw [report_eq, results]
    refine (sortIssues_perm _ _).trans ?_
    decide +kernel
  · have reported := diagnostics_perm_of_complete ended.reached ended.complete
    rw [report_eq, List.append_assoc]
    rw [results] at reported ⊢
    refine (reported.append_right _).trans ?_
    decide +kernel

/-! ## The run that is carried out -/

/-- **The accounts of a run on a host are right** if its jobs come to their ends. -/
theorem run_accounts (off : p.aggregate = false) {launch : Launch} {host : Host}
    {inside : Host → Prop} (ends : EndsIn (Job.run launch (some p.root) p.deadline?) inside)
    (here : inside host) (jobs : List Job) :
    let ended :=
      Schedule.complete (Job.run launch (some p.root) p.deadline?) host p.concurrency jobs
    ∃ (report : Report) (results : List JobResult), run launch host r p jobs = some report ∧
      results.map (·.job) = jobs ∧ ended.2.results.Perm results ∧
      Accounts r p (NolintFilter.sourceText ended.1.readText p.root)
        (NolintFilter.sourceFiles ended.1.filesAt p.root (targets jobs)) results report := by
  intro ended
  obtain ⟨reached, complete⟩ := complete_spec ends here p.concurrency jobs
  obtain ⟨results, inOrder, arrived, accounts⟩ := report_accounts off reached complete
  exact ⟨_, results, if_pos complete, inOrder, arrived, accounts⟩

/-- Jobs with a limit come to their ends as long as the limit fits. -/
theorem endsIn_of_fits {launch : Launch} {inside : Host → Prop} {given : Duration}
    (limited : p.deadline? = some given)
    (fits : ∀ host, inside host → host.clock.Fits p.deadline?)
    (stays : ∀ host directory job, inside host → inside (launch host directory job).2) :
    EndsIn (Job.run launch (some p.root) p.deadline?) inside where
  outcome here job := (Job.run_limited_iff limited).mpr (fits _ here)
  stays {host} here job := by
    have after := stays host (some p.root) job here
    rw [Job.run_of_fits (fits host here)]
    cases begun : launch host (some p.root) job with
    | mk begun' next =>
      rw [begun] at after
      cases begun' <;> exact after

end LintRun.Pipeline
