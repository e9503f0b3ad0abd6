import LintRun.CommandLine.Settings
import LintRun.Config.Document
import LintRun.Proofs.Pipeline.Accounts
import LintRun.Proofs.Selection.Exclusions

/-!
# The names of issues

Whatever linters print, an issue that is reported has a path, and all its linters are among those
that were selected (`report_named`): the jobs are those of the selected linters, a linter is held
under its own name, and merging takes path and linters from the issues that it merges.

So it comes down to the names of linters. Those that flags define are not empty, nor are those that
are built in, but a configuration may define a linter whose name is empty. Without such a linter
every reported issue names its linters; with one, an issue may come out without any name
(`nameless_reported`).
-/

set_option autoImplicit false

namespace LintRun

/-! ## Where linters come from -/

/-- A definition without a name is refused. -/
theorem LinterSpec.name_ne_empty_of_ofDefinition {text name : String} {spec : LinterSpec}
    (read : ofDefinition text = .ok (name, spec)) : name ≠ "" := by
  rw [ofDefinition] at read
  split at read
  · cases read
  · rename_i letters rest split
    split at read
    · cases read
    · rename_i nonempty
      split at read
      · cases read
        intro empty
        exact nonempty (String.ofList_eq_empty_iff.mp empty)
      · cases read

namespace Registry

theorem contains_define [Regex.SizeRule] {r r' : Registry} {name : String} {spec : LinterSpec}
    (defined : r.define name spec = .ok r') (other : String) :
    r'.contains other = true ↔ other = name ∨ r.contains other = true := by
  obtain ⟨d, checked, rfl⟩ := define_cases defined
  obtain ⟨same, -, -⟩ := LinterDefinition.of_ofSpec checked
  rw [← same]
  exact contains_insert r _ other

variable {c : Config} {f : Flags} {r : Registry}

/-- Whether a linter of a run is built in or defined. -/
def HasOrigin (c : Config) (f : Flags) (name : String) : Prop :=
  (∃ b ∈ Catalog.linters, b.name = name) ∨ c.linters.contains name = true ∨
    ∃ text ∈ f.linters, ∃ spec, LinterSpec.ofDefinition text = .ok (name, spec)

/-- A registry that is reachable and all of whose linters have an origin. -/
structure Sourced [Regex.SizeRule] (c : Config) (f : Flags) (r : Registry) : Prop where
  reachable : r.Reachable
  origin : ∀ name, r.contains name = true → HasOrigin c f name

theorem Sourced.define [Regex.SizeRule] (sourced : Sourced c f r) {r' : Registry} {name : String}
    {spec : LinterSpec} (origin : HasOrigin c f name) (defined : r.define name spec = .ok r') :
    Sourced c f r' where
  reachable := .define sourced.reachable defined
  origin other known := by
    rcases (contains_define defined other).mp known with rfl | before
    · exact origin
    · exact sourced.origin other before

/-- The registry of a run holds linters that are built in, that the configuration defines or that
flags define. -/
theorem sourced_buildRegistry [Regex.SizeRule] (built : buildRegistry c f = .ok r) :
    Sourced c f r := by
  obtain ⟨configured, made, built⟩ := exists_ok_of_bind built
  obtain ⟨first, defaults, made⟩ := exists_ok_of_bind made
  have start : Sourced c f first :=
    ⟨.defaults defaults, fun name known =>
      .inl ((contains_of_withDefaults defaults name).mp known)⟩
  have withConfig : Sourced c f configured := by
    refine holds_of_foldlM start (fun e member before after sourced defined => ?_) made
    obtain ⟨spec, -, defined⟩ := exists_ok_of_bind defined
    refine sourced.define (.inr (.inl ?_)) defined
    rw [Dict.contains, Dict.get?_of_mem member]
    rfl
  refine holds_of_foldlM withConfig (fun text member before after sourced defined => ?_) built
  obtain ⟨⟨name, spec⟩, read, defined⟩ := exists_ok_of_bind defined
  exact sourced.define (.inr (.inr ⟨text, member, spec, read⟩)) defined

/-- Only a configuration defines a linter whose name is empty. -/
theorem HasOrigin.configured (origin : HasOrigin c f "") : c.linters.contains "" = true := by
  rcases origin with ⟨b, builtin, nameless⟩ | configured | ⟨text, -, spec, read⟩
  · exact absurd nameless (by revert b; decide)
  · exact configured
  · exact absurd rfl (LinterSpec.name_ne_empty_of_ofDefinition read)

end Registry

/-! ## From linters to issues -/

/-- The jobs are those of the given linters. -/
theorem Job.linter_mem_of_mem_plan {r : Registry} (named : r.WellNamed) {vars : Dict String}
    {linters paths : List String} {job : Job} (member : job ∈ plan r vars linters paths) :
    job.linter ∈ linters := by
  obtain ⟨i, inside, rfl⟩ := List.mem_mapIdx.mp member
  obtain ⟨linter, ofLinters, prepared⟩ := List.mem_flatMap.mp (List.getElem_mem inside)
  cases held : r.get? linter with
  | none =>
    rw [held] at prepared
    exact absurd prepared List.not_mem_nil
  | some d =>
    rw [held] at prepared
    obtain ⟨path, -, made⟩ := List.mem_filterMap.mp prepared
    obtain ⟨words, -, same⟩ := Option.map_eq_some_iff.mp made
    rw [← same]
    show d.name ∈ linters
    rwa [named linter d held]

theorem Schedule.job_mem_of_mem_results {concurrency : Nat} {jobs : List Job} {s : Schedule}
    (reached : Reachable (start concurrency jobs) s) {result : JobResult}
    (member : result ∈ s.results) : result.job ∈ jobs := by
  refine (accounted_of_reachable reached).mem_iff.mp ?_
  exact List.mem_append_right _ (List.mem_map_of_mem member)

/-- Whether an issue has a path and no linters but the given ones. -/
structure Issue.Attributed (issue : Issue) (linters : NameSet) : Prop where
  path : issue.path ≠ ""
  linter : issue.linter ∈ linters
  linters : ∀ name ∈ issue.linters, name ∈ linters

/-- What is merged has the path of an issue that it is merged from, and the linters of all. -/
theorem Aggregation.attributed_of_mem_apply {rules : List MergeRule} {enabled : Bool}
    {issues : List Issue} {linters : NameSet}
    (attributed : ∀ issue ∈ issues, issue.Attributed linters) {issue : Issue}
    (member : issue ∈ apply rules enabled issues) : issue.Attributed linters := by
  cases enabled with
  | false => exact attributed issue member
  | true =>
    obtain ⟨g, ofGroups, rfl⟩ := List.mem_map.mp member
    have ofMember : ∀ other ∈ g.members, other.Attributed linters := fun other inGroup =>
      attributed other (mem_of_mem_groups ofGroups inGroup)
    have allLinters : ∀ name ∈ g.collapse.linters, name ∈ linters := by
      intro name ofIssue
      obtain ⟨other, inGroup, ofOther⟩ :=
        IssueGroup.mem_linters.mp (IssueGroup.mem_linters_collapse.mp ofIssue)
      exact (ofMember other inGroup).linters name ofOther
    by_cases single : g.rest = []
    · rw [IssueGroup.collapse_of_single single]
      exact ofMember g.first List.mem_cons_self
    · rw [IssueGroup.collapse_of_several single] at allLinters ⊢
      have speaker := ofMember g.representative g.representative_mem
      exact ⟨speaker.path, speaker.linter, allLinters⟩

/-- A label is empty only if it is made of one empty name. -/
theorem Issue.linters_eq_of_linterLabel {issue : Issue} (empty : issue.linterLabel = "") :
    issue.linters = [""] := by
  obtain ⟨name, member⟩ := issue.exists_mem_linters
  rw [linterLabel] at empty
  match names : issue.linters, member with
  | [only], _ =>
    rw [names, String.intercalate_singleton] at empty
    rw [empty]
  | first :: second :: rest, _ =>
    rw [names, String.intercalate_cons_cons] at empty
    simp at empty

namespace Pipeline

open Schedule

variable {r : Registry} {p : Policy} {read : SourceKey → Option String} {sources : List SourceKey}

/-- The issues that are read have paths, and they are of the linters that were to run. -/
theorem attributed_of_mem_rawIssues (named : r.WellNamed) {linters : NameSet}
    {results : List JobResult} (ran : ∀ result ∈ results, result.job.linter ∈ linters)
    {issue : Issue} (member : issue ∈ rawIssues r p results) : issue.Attributed linters := by
  obtain ⟨⟨job, d, output⟩, ofReadable, ofOutput⟩ := List.mem_flatMap.mp member
  obtain ⟨line, -, found⟩ := OutputReader.exists_readLine_of_mem_read ofOutput
  obtain ⟨result, ofResults, delivered⟩ := List.mem_filterMap.mp ofReadable
  simp only [Option.bind_eq_bind, Option.bind_eq_some_iff] at delivered
  obtain ⟨e, held, output', -, same⟩ := delivered
  cases same
  obtain ⟨raw, sameLinter⟩ := OutputReader.of_readLine found
  have ofLinters : issue.linter ∈ linters := by
    rw [sameLinter, named _ _ held]
    exact ran result ofResults
  refine ⟨OutputReader.path_ne_empty_of_readLine found, ofLinters, fun name ofIssue => ?_⟩
  rw [Issue.linters_of_raw raw] at ofIssue
  rwa [List.mem_singleton.mp ofIssue]

/-- The issues that are reported have paths, and they are of the linters that were to run. -/
theorem attributed_of_mem_report (named : r.WellNamed) {linters : NameSet} {concurrency : Nat}
    {vars : Dict String} {paths : List String} {s : Schedule}
    (reached : Reachable (start concurrency (Job.plan r vars linters.names paths)) s)
    {issue : Issue} (member : issue ∈ (report r p read sources s).issues) :
    issue.Attributed linters := by
  rw [report_eq] at member
  have shown := List.mem_of_mem_filter ((sortIssues_perm _ _).mem_iff.mp member)
  refine Aggregation.attributed_of_mem_apply (fun other ofKept => ?_) shown
  refine attributed_of_mem_rawIssues named (fun result ofResults => ?_)
    (List.mem_of_mem_filter ofKept)
  exact Job.linter_mem_of_mem_plan named (job_mem_of_mem_results reached ofResults)

/-- **Every issue that is reported has a path, and its linters have been selected.** If none of
these has an empty name, the issue's own linter, its label and all its linters have names, and only
a configuration can define a linter whose name is empty. -/
theorem report_named [Regex.SizeRule] {c : Config} {f : Flags} (built : buildRegistry c f = .ok r)
    {selection : LinterSelection} {selected : Selected}
    (resolved : selection.resolve r = .ok selected) {concurrency : Nat} {paths : List String}
    {s : Schedule} (reached : Reachable
      (start concurrency (Job.plan r p.vars selected.linters.names paths)) s) :
    (∀ issue ∈ (report r p read sources s).issues, issue.Attributed selected.linters) ∧
    ("" ∉ selected.linters → ∀ issue ∈ (report r p read sources s).issues,
      issue.linter ≠ "" ∧ issue.linterLabel ≠ "" ∧ "" ∉ issue.linters) ∧
    ("" ∈ selected.linters → c.linters.contains "" = true) := by
  have sourced := Registry.sourced_buildRegistry built
  have attributed : ∀ issue ∈ (report r p read sources s).issues,
      issue.Attributed selected.linters := fun issue member =>
    attributed_of_mem_report sourced.reachable.wellNamed reached member
  refine ⟨attributed, fun allNamed issue member => ?_, fun nameless => ?_⟩
  · obtain ⟨-, linter, linters⟩ := attributed issue member
    have named : "" ∉ issue.linters := fun ofIssue => allNamed (linters "" ofIssue)
    refine ⟨fun empty => allNamed (empty ▸ linter), fun empty => named ?_, named⟩
    rw [Issue.linters_eq_of_linterLabel empty]
    exact List.mem_singleton_self ""
  · have known := LinterSelection.contains_of_mem_resolve sourced.reachable resolved nameless
    exact (sourced.origin "" known).configured

/-! A configuration with one linter, which prints its target. -/

namespace OneLinter

open Sample (job echo policy noText)
open scoped Regex.SizeRule

def echoing : LinterSpec :=
  { command := "echo", pattern := "(?P<path>f):(?P<line>1):(?P<message>.)" }

/-- The configuration that defines a linter and runs it. -/
def config (name : String) : Config :=
  { enable := [name], linters := .ofList [(name, .spec echoing)] }

def document : String :=
  "\x7b\"linters\": \x7b\"\": \x7b\"command\": \"echo\", " ++
    "\"pattern\": \"(?P<path>f):(?P<line>1):(?P<message>.)\"\x7d\x7d, \"enable\": [\"\"]\x7d"

theorem parse_document : Config.parse document ".lintmux.json" = .ok (config "") := by
  obtain ⟨c, parsed, rfl⟩ : ∃ c, Config.parse document ".lintmux.json" = .ok c ∧ c = config "" :=
    exists_ok_of_map (by decide +kernel)
  exact parsed

/-- The issue in the output of the linter when its target is `f:1:x`. -/
def issue (name : String) : Issue :=
  { linter := name, path := "f", line := 1, message := "x" }

theorem exists_ofSpec {name : String} (sample : name = "" ∨ name = "spell") :
    ∃ d, LinterDefinition.ofSpec name (((Catalog.spec? name).getD {}).overlay echoing) = .ok d ∧
      (Job.prepare? d ∅ "f:1:x", OutputReader.readLine d (policy false []) "f:1:x") =
        (some (job 0 name "f:1:x"), some (issue name)) := by
  refine exists_ok_of_map ?_
  rcases sample with rfl | rfl <;> decide +kernel

theorem exists_buildRegistry {name : String} (sample : name = "" ∨ name = "spell") :
    ∃ r d, buildRegistry (config name) {} = .ok r ∧ r.substitutions = Catalog.substitutions ∧
      r.get? name = some d ∧ Job.prepare? d ∅ "f:1:x" = some (job 0 name "f:1:x") ∧
      OutputReader.readLine d (policy false []) "f:1:x" = some (issue name) := by
  obtain ⟨first, defaults⟩ := Registry.exists_withDefaults
  obtain ⟨d, checked, prints⟩ := exists_ofSpec sample
  obtain ⟨planned, found⟩ := Prod.mk.inj prints
  have defined : ∃ r, first.define name echoing = .ok r := by
    rw [Registry.define, Registry.run_defining_of_ok checked]
    exact ⟨_, rfl⟩
  obtain ⟨r, defined⟩ := defined
  have built : buildRegistry (config name) {} = .ok r := by
    rw [buildRegistry, Config.registry, defaults]
    show (first.define name echoing >>= pure) >>= pure = .ok r
    rw [defined]
    rfl
  obtain ⟨e, checked', rfl⟩ := Registry.define_cases defined
  obtain rfl : d = e := Except.ok.inj (checked.symm.trans checked')
  obtain ⟨same, -, -⟩ := LinterDefinition.of_ofSpec checked
  have rules : first.substitutions = Catalog.substitutions :=
    Registry.substitutions_of_withDefaults defaults
  refine ⟨_, { d with defaultEnabled := first.runsByDefault name }, built, rules, ?_, planned,
    found⟩
  exact (Registry.get?_insert first _ name).trans (if_pos same.symm)

theorem exists_resolve {name : String} (sample : name = "" ∨ name = "spell") {r : Registry}
    (known : r.contains name = true) (rules : r.substitutions = Catalog.substitutions) :
    (buildSelection (config name) {}).resolve r = .ok { linters := .ofList [name] } := by
  refine LinterSelection.resolve_eq_ok_iff.mpr ⟨fun other member => ?_, ?_⟩
  · obtain rfl : other = name := List.mem_singleton.mp member
    exact known
  · have kept : (buildSelection (config name) {}).kept r = .ofList [name] := rfl
    have notAll : (NameSet.ofList ["gosimple", "staticcheck", "unused"]).isSubsetOf
        (.ofList [name]) = false := by
      rcases sample with rfl | rfl <;> decide
    rw [rules, kept]
    simp only [Catalog.substitutions, List.foldl_cons, List.foldl_nil,
      LinterSelection.substitute, notAll, Bool.and_false]
    rfl

theorem issuesFrom_eq {r : Registry} {d : LinterDefinition} {name : String}
    (held : r.get? name = some d)
    (found : OutputReader.readLine d (policy false []) "f:1:x" = some (issue name)) :
    issuesFrom r (policy false []) [resultOf echo (job 0 name "f:1:x")] = [issue name] := by
  have lines : OutputReader.linesRead d { stdout := "f:1:x", status := some 0 } = ["f:1:x"] := by
    rw [OutputReader.linesRead]
    split <;> decide +kernel
  have printed : linesFrom r (resultOf echo (job 0 name "f:1:x")) = [(d, "f:1:x")] := by
    have defined : r.get? (resultOf echo (job 0 name "f:1:x")).job.linter = some d := held
    rw [linesFrom, defined]
    exact congrArg (List.map (d, ·)) lines
  rw [issuesFrom, List.flatMap_singleton, printed]
  exact List.filterMap_cons_some found

/-- The linter is selected, and what it prints is reported. -/
theorem exists_report (name : String) (sample : name = "" ∨ name = "spell") :
    ∃ r s, buildRegistry (config name) {} = .ok r ∧
      (buildSelection (config name) {}).resolve r = .ok { linters := .ofList [name] } ∧
      Completes 1 (Job.plan r (policy false []).vars (NameSet.ofList [name]).names ["f:1:x"])
        echo s ∧
      (report r (policy false []) noText [] s).issues = [issue name] := by
  obtain ⟨r, d, built, rules, held, planned, found⟩ := exists_buildRegistry sample
  have known : r.contains name = true := Option.isSome_of_eq_some held
  have plan : Job.plan r ∅ [name] ["f:1:x"] = [job 0 name "f:1:x"] := by
    simp only [Job.plan, List.flatMap_cons, List.flatMap_nil, held, List.filterMap_cons, planned,
      List.filterMap_nil]
    rfl
  obtain ⟨s, ended, results⟩ : ∃ s, Completes 1 [job 0 name "f:1:x"] echo s ∧
      s.results = [job 0 name "f:1:x"].map (resultOf echo) :=
    exists_completes_of_perm (Nat.le_refl 1) (.refl _)
  refine ⟨r, s, built, exists_resolve sample known rules, ?_, ?_⟩
  · show Completes 1 (Job.plan r ∅ [name] ["f:1:x"]) echo s
    rwa [plan]
  · have reported := diagnostics_perm_of_complete ended.reached ended.complete
    have accounts : Accounts r (policy false []) noText []
        [resultOf echo (job 0 name "f:1:x")] (report r (policy false []) noText [] s) :=
      .of_perm rfl (.of_eq results) reported
    have passes : Passes (policy false []) noText (issue name) :=
      ⟨.inr nofun, nofun, nofun, nofun⟩
    have issues := accounts.issues
    rw [issuesFrom_eq held found, List.filter_singleton, decide_eq_true passes] at issues
    exact List.perm_singleton.mp issues

end OneLinter

open OneLinter Sample Regex.SizeRule in
theorem report_named_spell :
    ∃ r s, buildRegistry (config "spell") {} = .ok r ∧
      (buildSelection (config "spell") {}).resolve r = .ok { linters := .ofList ["spell"] } ∧
      Reachable (start 1 (Job.plan r (policy false []).vars (NameSet.ofList ["spell"]).names
        ["f:1:x"])) s ∧
      (report r (policy false []) noText [] s).issues = [issue "spell"] ∧
      ∀ issue ∈ (report r (policy false []) noText [] s).issues,
        issue.path ≠ "" ∧ issue.linter ≠ "" ∧ issue.linterLabel ≠ "" := by
  obtain ⟨r, s, built, resolved, ended, issues⟩ := exists_report "spell" (.inr rfl)
  obtain ⟨attributed, named, -⟩ := report_named built resolved ended.reached
  refine ⟨r, s, built, resolved, ended.reached, issues, fun issue member => ?_⟩
  obtain ⟨linter, label, -⟩ := named (by decide) issue member
  exact ⟨(attributed issue member).path, linter, label⟩

open OneLinter Sample Regex.SizeRule in
/-- A configuration can define a linter whose name is empty, and its issues are reported without
any name. -/
theorem nameless_reported :
    ∃ c r selected s, Config.parse document ".lintmux.json" = .ok c ∧
      buildRegistry c {} = .ok r ∧ (buildSelection c {}).resolve r = .ok selected ∧
      (settings false []).build {} = .ok (policy false []) ∧
      Completes 1 (Job.plan r (policy false []).vars selected.linters.names ["f:1:x"]) echo s ∧
      ∃ issue ∈ (report r (policy false []) noText [] s).issues,
        issue.linter = "" ∧ issue.linterLabel = "" := by
  obtain ⟨r, s, built, resolved, ended, issues⟩ := exists_report "" (.inl rfl)
  refine ⟨config "", r, _, s, parse_document, built, resolved, build_settings rfl false, ended,
    issue "", ?_, rfl, by decide⟩
  rw [issues]
  exact List.mem_singleton_self _

end Pipeline

end LintRun
