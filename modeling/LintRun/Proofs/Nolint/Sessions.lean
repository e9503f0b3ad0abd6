import Mathlib.Data.List.Induction
import LintRun.Proofs.Lists
import LintRun.Proofs.Nolint.Record
import LintRun.Proofs.Nolint.Scanning
import LintRun.Proofs.Path.Order

/-!
# Sessions with a filter

In a session a filter is given issues in several applications, files are asked for before they
matter, and meanwhile the source files may change. The filter reads a file once, so each file is
judged by its **first text**: the text it had when the filter first consulted it (`judged`). A file
is consulted by an application with an issue in it, readable or not, and by a request for it when
it is readable.

With these texts a session is as simple as a single application (`run_settled`). Each application
keeps the issues that no directive of their file matches, and the directives that are reported as
unmatched are those of the consulted files that match none of the issues applied so far. When the
sources do not change, the first texts are the sources, so what is kept does not depend on how the
issues are divided into applications, on their order or on what is asked for.
-/

set_option autoImplicit false

namespace LintRun

/-! ## Directives and the issues they match -/

/-- A directive matches the issues of its line, and those of the next line when it stands alone,
unless it names linters and none of them has reported the issue. After the last line that has a
number comes line zero, which no issue is on whose line is known. -/
def Directive.Matches (d : Directive) (issue : Issue) : Prop :=
  (d.line = issue.line ∨ d.standalone = true ∧ d.line + 1 = issue.line) ∧
    (d.linters = ∅ ∨ ∃ name ∈ issue.linters, name ∈ d.linters)

theorem Directive.suppresses_iff {d : Directive} {issue : Issue} :
    d.suppresses issue = true ↔ d.Matches issue := by
  simp only [suppresses, appliesTo, covers, Matches, Bool.and_eq_true, Bool.or_eq_true,
    beq_iff_eq, NameSet.isEmpty_iff, List.any_eq_true, NameSet.contains_iff]

instance (d : Directive) (issue : Issue) : Decidable (d.Matches issue) :=
  decidable_of_iff _ Directive.suppresses_iff

namespace NolintFilter

/-! ## Sessions -/

/-- One step of a session. -/
inductive Action where
  /-- Issues are given to the filter. -/
  | apply (issues : List Issue)
  /-- The filter is asked to read files. -/
  | preload (paths : List String)
  /-- The source files change. -/
  | write (sources : SourceKey → Option String)

/-- A filter in use: the sources as they are, the filter, and what each application has kept. -/
structure Session where
  sources : SourceKey → Option String
  filter : NolintFilter := {}
  kept : List (List Issue) := []

/-- The session after one action more. -/
def Session.perform (s : Session) : Action → Session
  | .apply issues =>
    let (kept, filter) := s.filter.apply s.sources issues
    { s with filter, kept := s.kept ++ [kept] }
  | .preload paths => { s with filter := s.filter.preload s.sources (paths.map Path.sourceKey) }
  | .write sources => { s with sources }

/-- The session that starts with a new filter and performs some actions. -/
def run (sources : SourceKey → Option String) (actions : List Action) : Session :=
  actions.foldl Session.perform { sources }

theorem run_concat (sources : SourceKey → Option String) (actions : List Action)
    (action : Action) :
    run sources (actions ++ [action]) = (run sources actions).perform action := by
  simp only [run, List.foldl_append, List.foldl_cons, List.foldl_nil]

/-! ## What actions are about -/

namespace Action

/-- The issues that an action gives to the filter. -/
def issues : Action → List Issue
  | .apply issues => issues
  | _ => []

/-- The files that an action asks for. -/
def asked : Action → List SourceKey
  | .preload paths => paths.map Path.sourceKey
  | _ => []

/-- The sources after an action. -/
def sourcesAfter (sources : SourceKey → Option String) : Action → SourceKey → Option String
  | .write sources => sources
  | _ => sources

/-- Whether an action makes the filter consult a file: it has an issue in the file, or it asks
for the file, which is readable. -/
def consults (sources : SourceKey → Option String) (key : SourceKey) (action : Action) : Bool :=
  action.issues.any (concerns · key) || action.asked.contains key && (sources key).isSome

/-- The application that an action is, if it is one. -/
def application? : Action → Option (List Issue)
  | .apply issues => some issues
  | _ => none

end Action

/-- The applications among some actions. -/
def applications (actions : List Action) : List (List Issue) :=
  actions.filterMap Action.application?

/-- The issues that some actions give to the filter. -/
def applied (actions : List Action) : List Issue :=
  actions.flatMap Action.issues

/-- The sources after some actions. -/
def sourcesAfter (sources : SourceKey → Option String) (actions : List Action) :
    SourceKey → Option String :=
  actions.foldl Action.sourcesAfter sources

/-- The text of a file when the filter first consults it, if it ever does. The text of a file
that is not readable then is none. -/
def firstText? (key : SourceKey) (sources : SourceKey → Option String) :
    List Action → Option (Option String)
  | [] => none
  | action :: rest =>
    if action.consults sources key then some (sources key)
    else firstText? key (action.sourcesAfter sources) rest

/-- Whether the filter has consulted a file. -/
def Consulted (sources : SourceKey → Option String) (actions : List Action) (key : SourceKey) :
    Prop :=
  (firstText? key sources actions).isSome = true

/-- The text by which a file is judged: the first text of a consulted file, and for another file
the text that it has now. -/
def judged (sources : SourceKey → Option String) (actions : List Action) (key : SourceKey) :
    Option String :=
  (firstText? key sources actions).getD (sourcesAfter sources actions key)

variable {sources : SourceKey → Option String} {actions : List Action} {key : SourceKey}

theorem applications_concat (action : Action) :
    applications (actions ++ [action]) = applications actions ++ action.application?.toList := by
  rw [applications, List.filterMap_append]
  cases action <;> rfl

theorem applied_concat (action : Action) :
    applied (actions ++ [action]) = applied actions ++ action.issues := by
  simp only [applied, List.flatMap_append, List.flatMap_cons, List.flatMap_nil, List.append_nil]

theorem flatten_applications (actions : List Action) :
    (applications actions).flatten = applied actions := by
  induction actions with
  | nil => rfl
  | cons action rest ih =>
    rw [applied, List.flatMap_cons, ← applied, ← ih]
    cases action <;> rfl

theorem sourcesAfter_concat (action : Action) :
    sourcesAfter sources (actions ++ [action]) =
      action.sourcesAfter (sourcesAfter sources actions) := by
  simp only [sourcesAfter, List.foldl_append, List.foldl_cons, List.foldl_nil]

/-- A file that no action before has consulted gets its first text from the later actions. -/
theorem firstText?_append (more : List Action) :
    firstText? key sources (actions ++ more) =
      (firstText? key sources actions).or
        (firstText? key (sourcesAfter sources actions) more) := by
  induction actions generalizing sources with
  | nil => rfl
  | cons first rest ih =>
    rw [List.cons_append, firstText?, firstText?]
    split
    · rfl
    · exact ih

/-- A consulted file is judged by its first text whatever is done later. -/
theorem judged_append {text : Option String} (first : firstText? key sources actions = some text)
    (more : List Action) : judged sources (actions ++ more) key = text := by
  rw [judged, firstText?_append, first]
  rfl

theorem judged_of_not_consulted (unknown : ¬ Consulted sources actions key) :
    judged sources actions key = sourcesAfter sources actions key := by
  rw [judged, Option.not_isSome_iff_eq_none.mp unknown]
  rfl

/-- An action that leaves the sources as they are changes no judgement. -/
theorem judged_concat_of_steady {action : Action}
    (steady : action.sourcesAfter (sourcesAfter sources actions) = sourcesAfter sources actions) :
    judged sources (actions ++ [action]) = judged sources actions := by
  funext key
  rw [judged, sourcesAfter_concat, steady, firstText?_append, judged]
  cases firstText? key sources actions with
  | some text => rfl
  | none =>
    rw [Option.none_or, firstText?]
    split <;> rfl

theorem consulted_concat (action : Action) :
    Consulted sources (actions ++ [action]) key ↔
      Consulted sources actions key ∨
        action.consults (sourcesAfter sources actions) key = true := by
  rw [Consulted, Consulted, firstText?_append, Option.isSome_or, Bool.or_eq_true]
  refine or_congr_right ?_
  rw [firstText?]
  split
  · rename_i consulting
    exact iff_of_true rfl consulting
  · rename_i idle
    exact iff_of_false Bool.false_ne_true idle

theorem consulted_of_mem_applied {issue : Issue} (member : issue ∈ applied actions)
    (hasLine : issue.line ≠ 0) : Consulted sources actions (Path.sourceKey issue.path) := by
  induction actions using List.reverseRecOn with
  | nil => exact absurd member List.not_mem_nil
  | append_singleton actions action ih =>
    rw [applied_concat, List.mem_append] at member
    refine consulted_concat action |>.mpr (member.imp ih fun last => ?_)
    have inFile : concerns issue (Path.sourceKey issue.path) = true := by simp [concerns, hasLine]
    rw [Action.consults, List.any_eq_true.mpr ⟨issue, last, inFile⟩, Bool.true_or]

/-! ## What a session knows -/

theorem recorded_congr {text text' : SourceKey → Option String} {keys : List SourceKey}
    (same : ∀ key ∈ keys, text key = text' key) (seen : List Issue) :
    recorded text keys seen = recorded text' keys seen := by
  simp only [recorded, mk.injEq]
  refine List.map_congr_left fun key known => ?_
  rw [record, record, same key known]

theorem suppressed_congr {text text' : SourceKey → Option String} {issue : Issue}
    (same : issue.line ≠ 0 → text (Path.sourceKey issue.path) = text' (Path.sourceKey issue.path)) :
    suppressed text issue = suppressed text' issue := by
  by_cases noLine : issue.line = 0
  · simp only [suppressed, noLine, bne_self_eq_false, Bool.false_and]
  · rw [suppressed, suppressed, same noLine]

/-- A session is **tracked** by the files that it has consulted when it stands as these files,
the texts by which they are judged and the applied issues say. -/
structure Tracks (sources : SourceKey → Option String) (actions : List Action)
    (keys : List SourceKey) (s : Session) : Prop where
  distinct : keys.Nodup
  members : ∀ key, key ∈ keys ↔ Consulted sources actions key
  current : s.sources = sourcesAfter sources actions
  filter : s.filter = recorded (judged sources actions) keys (applied actions)
  kept : s.kept = (applications actions).map (·.filter (!suppressed (judged sources actions) ·))

namespace Tracks

variable {keys : List SourceKey} {s : Session}

theorem nil (sources : SourceKey → Option String) : Tracks sources [] [] { sources } where
  distinct := List.nodup_nil
  members _ := iff_of_false List.not_mem_nil Bool.false_ne_true
  current := rfl
  filter := rfl
  kept := rfl

/-- The files of the applied issues have been consulted. -/
theorem covers (tracks : Tracks sources actions keys s) : Covers keys (applied actions) :=
  fun _ member hasLine => (tracks.members _).mpr (consulted_of_mem_applied member hasLine)

/-- A file that has not been consulted would be judged by the text that it has now. -/
theorem agree (tracks : Tracks sources actions keys s) (key : SourceKey) (unknown : key ∉ keys) :
    s.sources key = judged sources actions key := by
  rw [tracks.current, judged_of_not_consulted fun known => unknown ((tracks.members key).mpr known)]

theorem apply (tracks : Tracks sources actions keys s) (issues : List Issue) :
    Tracks sources (actions ++ [.apply issues]) (consulted keys issues)
      (s.perform (.apply issues)) := by
  have outcome := apply_recorded tracks.agree tracks.covers issues
  rw [← tracks.filter] at outcome
  have sameTexts : judged sources (actions ++ [.apply issues]) = judged sources actions :=
    judged_concat_of_steady rfl
  refine ⟨nodup_consulted tracks.distinct, fun key => ?_, ?_, ?_, ?_⟩
  · rw [mem_consulted, tracks.members, consulted_concat]
    simp [Action.consults, Action.issues, Action.asked]
  · rw [sourcesAfter_concat]
    exact tracks.current
  · rw [sameTexts, applied_concat]
    exact congrArg Prod.snd outcome
  · rw [sameTexts, applications_concat, List.map_append, ← tracks.kept]
    simp only [Session.perform, outcome]
    rfl

theorem preload (tracks : Tracks sources actions keys s) (paths : List String) :
    Tracks sources (actions ++ [.preload paths])
      (preloaded s.sources keys (paths.map Path.sourceKey)) (s.perform (.preload paths)) := by
  have outcome := preload_recorded tracks.agree tracks.covers (paths.map Path.sourceKey)
  rw [← tracks.filter] at outcome
  have sameTexts : judged sources (actions ++ [.preload paths]) = judged sources actions :=
    judged_concat_of_steady rfl
  have noIssues : applied (actions ++ [.preload paths]) = applied actions := by
    simp [applied_concat, Action.issues]
  have noApplication : applications (actions ++ [.preload paths]) = applications actions := by
    simp [applications_concat, Action.application?]
  refine ⟨nodup_preloaded _ tracks.distinct, fun key => ?_, ?_, ?_, ?_⟩
  · rw [mem_preloaded, tracks.members, consulted_concat, tracks.current]
    simp [Action.consults, Action.issues, Action.asked]
  · rw [sourcesAfter_concat]
    exact tracks.current
  · rw [sameTexts, noIssues]
    exact outcome
  · rw [sameTexts, noApplication]
    exact tracks.kept

theorem write (tracks : Tracks sources actions keys s) (written : SourceKey → Option String) :
    Tracks sources (actions ++ [.write written]) keys (s.perform (.write written)) := by
  -- New sources matter only to the files that have not been consulted.
  have sameTexts : ∀ key ∈ keys,
      judged sources (actions ++ [.write written]) key = judged sources actions key :=
    fun key known => by
      obtain ⟨text, first⟩ := Option.isSome_iff_exists.mp ((tracks.members key).mp known)
      rw [judged_append first, judged, first]
      rfl
  have noIssues : applied (actions ++ [.write written]) = applied actions := by
    simp [applied_concat, Action.issues]
  have noApplication : applications (actions ++ [.write written]) = applications actions := by
    simp [applications_concat, Action.application?]
  refine ⟨tracks.distinct, fun key => ?_, ?_, ?_, ?_⟩
  · rw [tracks.members, consulted_concat]
    exact (or_iff_left Bool.false_ne_true).symm
  · rw [sourcesAfter_concat]
    rfl
  · rw [noIssues, recorded_congr sameTexts]
    exact tracks.filter
  · rw [noApplication]
    refine tracks.kept.trans (List.map_congr_left fun issues application => ?_)
    refine List.filter_congr fun issue member => congrArg _ (suppressed_congr fun hasLine => ?_)
    have isApplied : issue ∈ applied actions := by
      rw [← flatten_applications]
      exact List.mem_flatten_of_mem application member
    exact (sameTexts _ (tracks.covers issue isApplied hasLine)).symm

end Tracks

theorem exists_tracks_run (sources : SourceKey → Option String) (actions : List Action) :
    ∃ keys, Tracks sources actions keys (run sources actions) := by
  induction actions using List.reverseRecOn with
  | nil => exact ⟨[], .nil sources⟩
  | append_singleton actions action ih =>
    obtain ⟨keys, tracks⟩ := ih
    rw [run_concat]
    cases action with
    | apply issues => exact ⟨_, tracks.apply issues⟩
    | preload paths => exact ⟨_, tracks.preload paths⟩
    | write written => exact ⟨_, tracks.write written⟩

/-! ## What is kept -/

/-- Whether an issue has no line or no directive of its file matches it. -/
def Spared (text : SourceKey → Option String) (issue : Issue) : Prop :=
  issue.line = 0 ∨ ∀ d ∈ directivesOf (text (Path.sourceKey issue.path)), ¬ d.Matches issue

instance (text : SourceKey → Option String) (issue : Issue) : Decidable (Spared text issue) :=
  inferInstanceAs (Decidable (_ ∨ _))

theorem not_suppressed_eq (text : SourceKey → Option String) (issue : Issue) :
    (!suppressed text issue) = decide (Spared text issue) := by
  have spared_iff : suppressed text issue = false ↔ Spared text issue := by
    rw [suppressed, Bool.and_eq_false_iff, bne_eq_false_iff_eq, List.any_eq_false]
    simp only [Directive.suppresses_iff, Spared]
  rw [Bool.eq_iff_iff, Bool.not_eq_true', spared_iff, decide_eq_true_iff]

/-! ## What is left unmatched -/

/-- Whether a directive of a file matches none of the issues that have a line in the file. -/
def Idle (issues : List Issue) (key : SourceKey) (d : Directive) : Prop :=
  ∀ issue ∈ issues, concerns issue key = true → ¬ d.Matches issue

instance (issues : List Issue) (key : SourceKey) (d : Directive) : Decidable (Idle issues key d) :=
  inferInstanceAs (Decidable (∀ issue ∈ issues, _))

/-- The diagnostics about the directives of a file that match none of some issues. -/
def unmatchedIn (text : SourceKey → Option String) (issues : List Issue) (key : SourceKey) :
    List Diagnostic :=
  ((directivesOf (text key)).filter (Idle issues key ·)).map fun d =>
    Diagnostic.unmatchedNolint (Path.ofComponents key) d.line

theorem unused_eq_idle (issues : List Issue) (key : SourceKey) (d : Directive) :
    (!issues.any fun issue => concerns issue key && d.suppresses issue) =
      decide (Idle issues key d) := by
  have idle_iff : (issues.any fun issue => concerns issue key && d.suppresses issue) = false ↔
      Idle issues key d := by
    rw [List.any_eq_false]
    simp only [Bool.and_eq_true, not_and, Directive.suppresses_iff, Idle]
  rw [Bool.eq_iff_iff, Bool.not_eq_true', idle_iff, decide_eq_true_iff]

/-- The unmatched directives are reported file by file, in the order of the paths. -/
theorem unmatched_recorded (text : SourceKey → Option String) {keys : List SourceKey}
    (distinct : keys.Nodup) (seen : List Issue) :
    ∃ files : List SourceKey, files.Pairwise (Path.compareComponents · · = .lt) ∧
      (∀ key, key ∈ files ↔ key ∈ keys) ∧
      (recorded text keys seen).unmatched = files.flatMap (unmatchedIn text seen) := by
  let files := keys.mergeSort fun a b => (Path.compareComponents a b).isLE
  have sorted : files.map (fun key => (key, record text seen key)) =
      (recorded text keys seen).files.mergeSort
        fun a b => (Path.compareComponents a.1 b.1).isLE :=
    List.map_mergeSort fun _ _ _ _ => rfl
  refine ⟨files, Lists.strictly_ascending_mergeSort Path.compareComponents distinct,
    fun key => List.mem_mergeSort, ?_⟩
  rw [unmatched, ← sorted, List.flatMap_map]
  congr 1
  funext key
  simp only [record, List.filter_map, List.map_map, unmatchedIn]
  refine congrArg _ (List.filter_congr fun d _ => unused_eq_idle seen key d)

theorem unmatchedIn_perm (text : SourceKey → Option String) {issues others : List Issue}
    (perm : issues.Perm others) : unmatchedIn text issues = unmatchedIn text others := by
  funext key
  have sameIdle : ∀ d, Idle issues key d ↔ Idle others key d := fun d =>
    forall_congr' fun issue => imp_congr_left perm.mem_iff
  simp only [unmatchedIn, sameIdle]

/-! ## Unchanging sources -/

/-- Whether every write leaves the sources as they are. -/
def Unchanging (sources : SourceKey → Option String) (actions : List Action) : Prop :=
  ∀ written, Action.write written ∈ actions → written = sources

/-- The files that some actions ask for. -/
def asked (actions : List Action) : List SourceKey :=
  actions.flatMap Action.asked

theorem Unchanging.of_concat {action : Action}
    (unchanging : Unchanging sources (actions ++ [action])) :
    Unchanging sources actions ∧ action.sourcesAfter sources = sources := by
  refine ⟨fun written member => unchanging written (List.mem_append_left _ member), ?_⟩
  cases action with
  | apply issues => rfl
  | preload paths => rfl
  | write written => exact unchanging written (List.mem_append_right _ (List.mem_singleton_self _))

theorem Unchanging.sourcesAfter (unchanging : Unchanging sources actions) :
    sourcesAfter sources actions = sources := by
  induction actions using List.reverseRecOn with
  | nil => rfl
  | append_singleton actions action ih =>
    obtain ⟨before, same⟩ := unchanging.of_concat
    rw [sourcesAfter_concat, ih before, same]

/-- With unchanging sources a file is judged by its text. -/
theorem Unchanging.judged (unchanging : Unchanging sources actions) :
    judged sources actions = sources := by
  induction actions using List.reverseRecOn with
  | nil => rfl
  | append_singleton actions action ih =>
    obtain ⟨before, same⟩ := unchanging.of_concat
    rw [judged_concat_of_steady (by rw [before.sourcesAfter, same]), ih before]

/-- With unchanging sources the consulted files are those with issues and the readable ones that
have been asked for. -/
theorem Unchanging.consulted_iff (unchanging : Unchanging sources actions) :
    Consulted sources actions key ↔ (∃ issue ∈ applied actions, concerns issue key = true) ∨
      key ∈ asked actions ∧ (sources key).isSome = true := by
  induction actions using List.reverseRecOn with
  | nil => simp [Consulted, firstText?, applied, asked]
  | append_singleton actions action ih =>
    obtain ⟨before, -⟩ := unchanging.of_concat
    rw [consulted_concat, ih before, before.sourcesAfter, Action.consults, Bool.or_eq_true,
      List.any_eq_true, Bool.and_eq_true, List.contains_iff_mem]
    simp only [applied, asked, List.flatMap_append, List.flatMap_cons, List.flatMap_nil,
      List.append_nil, List.mem_append, or_and_right, exists_or]
    exact or_or_or_comm

/-! ## Sessions and first texts -/

/-- What a session comes to. -/
structure Settled (sources : SourceKey → Option String) (actions : List Action) : Prop where
  /-- The file of every applied issue with a line has been consulted. -/
  consulted : ∀ issue ∈ applied actions, issue.line ≠ 0 →
    Consulted sources actions (Path.sourceKey issue.path)
  /-- A consulted file is judged by its first text, whatever is done later. -/
  lasting : ∀ key text, firstText? key sources actions = some text →
    ∀ more, judged sources (actions ++ more) key = text
  /-- Each application keeps those of its issues that are spared, in their order. -/
  kept : (run sources actions).kept =
    (applications actions).map (·.filter (Spared (judged sources actions) ·))
  /-- The idle directives of the consulted files are reported, by path. -/
  unmatched : ∃ files : List SourceKey, files.Pairwise (Path.compareComponents · · = .lt) ∧
    (∀ key, key ∈ files ↔ Consulted sources actions key) ∧
    (run sources actions).filter.unmatched =
      files.flatMap (unmatchedIn (judged sources actions) (applied actions))
  /-- The directives of a file are reported by line. -/
  lines : ∀ key, (directivesOf (judged sources actions key)).Pairwise (·.line < ·.line)
  /-- With unchanging sources all issues together are kept as the sources say. -/
  unchanging : Unchanging sources actions →
    (run sources actions).kept.flatten = (applied actions).filter (Spared sources ·) ∧
      ∀ key, Consulted sources actions key ↔
        (∃ issue ∈ applied actions, concerns issue key = true) ∨
          key ∈ asked actions ∧ (sources key).isSome = true
  /-- With unchanging sources neither the division into applications nor the order of the issues
  nor the requests for files change what is kept or what is reported about a consulted file. -/
  independent : Unchanging sources actions → ∀ others, Unchanging sources others →
    (applied actions).Perm (applied others) →
      (run sources actions).kept.flatten.Perm (run sources others).kept.flatten ∧
      unmatchedIn (judged sources actions) (applied actions) =
        unmatchedIn (judged sources others) (applied others) ∧
      ((∀ key, Consulted sources actions key ↔ Consulted sources others key) →
        (run sources actions).filter.unmatched = (run sources others).filter.unmatched)

theorem kept_run (sources : SourceKey → Option String) (actions : List Action) :
    (run sources actions).kept =
      (applications actions).map (·.filter (Spared (judged sources actions) ·)) := by
  obtain ⟨keys, tracks⟩ := exists_tracks_run sources actions
  simp only [tracks.kept, not_suppressed_eq]

theorem unmatched_run (sources : SourceKey → Option String) (actions : List Action) :
    ∃ files : List SourceKey, files.Pairwise (Path.compareComponents · · = .lt) ∧
      (∀ key, key ∈ files ↔ Consulted sources actions key) ∧
      (run sources actions).filter.unmatched =
        files.flatMap (unmatchedIn (judged sources actions) (applied actions)) := by
  obtain ⟨keys, tracks⟩ := exists_tracks_run sources actions
  obtain ⟨files, ascending, members, reported⟩ :=
    unmatched_recorded (judged sources actions) tracks.distinct (applied actions)
  rw [← tracks.filter] at reported
  exact ⟨files, ascending, fun key => (members key).trans (tracks.members key), reported⟩

theorem Unchanging.flatten_kept (unchanging : Unchanging sources actions) :
    (run sources actions).kept.flatten = (applied actions).filter (Spared sources ·) := by
  rw [kept_run, unchanging.judged, ← List.filter_flatten, flatten_applications]

/-- **A session judges every file by its first text.** -/
theorem run_settled (sources : SourceKey → Option String) (actions : List Action) :
    Settled sources actions where
  consulted _ member hasLine := consulted_of_mem_applied member hasLine
  lasting _ _ first more := judged_append first more
  kept := kept_run sources actions
  unmatched := unmatched_run sources actions
  lines key := by
    cases text : judged sources actions key with
    | none => exact List.Pairwise.nil
    | some source => exact Directive.readAll_ascending source
  unchanging unchanging := ⟨unchanging.flatten_kept, fun _ => unchanging.consulted_iff⟩
  independent unchanging others unchanging' perm := by
    have sameReports : unmatchedIn (judged sources actions) (applied actions) =
        unmatchedIn (judged sources others) (applied others) := by
      rw [unchanging.judged, unchanging'.judged, unmatchedIn_perm sources perm]
    refine ⟨?_, sameReports, fun sameFiles => ?_⟩
    · rw [unchanging.flatten_kept, unchanging'.flatten_kept]
      exact perm.filter _
    · obtain ⟨files, ascending, members, reported⟩ := unmatched_run sources actions
      obtain ⟨files', ascending', members', reported'⟩ := unmatched_run sources others
      have same : files = files' := Lists.eq_of_strictly_ascending ascending ascending' fun key =>
        (members key).trans ((sameFiles key).trans (members' key).symm)
      rw [reported, reported', sameReports, same]

/-- A directive that is written after its file was consulted suppresses nothing and is not
reported, not even when the file is asked for again. -/
example :
    let issue : Issue := { linter := "vet", path := "./f.go", line := 1 }
    let session := run (fun _ => some "x\n")
      [.apply [issue], .write fun _ => some "x // nolint\n", .preload ["f.go"], .apply [issue]]
    session.kept = [[issue], [issue]] ∧ session.filter.unmatched = [] := by
  decide +kernel

namespace Sample

open Directive (indented)

/-- Two comments with nothing else on their lines, and two lines of code between them. -/
def source : String :=
  "\t// nolint\n\tx\n\ty\n\t// nolint\n"

def issueAt (line : UInt32) : Issue :=
  { linter := "vet", path := "f.go", line }

theorem ofLine?_indented (number : UInt32) :
    Directive.ofLine? number indented.line = some ⟨number, ∅, true⟩ := by
  refine (Directive.ofLine?_of_unscoped number fun list scopes => ?_).trans rfl
  obtain ⟨separator, ends, -, starts⟩ := scopes
  obtain ⟨c, more, rfl, -⟩ := starts.exists_cons
  exact List.append_ne_nil_of_right_ne_nil separator (List.cons_ne_nil c more) ends.symm

theorem ofLine?_code (number : UInt32) {line : List Char}
    (code : line ∈ [['\t', 'x'], ['\t', 'y']]) : Directive.ofLine? number line = none := by
  have nothing : Directive.node.firstFrom? 0 none line = none := by
    revert line
    decide
  rw [Directive.ofLine?, Regex.Node.findByPreference_eq_firstFrom? (by decide), nothing]
  rfl

theorem readAll_source : Directive.readAll source = [⟨1, ∅, true⟩, ⟨4, ∅, true⟩] := by
  have lines : (Text.linesOf source.toList).zipIdx 1 =
      [(indented.line, 1), (['\t', 'x'], 2), (['\t', 'y'], 3), (indented.line, 4)] := by
    decide +kernel
  have numbers : ∀ n ∈ [1, 2, 3, 4], Text.word32? n = some (UInt32.ofNat n) := by decide
  simp only [List.forall_mem_cons] at numbers
  obtain ⟨one, two, three, four, -⟩ := numbers
  rw [Directive.readAll, lines]
  simp only [List.filterMap_cons, List.filterMap_nil, one, two, three, four, Option.bind_some,
    ofLine?_indented, ofLine?_code _ List.mem_cons_self,
    ofLine?_code _ (List.mem_cons_of_mem _ List.mem_cons_self)]
  rfl

end Sample

open Sample in
/-- The first comment suppresses the issue on the line after it, and the second one nothing. -/
theorem run_settled_indented :
    Settled (fun _ => some source) [.apply [issueAt 3, issueAt 2]] ∧
      (run (fun _ => some source) [.apply [issueAt 3, issueAt 2]]).kept = [[issueAt 3]] ∧
      (run (fun _ => some source) [.apply [issueAt 3, issueAt 2]]).filter.unmatched =
        [.unmatchedNolint "f.go" 4] := by
  refine ⟨run_settled _ _, ?_⟩
  simp only [run, List.foldl_cons, List.foldl_nil, Session.perform, NolintFilter.apply, judge,
    consult, hasRead, List.any_nil, Option.map_some, markedDirectives, readAll_source]
  decide +kernel

end NolintFilter

end LintRun
