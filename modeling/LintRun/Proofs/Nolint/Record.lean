import Mathlib.Data.List.Nodup
import LintRun.Nolint.Filter

/-!
# The record of a filter

A suppression filter reads files as it goes and marks directives as it uses them. What it knows
at any time is determined by three things: the files it has been asked about, in their order, the
text by which each of them is judged, and the issues it has judged. A file is recorded with the
directives of its text, and a directive is marked when it suppresses one of the judged issues.

Judging an issue in a recorded state gives the judgement that the text of its file gives, and the
recorded state with one issue more (`judge_recorded`). So the issues that a filter keeps are those
that no directive of their file suppresses, whatever the order in which they are judged.
-/

set_option autoImplicit false

namespace LintRun.NolintFilter

/-! ## Judging by text -/

/-- The directives by which a file is judged, none if it has no text. -/
def directivesOf (text : Option String) : List Directive :=
  (text.map Directive.readAll).getD []

/-- Whether a directive of its file suppresses an issue. -/
def suppressed (text : SourceKey → Option String) (issue : Issue) : Bool :=
  issue.line != 0 &&
    (directivesOf (text (Path.sourceKey issue.path))).any (·.suppresses issue)

/-- Whether an issue has a line in a file. -/
def concerns (issue : Issue) (key : SourceKey) : Bool :=
  issue.line != 0 && Path.sourceKey issue.path == key

/-- What is recorded of a file after some issues: its directives, each of them marked if it
suppresses one of the issues. -/
def record (text : SourceKey → Option String) (seen : List Issue) (key : SourceKey) :
    List MarkedDirective :=
  (directivesOf (text key)).map fun directive =>
    { directive, used := seen.any fun issue => concerns issue key && directive.suppresses issue }

/-- The state of a filter that has consulted some files and judged some issues. -/
def recorded (text : SourceKey → Option String) (keys : List SourceKey) (seen : List Issue) :
    NolintFilter :=
  { files := keys.map fun key => (key, record text seen key) }

/-- The files consulted after one issue more. -/
def consultedAfter (keys : List SourceKey) (issue : Issue) : List SourceKey :=
  if issue.line = 0 ∨ Path.sourceKey issue.path ∈ keys then keys
  else keys ++ [Path.sourceKey issue.path]

/-- The files consulted after some issues more. -/
def consulted (keys : List SourceKey) (issues : List Issue) : List SourceKey :=
  issues.foldl consultedAfter keys

/-- The files consulted after a file is asked for, which is read if it can be. -/
def preloadedAfter (read : SourceKey → Option String) (keys : List SourceKey) (key : SourceKey) :
    List SourceKey :=
  if key ∈ keys ∨ read key = none then keys else keys ++ [key]

/-- The files consulted after some files are asked for. -/
def preloaded (read : SourceKey → Option String) (keys asked : List SourceKey) :
    List SourceKey :=
  asked.foldl (preloadedAfter read) keys

/-! ## What a state knows of a file -/

variable {text read : SourceKey → Option String} {keys : List SourceKey} {seen : List Issue}

theorem hasRead_recorded (key : SourceKey) :
    (recorded text keys seen).hasRead key = true ↔ key ∈ keys := by
  simp only [hasRead, recorded, List.any_map, List.any_eq_true, Function.comp, beq_iff_eq,
    exists_eq_right]

theorem directives?_recorded {key : SourceKey} (known : key ∈ keys) :
    (recorded text keys seen).directives? key = some (record text seen key) := by
  rw [directives?, recorded, List.find?_map, Option.map_map]
  induction keys with
  | nil => exact absurd known List.not_mem_nil
  | cons first rest ih =>
    by_cases here : first = key
    · subst here
      simp
    · have later : key ∈ rest := (List.mem_cons.mp known).resolve_left (Ne.symm here)
      have skipped : (first == key) = false := beq_false_of_ne here
      rw [List.find?_cons]
      simp only [Function.comp, skipped]
      exact ih later

/-- A file that none of the issues is in is recorded without a mark. -/
theorem record_unseen {key : SourceKey} (unseen : ∀ issue ∈ seen, concerns issue key = false) :
    record text seen key = ((text key).map markedDirectives).getD [] := by
  have unused : ∀ directive : Directive,
      (seen.any fun issue => concerns issue key && directive.suppresses issue) = false := by
    intro directive
    refine List.any_eq_false.mpr fun issue member => ?_
    rw [unseen issue member, Bool.false_and]
    exact Bool.false_ne_true
  simp only [record, unused, directivesOf]
  cases text key <;> rfl

/-- A directive is marked after one issue more if it was before or if it suppresses this one. -/
theorem record_concat (issue : Issue) (key : SourceKey) :
    record text (seen ++ [issue]) key =
      if concerns issue key then (record text seen key).map (mark issue)
      else record text seen key := by
  simp only [record, List.any_append, List.any_cons, List.any_nil, Bool.or_false, List.map_map]
  split
  · rename_i here
    refine List.map_congr_left fun directive _ => ?_
    simp only [here, Bool.true_and, Function.comp, mark]
    cases directive.suppresses issue <;> simp
  · rename_i elsewhere
    simp only [Bool.eq_false_iff.mpr elsewhere, Bool.false_and, Bool.or_false]

/-! ## Steps -/

/-- Consulting a file adds it to the record. -/
theorem consult_recorded {key : SourceKey} (agree : key ∉ keys → read key = text key)
    (unseen : key ∉ keys → ∀ issue ∈ seen, concerns issue key = false) :
    (recorded text keys seen).consult read key =
      recorded text (if key ∈ keys then keys else keys ++ [key]) seen := by
  rw [consult]
  by_cases known : key ∈ keys
  · rw [if_pos ((hasRead_recorded key).mpr known), if_pos known]
  · rw [if_neg (fun known' => known ((hasRead_recorded key).mp known')), if_neg known, agree known,
      ← record_unseen (unseen known)]
    simp only [recorded, List.map_append, List.map_cons, List.map_nil]

/-- The issues that have been judged are in files that have been consulted. -/
def Covers (keys : List SourceKey) (seen : List Issue) : Prop :=
  ∀ issue ∈ seen, issue.line ≠ 0 → Path.sourceKey issue.path ∈ keys

theorem Covers.unseen (covers : Covers keys seen) {key : SourceKey} (unknown : key ∉ keys)
    (issue : Issue) (member : issue ∈ seen) : concerns issue key = false := by
  refine Bool.eq_false_iff.mpr fun concerned => ?_
  obtain ⟨hasLine, sameFile⟩ := Bool.and_eq_true_iff.mp concerned
  rw [← eq_of_beq sameFile] at unknown
  exact unknown (covers issue member (bne_iff_ne.mp hasLine))

theorem Covers.concat (covers : Covers keys seen) (issue : Issue) :
    Covers (consultedAfter keys issue) (seen ++ [issue]) := by
  intro other member hasLine
  rw [consultedAfter]
  rcases List.mem_append.mp member with before | last
  · have known := covers other before hasLine
    split
    · exact known
    · exact List.mem_append_left _ known
  · rw [List.mem_singleton.mp last] at hasLine ⊢
    split
    · rename_i settled
      exact settled.resolve_left hasLine
    · exact List.mem_append_right _ (List.mem_singleton_self _)

/-- **Judging an issue** gives the judgement of the text of its file, and one issue more in the
record. -/
theorem judge_recorded (agree : ∀ key, key ∉ keys → read key = text key)
    (covers : Covers keys seen) (issue : Issue) :
    (recorded text keys seen).judge read issue =
      (suppressed text issue, recorded text (consultedAfter keys issue) (seen ++ [issue])) := by
  by_cases noLine : issue.line = 0
  -- An issue without a line is in no file, so it changes no record.
  · have nowhere : ∀ key, concerns issue key = false := fun key => by simp [concerns, noLine]
    have same : (fun key => (key, record text (seen ++ [issue]) key)) =
        fun key => (key, record text seen key) := by
      funext key
      rw [record_concat, if_neg (by rw [nowhere]; exact Bool.false_ne_true)]
    rw [judge, if_pos noLine, consultedAfter, if_pos (.inl noLine), recorded, recorded, same]
    simp [suppressed, noLine]
  · have known : Path.sourceKey issue.path ∈ consultedAfter keys issue := by
      rw [consultedAfter]
      split
      · rename_i settled
        exact settled.resolve_left noLine
      · exact List.mem_append_right _ (List.mem_singleton_self _)
    have consultation : (recorded text keys seen).consult read (Path.sourceKey issue.path) =
        recorded text (consultedAfter keys issue) seen := by
      rw [consult_recorded (agree _) covers.unseen, consultedAfter]
      simp only [noLine, false_or]
    have verdict : suppressed text issue =
        (record text seen (Path.sourceKey issue.path)).any (·.directive.suppresses issue) := by
      rw [suppressed, bne_iff_ne.mpr noLine, Bool.true_and, record, List.any_map]
      rfl
    rw [judge, if_neg noLine]
    simp only [consultation, directives?_recorded known, Option.getD_some, ← verdict]
    refine congrArg (Prod.mk _) ?_
    simp only [recorded, List.map_map, mk.injEq]
    refine List.map_congr_left fun key _ => ?_
    rw [Function.comp, record_concat]
    by_cases here : key = Path.sourceKey issue.path
    · simp [concerns, here, noLine]
    · simp [concerns, here, Ne.symm here]

/-! ## Runs -/

theorem mem_consultedAfter {key : SourceKey} {issue : Issue} :
    key ∈ consultedAfter keys issue ↔ key ∈ keys ∨ concerns issue key = true := by
  simp only [consultedAfter, concerns, Bool.and_eq_true, bne_iff_ne, beq_iff_eq]
  split
  · rename_i settled
    refine ⟨.inl, fun known => known.elim id fun concerned => ?_⟩
    rw [← concerned.2]
    exact settled.resolve_left concerned.1
  · rename_i unsettled
    obtain ⟨hasLine, -⟩ := not_or.mp unsettled
    rw [List.mem_append, List.mem_singleton]
    exact or_congr_right ⟨fun same => ⟨hasLine, same.symm⟩, fun concerned => concerned.2.symm⟩

theorem mem_consulted {key : SourceKey} {issues : List Issue} :
    key ∈ consulted keys issues ↔ key ∈ keys ∨ ∃ issue ∈ issues, concerns issue key = true := by
  induction issues generalizing keys with
  | nil => simp [consulted]
  | cons issue rest ih =>
    show key ∈ consulted (consultedAfter keys issue) rest ↔ _
    rw [ih, mem_consultedAfter, or_assoc]
    simp only [List.mem_cons, exists_eq_or_imp]

theorem nodup_consulted {issues : List Issue} (distinct : keys.Nodup) :
    (consulted keys issues).Nodup := by
  induction issues generalizing keys with
  | nil => exact distinct
  | cons issue rest ih =>
    show (consulted (consultedAfter keys issue) rest).Nodup
    refine ih ?_
    rw [consultedAfter]
    split
    · exact distinct
    · rename_i unsettled
      rw [← List.concat_eq_append]
      exact distinct.concat (not_or.mp unsettled).2

/-- **A run of the filter keeps exactly the issues that no directive of their file suppresses**,
in their order, and it records all of them. -/
theorem apply_recorded (agree : ∀ key, key ∉ keys → read key = text key)
    (covers : Covers keys seen) (issues : List Issue) :
    (recorded text keys seen).apply read issues =
      (issues.filter (!suppressed text ·),
        recorded text (consulted keys issues) (seen ++ issues)) := by
  induction issues generalizing keys seen with
  | nil => rw [apply, consulted, List.append_nil]; rfl
  | cons issue rest ih =>
    have agree' : ∀ key, key ∉ consultedAfter keys issue → read key = text key := fun key unknown =>
      agree key fun known => unknown (mem_consultedAfter.mpr (.inl known))
    rw [apply, judge_recorded agree covers]
    simp only [ih agree' (covers.concat issue), List.append_assoc, List.singleton_append]
    rw [List.filter_cons]
    cases suppressed text issue <;> rfl

/-- A filter that has read nothing keeps the issues that the texts of their files do not
suppress. -/
theorem kept_of_fresh (read : SourceKey → Option String) (issues : List Issue) :
    (apply read {} issues).1 = issues.filter (!suppressed read ·) := by
  have covers : Covers [] [] := fun issue member => absurd member List.not_mem_nil
  have agree : ∀ key, key ∉ [] → read key = read key := fun _ _ => rfl
  exact congrArg Prod.fst (apply_recorded agree covers issues)

theorem nodup_preloaded (read : SourceKey → Option String) {asked : List SourceKey}
    (distinct : keys.Nodup) : (preloaded read keys asked).Nodup := by
  induction asked generalizing keys with
  | nil => exact distinct
  | cons key rest ih =>
    show (preloaded read (preloadedAfter read keys key) rest).Nodup
    refine ih ?_
    rw [preloadedAfter]
    split
    · exact distinct
    · rename_i unsettled
      rw [← List.concat_eq_append]
      exact distinct.concat (not_or.mp unsettled).1

theorem preloadOne_recorded {key : SourceKey} (agree : key ∉ keys → read key = text key)
    (unseen : key ∉ keys → ∀ issue ∈ seen, concerns issue key = false) :
    preloadOne read (recorded text keys seen) key =
      recorded text (preloadedAfter read keys key) seen := by
  rw [preloadOne, preloadedAfter]
  by_cases known : key ∈ keys
  · rw [if_pos ((hasRead_recorded key).mpr known), if_pos (.inl known)]
  · rw [if_neg fun known' => known ((hasRead_recorded key).mp known')]
    cases readable : read key with
    | none => rw [if_pos (.inr rfl)]
    | some source =>
      have unmarked : record text seen key = markedDirectives source := by
        rw [record_unseen (unseen known), ← agree known, readable]
        rfl
      rw [if_neg (not_or.mpr ⟨known, Option.some_ne_none source⟩)]
      simp only [recorded, List.map_append, List.map_cons, List.map_nil, unmarked]

theorem mem_preloadedAfter {key other : SourceKey} :
    other ∈ preloadedAfter read keys key ↔
      other ∈ keys ∨ other = key ∧ (read other).isSome = true := by
  rw [preloadedAfter]
  split
  · rename_i settled
    refine ⟨.inl, fun member => member.elim id fun ⟨same, readable⟩ => ?_⟩
    subst same
    refine settled.resolve_right fun unreadable => ?_
    rw [unreadable] at readable
    cases readable
  · rename_i unsettled
    have readable : (read key).isSome = true :=
      Option.isSome_iff_ne_none.mpr (not_or.mp unsettled).2
    rw [List.mem_append, List.mem_singleton]
    refine or_congr_right ⟨fun same => ⟨same, ?_⟩, fun asked => asked.1⟩
    rw [same]
    exact readable

theorem mem_preloaded {key : SourceKey} {asked : List SourceKey} :
    key ∈ preloaded read keys asked ↔ key ∈ keys ∨ key ∈ asked ∧ (read key).isSome = true := by
  induction asked generalizing keys with
  | nil => simp [preloaded]
  | cons first rest ih =>
    show key ∈ preloaded read (preloadedAfter read keys first) rest ↔ _
    rw [ih, mem_preloadedAfter, List.mem_cons, or_and_right, or_assoc]

theorem Covers.mono {more : List SourceKey} (covers : Covers keys seen)
    (subset : ∀ key ∈ keys, key ∈ more) : Covers more seen := fun issue member hasLine =>
  subset _ (covers issue member hasLine)

/-- **Files that are asked for are recorded** with the marks of the issues that have been judged,
which are none for a file that has not been consulted before. -/
theorem preload_recorded (agree : ∀ key, key ∉ keys → read key = text key)
    (covers : Covers keys seen) (asked : List SourceKey) :
    preload read (recorded text keys seen) asked =
      recorded text (preloaded read keys asked) seen := by
  induction asked generalizing keys with
  | nil => rfl
  | cons key rest ih =>
    have kept : ∀ other ∈ keys, other ∈ preloadedAfter read keys key := fun other known =>
      mem_preloadedAfter.mpr (.inl known)
    have agree' : ∀ other, other ∉ preloadedAfter read keys key → read other = text other :=
      fun other unknown => agree other fun known => unknown (kept other known)
    show preload read (preloadOne read (recorded text keys seen) key) rest = _
    rw [preloadOne_recorded (agree key) covers.unseen, ih agree' (covers.mono kept)]
    rfl

/-! ## Independence of order -/

theorem record_perm {more : List Issue} (perm : seen.Perm more) (key : SourceKey) :
    record text seen key = record text more key := by
  simp only [record, perm.any_eq]

/-- The directives that have suppressed nothing depend neither on the order in which files were
read nor on that in which issues were judged. -/
theorem unmatched_perm {others : List SourceKey} {more : List Issue} (sameFiles : keys.Perm others)
    (sameIssues : seen.Perm more) :
    (recorded text keys seen).unmatched.Perm (recorded text others more).unmatched := by
  have files : (recorded text keys seen).files.Perm (recorded text others more).files := by
    simp only [recorded, record_perm sameIssues]
    exact sameFiles.map _
  refine List.Perm.flatMap_right _ ?_
  exact ((List.mergeSort_perm _ _).trans files).trans (List.mergeSort_perm _ _).symm

theorem consulted_perm (distinct : keys.Nodup) {issues others : List Issue}
    (perm : issues.Perm others) : (consulted keys issues).Perm (consulted keys others) := by
  refine (List.perm_ext_iff_of_nodup (nodup_consulted distinct) (nodup_consulted distinct)).mpr ?_
  intro key
  rw [mem_consulted, mem_consulted]
  exact or_congr_right (exists_congr fun issue => and_congr_left fun _ => perm.mem_iff)

end LintRun.NolintFilter
