import LintRun.Proofs.Output.ByFile
import LintRun.Proofs.Output.Xml
import LintRun.Proofs.Pipeline.CompletionOrder
import LintRun.Proofs.Text.Blanks

/-!
# Well-formed reports by file

A report by file is a document by the grammar, whatever the issues are (`isDocument_document`): its
elements are nested, and its values hold no markup. Its characters are another matter. Values are
written with references for markup, but a character that no document may hold is written as it is,
so the report is well-formed exactly when the paths, the messages and the labels of the issues hold
no such character (`render_wellFormed`). A linter that prints in color has such characters in its
messages (`escape_reported`).
-/

set_option autoImplicit false

namespace LintRun.Checkstyle

open Xml

/-! ## Nesting -/

theorem content_issueElement (e : IssueElement) : Content e.text.toList := by
  have names : e.attributes.map (·.1) = ["column", "line", "message", "severity", "source"] := rfl
  have isName : IsName "error".toList := by decide
  have gap : Gap [' '] := by decide
  have attributes := attributes_writeAttribute names (by decide) (by decide)
  have element := Content.of_element (.single isName attributes gap)
  have before : Content "    ".toList := .of_gap (by decide)
  have behind : Content "\n".toList := .of_gap (by decide)
  have whole := before.append (element.append behind)
  rw [List.cons_append, List.append_assoc, List.append_assoc, List.append_assoc] at whole
  rw [e.toList_text]
  exact whole

theorem content_fileElement (e : FileElement) : Content e.text.toList := by
  have isName : IsName "file".toList := by decide
  have isAttribute : IsName "name".toList := by decide
  have issues : Content ("\n".toList ++
      ((e.issues.flatMap fun issue => issue.text.toList) ++ "  ".toList)) :=
    .append (.of_gap (by decide)) (.append (.flatMap content_issueElement e.issues)
      (.of_gap (by decide)))
  have element :=
    Content.of_element (.of_content isName (attributes_single isAttribute e.name) issues)
  have before : Content "  ".toList := .of_gap (by decide)
  have behind : Content "\n".toList := .of_gap (by decide)
  have whole := before.append (element.append behind)
  rw [e.toList_text]
  simp only [List.cons_append, List.append_assoc] at whole
  exact whole

/-- **A document has nested elements and values without markup**, whatever its elements hold. -/
theorem isDocument_document (files : List FileElement) : IsDocument (document files) := by
  have isName : IsName "checkstyle".toList := by decide
  have isAttribute : IsName "version".toList := by decide
  have inside : Content ("\n".toList ++ files.flatMap fun file => file.text.toList) :=
    .append (.of_gap (by decide)) (.flatMap content_fileElement files)
  have root := Element.of_content isName (attributes_single isAttribute "5.0") inside
  have declared : "<?xml version=\"1.0\" encoding=\"UTF-8\"?>\n".toList =
      declaration.toList ++ "\n".toList := by decide
  have opened : "<checkstyle version=\"5.0\">\n".toList = '<' :: ("checkstyle".toList ++
      ((writeAttribute "version" "5.0").toList ++ '>' :: "\n".toList)) := by decide
  have closed : "</checkstyle>\n".toList =
      '<' :: '/' :: ("checkstyle".toList ++ '>' :: "\n".toList) := by decide
  refine ⟨"\n".toList, _, "\n".toList, ?_, by decide, root, by decide⟩
  rw [toList_document, declared, opened, closed]
  simp only [List.cons_append, List.append_assoc, List.nil_append]

/-! ## Characters -/

variable {s t : String}

theorem allowed_append : Allowed (s ++ t) ↔ Allowed s ∧ Allowed t := by
  simp only [Allowed, String.toList_append, List.forall_mem_append]

theorem allowed_join {α : Type} {text : α → String} {xs : List α} :
    Allowed (String.join (xs.map text)) ↔ ∀ x ∈ xs, Allowed (text x) := by
  simp only [Allowed, String.toList_join, List.flatMap_map, List.mem_flatMap]
  constructor
  · intro all x member c inText
    exact all c ⟨x, member, inText⟩
  · rintro all c ⟨x, member, inText⟩
    exact all x member c inText

theorem allowed_toString (n : UInt32) : Allowed (toString n) := by
  intro c member
  obtain ⟨least, greatest⟩ := Text.toNat_of_isDigit (Text.isDigit_of_mem_toString member)
  refine .inr ⟨by omega, ?_⟩
  simp only [List.mem_cons, List.not_mem_nil, or_false]
  omega

theorem allowed_encodeChar {c : Char} :
    (∀ d ∈ Text.Attribute.encodeChar c, IsChar d) ↔ IsChar c := by
  have references : ∀ entry ∈ Text.Attribute.references, IsChar entry.1 ∧ Allowed entry.2 := by
    decide
  rcases Text.Attribute.encodeChar_cases c with ⟨reference, member, shape⟩ | ⟨-, shape⟩
  · rw [shape]
    exact iff_of_true (references _ member).2 (references _ member).1
  · rw [shape]
    exact List.forall_mem_singleton

/-- What is written for a value is allowed if the value is: no reference takes the place of a
character that is not. -/
theorem allowed_writeAttribute {name : String} (fixed : Allowed name) :
    Allowed (writeAttribute name s) ↔ Allowed s := by
  have encoded : Allowed (Text.Attribute.encode s) ↔ Allowed s := by
    simp only [Allowed, Text.Attribute.encode, Text.Attribute.encodeChars, String.toList_ofList,
      List.mem_flatMap]
    constructor
    · intro all c member
      exact allowed_encodeChar.mp fun d written => all d ⟨c, member, written⟩
    · rintro all d ⟨c, member, written⟩
      exact allowed_encodeChar.mpr (all c member) d written
  have signs : Allowed " " ∧ Allowed "=\"" ∧ Allowed "\"" := by decide
  rw [writeAttribute, allowed_append, allowed_append, allowed_append, allowed_append, encoded]
  simp only [signs, fixed, true_and, and_true]

theorem allowed_issueElement (e : IssueElement) :
    Allowed e.text ↔ Allowed e.message ∧ Allowed e.severity ∧ Allowed e.source := by
  have names : Allowed "column" ∧ Allowed "line" ∧ Allowed "message" ∧ Allowed "severity" ∧
      Allowed "source" := by decide
  have signs : Allowed "    <error" ∧ Allowed " />\n" := by decide
  unfold IssueElement.text
  simp only [allowed_append, allowed_writeAttribute, names, signs, allowed_toString, true_and,
    and_true, and_assoc]

theorem allowed_fileElement (e : FileElement) : Allowed e.text ↔ Allowed e.name ∧
    ∀ issue ∈ e.issues, Allowed issue.message ∧ Allowed issue.severity ∧ Allowed issue.source := by
  have name : Allowed "name" := by decide
  have signs : Allowed "  <file" ∧ Allowed ">\n" ∧ Allowed "  </file>\n" := by decide
  unfold FileElement.text
  simp only [allowed_append, allowed_writeAttribute, allowed_join, allowed_issueElement, name,
    signs, true_and, and_true]

theorem allowed_document (files : List FileElement) : Allowed (document files) ↔
    ∀ file ∈ files, Allowed file.text := by
  have signs : Allowed
      "<?xml version=\"1.0\" encoding=\"UTF-8\"?>\n<checkstyle version=\"5.0\">\n" ∧
      Allowed "</checkstyle>\n" := by decide
  unfold document
  simp only [allowed_append, allowed_join, signs, true_and, and_true]

/-- The elements of some issues hold the texts of these. -/
theorem allowed_elements (issues : List Issue) : (∀ file ∈ elements issues, Allowed file.text) ↔
    ∀ issue ∈ issues, Allowed issue.path ∧ Allowed issue.message ∧ Allowed issue.linterLabel := by
  have ofIssue : ∀ issue : Issue,
      (Allowed (IssueElement.ofIssue issue).message ∧
        Allowed (IssueElement.ofIssue issue).severity ∧
        Allowed (IssueElement.ofIssue issue).source) ↔
      Allowed issue.message ∧ Allowed issue.linterLabel := by
    intro issue
    have severity : Allowed issue.severity.name := by
      cases issue.severity <;> decide
    exact and_congr_right fun _ => and_iff_right severity
  induction issues with
  | nil => exact iff_of_true nofun nofun
  | cons issue rest ih =>
    rw [List.forall_mem_cons]
    refine Iff.trans ?_ (and_congr Iff.rfl ih)
    -- The issue makes an element of its own, unless the first file is its own.
    have first : ∀ files, (∀ file ∈ (⟨issue.path, [.ofIssue issue]⟩ : FileElement) :: files,
        Allowed file.text) ↔ (Allowed issue.path ∧ Allowed issue.message ∧
          Allowed issue.linterLabel) ∧ ∀ file ∈ files, Allowed file.text := by
      intro files
      rw [List.forall_mem_cons, allowed_fileElement, List.forall_mem_singleton, ofIssue]
    rw [elements]
    cases made : elements rest with
    | nil => exact first []
    | cons file files =>
      by_cases same : file.name = issue.path
      · simp only [if_pos same]
        rw [List.forall_mem_cons, List.forall_mem_cons, allowed_fileElement, allowed_fileElement,
          List.forall_mem_cons, ofIssue, ← same]
        tauto
      · simp only [if_neg same]
        exact first (file :: files)

/-- **A report by file is nested and escaped, and it is well-formed exactly when its issues hold no
character that a document must not hold.** -/
theorem render_wellFormed (issues : List Issue) :
    IsDocument (render issues) ∧
    (WellFormed (render issues) ↔ ∀ issue ∈ issues,
      Allowed issue.path ∧ Allowed issue.message ∧ Allowed issue.linterLabel) := by
  have document := isDocument_document (elements issues)
  refine ⟨document, ?_⟩
  rw [← allowed_elements, ← allowed_document]
  exact ⟨WellFormed.allowed, fun allowed => ⟨document, allowed⟩⟩

namespace Sample

open Pipeline.Sample

/-- Settings for a run that is reported by file. -/
def settingsByFile : PolicyBuilder :=
  { settings false [] with output := .checkstyle }

def policyByFile : Policy :=
  { policy false [] with output := .checkstyle }

/-- The output of a linter that begins its message with the code of a color. -/
def colored : JobOutcome :=
  .ok { stdout := "f:1:\x1b[31mred", status := some 0 }

/-- The issue of the output, whose message is the escape character. -/
def escaped : Issue :=
  { linter := "dead", path := "f", line := 1, message := "\x1b" }

open scoped Regex.SizeRule in
theorem build_settingsByFile : settingsByFile.build {} = .ok policyByFile := by
  rw [PolicyBuilder.build, settingsByFile, settings, checkFormat_empty]
  rfl

theorem exists_colored : ∃ s, Schedule.Completes 3 [dead] (fun _ => colored) s ∧
    s.results = [⟨dead, colored⟩] :=
  Schedule.exists_completes_of_perm (by decide) (.refl _)

end Sample

open Sample Pipeline Pipeline.Sample Schedule Regex.SizeRule in
/-- The escape character with which a color begins is reported, and the report is not
well-formed. -/
theorem escape_reported :
    linters = .ok registry ∧ settingsByFile.build {} = .ok policyByFile ∧
    ∃ s, Completes 3 [dead] (fun _ => colored) s ∧
      (report registry policyByFile noText [] s).issues = [escaped] ∧
      ¬ WellFormed (policyByFile.write (report registry policyByFile noText [] s).issues) := by
  obtain ⟨s, ended, results⟩ := exists_colored
  have issues : (report registry policyByFile noText [] s).issues = [escaped] := by
    rw [report_eq, results]
    show sortIssues [.path] (shown registry policyByFile _) = [escaped]
    decide +kernel
  have written : '\x1b' ∈ (policyByFile.write [escaped]).toList := by decide +kernel
  refine ⟨linters_eq, build_settingsByFile, s, ended, issues, fun wellFormed => ?_⟩
  rw [issues] at wellFormed
  exact absurd (wellFormed.allowed _ written) (by decide)

end LintRun.Checkstyle
