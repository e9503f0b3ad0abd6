import LintRun.Proofs.Output.Lines
import LintRun.Proofs.Results
import LintRun.Proofs.Text.Lines

/-!
# Output is read locally

No issue is read from an empty line, whatever the pattern, and carriage returns at the end of a line
are passed over. So the issues of a text are those of its pieces between line feeds
(`readText_eq_pieces`): those of two texts with a line feed between them are those of the first and
then those of the second, and it makes no difference how the lines are ended. What a linter prints
to its error output matters only if its definition asks for it (`read_local`).
-/

set_option autoImplicit false

namespace LintRun

/-- Nothing but empty text is captured in an empty line. -/
theorem OutputPattern.eq_empty_of_captures? {pattern : OutputPattern}
    {captures : String → Option String} {name text : String}
    (matched : pattern.captures? "" = some captures) (captured : captures name = some text) :
    text = "" := by
  obtain ⟨found, -, rfl⟩ := Option.map_eq_some_iff.mp matched
  obtain ⟨span, -, rfl⟩ := Option.map_eq_some_iff.mp captured
  rw [Regex.Span.slice, String.toList_empty, List.drop_nil, List.take_nil, String.ofList_nil]

namespace OutputReader

variable (d : LinterDefinition) (p : Policy)

/-- An empty line gives no issue: the path in it would be empty. -/
theorem readLine_empty : readLine d p "" = none := by
  cases read : readLine d p "" with
  | none => rfl
  | some issue =>
    obtain ⟨captures, path, matched, found, nonempty, -⟩ := readLine_cases read
    exact absurd (OutputPattern.eq_empty_of_captures? matched found) nonempty

/-- The issue of a piece between line feeds. -/
def readPiece (piece : List Char) : Option Issue :=
  readLine d p (.ofList (Text.dropReturns piece))

/-- **The issues of a text are those of its pieces between line feeds.** -/
theorem readText_eq_pieces (text : String) :
    readText d p text = (text.toList.splitOn '\n').filterMap (readPiece d p) := by
  refine Text.filterMap_linesOf (f := readPiece d p) (readLine_empty d p) (fun line => ?_) _
  rw [readPiece, readPiece, Text.dropReturns_dropReturn]

theorem readText_append (a b : String) :
    readText d p (a ++ "\n" ++ b) = readText d p a ++ readText d p b := by
  have around : (a ++ "\n" ++ b).toList = a.toList ++ '\n' :: b.toList := by
    rw [String.toList_append, String.toList_append, List.append_assoc]
    rfl
  rw [readText_eq_pieces, around, List.splitOn_append_cons_self, List.filterMap_append,
    ← readText_eq_pieces, ← readText_eq_pieces]

/-- A text with a carriage return before every line feed. -/
def withReturns (text : String) : String :=
  .ofList (Text.withReturns text.toList)

theorem readText_withReturns (text : String) :
    readText d p (withReturns text) = readText d p text := by
  rw [readText_eq_pieces, readText_eq_pieces, withReturns, String.toList_ofList]
  refine Text.filterMap_withReturns (fun line => ?_) _
  rw [readPiece, readPiece, Text.dropReturns_append_return]

theorem readText_of_not_mem {text : String} (unended : '\n' ∉ text.toList) :
    readText d p text = (readPiece d p text.toList).toList := by
  rw [readText_eq_pieces, List.splitOn_eq_singleton unended, List.filterMap_cons,
    List.filterMap_nil]
  cases readPiece d p text.toList <;> rfl

/-- **Output is read locally.** The issues of two texts with a line feed between them are those of
the first and then those of the second, down to single lines; a carriage return before every line
feed changes none; and the error output matters only if the definition asks for it. The status with
which a linter has ended never matters. -/
theorem read_local (a b e : String) (status former latter : Option Int) :
    read d p { stdout := a ++ "\n" ++ b, stderr := e, status } =
        read d p { stdout := a, stderr := "", status := former } ++
          read d p { stdout := b, stderr := e, status := latter } ∧
      ('\n' ∉ a.toList → read d p { stdout := a, stderr := "", status } =
        (readLine d p (.ofList (Text.dropReturns a.toList))).toList) ∧
      read d p { stdout := withReturns a, stderr := withReturns e, status } =
        read d p { stdout := a, stderr := e, status } ∧
      (d.stderr = false → ∀ e', read d p { stdout := a, stderr := e, status } =
        read d p { stdout := a, stderr := e', status := former }) := by
  have nothing : readText d p "" = [] := by
    rw [readText, String.toList_empty, Text.linesOf, List.filterMap_nil]
  refine ⟨?_, fun unended => ?_, ?_, fun unasked e' => ?_⟩
  · simp only [read, readText_append, nothing, ite_self, List.append_nil, List.append_assoc]
  · simp only [read, readText_of_not_mem d p unended, nothing, ite_self, List.append_nil, readPiece]
  · simp only [read, readText_withReturns]
  · simp only [read, unasked, Bool.false_eq_true, if_false]

/-- A linter whose error output is not read. -/
def quiet : LinterSpec :=
  { command := "dead", pattern := "(?P<path>f):(?P<line>.)", stderr := some false }

/-- Settings for a run in a directory. -/
def rooted : PolicyBuilder :=
  { root := some "/work" }

/-- What such a linter says about a line. -/
def said (line : UInt32) : Issue :=
  { linter := "dead", path := "f", line }

open scoped Regex.SizeRule

theorem exists_quiet : ∃ d p, LinterDefinition.ofSpec "dead" quiet = .ok d ∧
    rooted.build {} = .ok p ∧ d.stderr = false ∧
    readLine d p "f:1" = some (said 1) ∧ readLine d p "f:3" = some (said 3) := by
  have all : (do
      let d ← LinterDefinition.ofSpec "dead" quiet
      let p ← rooted.build {}
      return (d.stderr, readLine d p "f:1", readLine d p "f:3")) =
      Except.ok (false, some (said 1), some (said 3)) := by decide +kernel
  obtain ⟨d, checked, all⟩ := exists_ok_of_bind all
  obtain ⟨p, built, all⟩ := exists_ok_of_bind all
  injection all with all
  simp only [Prod.mk.injEq] at all
  exact ⟨d, p, checked, built, all⟩

/-- What such a linter says about the second line is not heard. -/
theorem read_local_quiet : ∃ d p, LinterDefinition.ofSpec "dead" quiet = .ok d ∧
    rooted.build {} = .ok p ∧ d.stderr = false ∧
    read d p { stdout := "f:1\nf:3", stderr := "f:2", status := some 1 } = [said 1, said 3] := by
  obtain ⟨d, p, checked, built, unasked, one, three⟩ := exists_quiet
  obtain ⟨lines, first, -, -⟩ := read_local d p "f:1" "f:3" "f:2" none none none
  obtain ⟨-, second, -, unheard⟩ := read_local d p "f:3" "" "f:2" none none none
  have heard : read d p { stdout := "f:1\nf:3", stderr := "f:2", status := some 1 } =
      read d p { stdout := "f:1" } ++ read d p { stdout := "f:3" } := by
    rw [unheard unasked ""] at lines
    exact lines
  have alone : Text.dropReturns "f:1".toList = "f:1".toList ∧
      Text.dropReturns "f:3".toList = "f:3".toList := by decide
  refine ⟨d, p, checked, built, unasked, ?_⟩
  rw [heard, first (by decide), second (by decide), alone.1, alone.2, String.ofList_toList,
    String.ofList_toList, one, three]
  rfl

end OutputReader

end LintRun
