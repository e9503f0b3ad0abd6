import LintRun.Output.Reader

/-!
# Lines of output

The output of a linter is read line by line (`read_eq`). A line gives an issue exactly when the
linter's pattern **matches** it and finds a path in it (`isSome_readLine_iff`). The issue is raw, it
is of the linter that printed the line, and its path is not empty.
-/

set_option autoImplicit false

namespace LintRun

/-- No path is empty as seen from a directory. -/
theorem Path.relativize_ne_empty {path : String} (directory : String) (nonempty : path ≠ "") :
    relativize directory path ≠ "" := by
  rw [relativize]
  split
  · cases stripDirectory? directory path with
    | none => exact nonempty
    | some rest =>
      show (if rest = "" then path else rest) ≠ ""
      split
      · exact nonempty
      · assumption
  · exact nonempty

namespace OutputReader

/-- The lines of a text as they are read. -/
def linesOf (text : String) : List String :=
  (Text.linesOf text.toList).map fun line => .ofList (Text.dropReturns line)

/-- The lines of an output that are read: those of the standard output, then those of the error
output if the definition asks for it. -/
def linesRead (d : LinterDefinition) (output : RawOutput) : List String :=
  linesOf output.stdout ++ if d.stderr then linesOf output.stderr else []

/-- Whether the pattern of a linter matches a line and finds a path that is not empty. -/
def Matches (d : LinterDefinition) (line : String) : Prop :=
  ∃ captures path, d.pattern.captures? line = some captures ∧ captures "path" = some path ∧
    path ≠ ""

variable {d : LinterDefinition} {p : Policy} {line : String} {issue : Issue}

/-- The issue of a line is made of what the pattern captures. -/
theorem readLine_cases (read : readLine d p line = some issue) :
    ∃ captures path, d.pattern.captures? line = some captures ∧ captures "path" = some path ∧
      path ≠ "" ∧
      issue = {
        linter := d.name
        path := reportedPath p path
        line := number (captures "line")
        col := number (captures "col")
        severity := severity d p captures
        message := message d p captures } := by
  simp only [readLine, Option.bind_eq_bind, Option.bind_eq_some_iff] at read
  obtain ⟨captures, matched, made⟩ := read
  cases found : captures "path" with
  | none =>
    rw [found] at made
    cases made
  | some path =>
    rw [found, Option.getD_some] at made
    split at made
    · cases made
    · rename_i nonempty
      exact ⟨captures, path, matched, found, nonempty, (Option.some.inj made).symm⟩

/-- A line gives an issue exactly when it matches. -/
theorem isSome_readLine_iff : (readLine d p line).isSome = true ↔ Matches d line := by
  constructor
  · intro some
    obtain ⟨issue, read⟩ := Option.isSome_iff_exists.mp some
    obtain ⟨captures, path, matched, found, nonempty, -⟩ := readLine_cases read
    exact ⟨captures, path, matched, found, nonempty⟩
  · rintro ⟨captures, path, matched, found, nonempty⟩
    simp only [readLine, matched, Option.bind_eq_bind, Option.bind_some, found, Option.getD_some,
      if_neg nonempty]
    rfl

/-- The issue of a line is raw, and it is of the linter that printed the line. -/
theorem of_readLine (read : readLine d p line = some issue) :
    issue.contributors = ∅ ∧ issue.linter = d.name := by
  obtain ⟨captures, path, -, -, -, rfl⟩ := readLine_cases read
  exact ⟨rfl, rfl⟩

theorem path_ne_empty_of_readLine (read : readLine d p line = some issue) : issue.path ≠ "" := by
  obtain ⟨captures, path, -, -, nonempty, rfl⟩ := readLine_cases read
  show reportedPath p path ≠ ""
  exact Path.relativize_ne_empty _ nonempty

theorem readText_eq (d : LinterDefinition) (p : Policy) (text : String) :
    readText d p text = (linesOf text).filterMap (readLine d p) := by
  rw [readText, linesOf, List.filterMap_map]
  rfl

/-- **The output of a linter is read line by line.** -/
theorem read_eq (d : LinterDefinition) (p : Policy) (output : RawOutput) :
    read d p output = (linesRead d output).filterMap (readLine d p) := by
  rw [read, linesRead, List.filterMap_append, readText_eq, readText_eq]
  split <;> rfl

theorem exists_readLine_of_mem_read {output : RawOutput} (member : issue ∈ read d p output) :
    ∃ line ∈ linesRead d output, readLine d p line = some issue := by
  rw [read_eq] at member
  exact List.mem_filterMap.mp member

theorem of_mem_read {output : RawOutput} (member : issue ∈ read d p output) :
    issue.contributors = ∅ ∧ issue.linter = d.name := by
  obtain ⟨line, -, read⟩ := exists_readLine_of_mem_read member
  exact of_readLine read

end OutputReader

end LintRun
