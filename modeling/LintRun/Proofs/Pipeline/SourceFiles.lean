import LintRun.Proofs.Path.Spelling
import LintRun.Proofs.Pipeline.CompletionOrder
import LintRun.Proofs.Results

/-!
# Spellings of source files

Directives are looked up by the components of a path, but issues are merged by the path as it is
spelled. So two issues on a line of one source file, of two linters whose issues on one line are to
be merged, are merged exactly when their paths are spelled alike (`apply_pair`). Plain paths are
(`Path.eq_of_sourceKey`), and an issue has a plain path when the linter has printed one
(`OutputReader.isPlain_path`); but of `f` and `./f` only the directives see that they are one file
(`spelled_apart`).
-/

set_option autoImplicit false

namespace LintRun

/-- An issue has a plain path if the linter has printed one. -/
theorem OutputReader.isPlain_path {d : LinterDefinition} {p : Policy} {line path : String}
    {captures : String → Option String} {issue : Issue} (read : readLine d p line = some issue)
    (matched : d.pattern.captures? line = some captures) (found : captures "path" = some path)
    (plain : Path.isPlain path = true) : Path.isPlain issue.path = true := by
  obtain ⟨captures', path', matched', found', -, rfl⟩ := readLine_cases read
  obtain rfl : captures = captures' := Option.some.inj (matched.symm.trans matched')
  obtain rfl : path = path' := Option.some.inj (found.symm.trans found')
  exact Path.isPlain_relativize _ plain

namespace Aggregation

variable {rules : List MergeRule} {number : Nat} {rule : MergeRule} {a b : Issue}

/-- Whether a rule, given with its number, is the only one about a linter. -/
structure OnlyRule (rules : List MergeRule) (number : Nat) (rule : MergeRule) (linter : String) :
    Prop where
  at_number : rules[number]? = some rule
  about : linter ∈ rule.linters
  only : ∀ (other : Nat) (rule' : MergeRule), rules[other]? = some rule' →
    linter ∈ rule'.linters → other = number

/-- What issues of a linter have in common with others is said by the only rule about it. -/
theorem OnlyRule.keyOf_eq (only : OnlyRule rules number rule a.linter)
    (byLine : rule.key = .pathLine) : keyOf rules a = .rule number a.path a.line none := by
  obtain ⟨inside, here⟩ := List.getElem?_eq_some_iff.mp only.at_number
  have found : rules.findIdx? (·.linters.contains a.linter) = some number := by
    refine List.findIdx?_eq_some_iff_getElem.mpr ⟨inside, ?_, fun earlier less about => ?_⟩
    · rw [here]
      exact (NameSet.contains_iff _ _).mpr only.about
    · have same := only.only earlier _ (List.getElem?_eq_getElem (Nat.lt_trans less inside))
        ((NameSet.contains_iff _ _).mp about)
      exact absurd same (Nat.ne_of_lt less)
  rw [keyOf, found]
  simp only [only.at_number, Option.map_some, Option.getD_some, byLine]

/-- **When two issues on a line of one source file are merged.** Of two linters with one rule that
merges by the line, they are exactly if their paths are spelled alike, and plain paths are. -/
theorem apply_pair {d d' : LinterDefinition} {p : Policy} {output output' : RawOutput}
    (ofA : a ∈ OutputReader.read d p output) (ofB : b ∈ OutputReader.read d' p output')
    (sameFile : Path.sourceKey a.path = Path.sourceKey b.path) (sameLine : a.line = b.line)
    (differ : a.linter ≠ b.linter) (onlyA : OnlyRule rules number rule a.linter)
    (onlyB : OnlyRule rules number rule b.linter) (byLine : rule.key = .pathLine) :
    (a.path = b.path → ∃ merged, apply rules true [a, b] = [merged] ∧ merged.path = a.path ∧
      merged.line = a.line ∧
      ∀ name, name ∈ merged.contributors ↔ name = a.linter ∨ name = b.linter) ∧
    (a.path ≠ b.path → apply rules true [a, b] = [a, b]) ∧
    (Path.isPlain a.path = true → Path.isPlain b.path = true → a.path = b.path) := by
  have lintersA := Issue.linters_of_raw (OutputReader.of_mem_read ofA).1
  have lintersB := Issue.linters_of_raw (OutputReader.of_mem_read ofB).1
  have apart : a.sharesLinter b = false := by
    rw [Bool.eq_false_iff, Ne, Issue.sharesLinter_iff, lintersA, lintersB]
    rintro ⟨name, ofFirst, ofSecond⟩
    exact differ ((List.mem_singleton.mp ofFirst).symm.trans (List.mem_singleton.mp ofSecond))
  have sameKey_iff : keyOf rules a = keyOf rules b ↔ a.path = b.path := by
    rw [onlyA.keyOf_eq byLine, onlyB.keyOf_eq byLine, sameLine]
    simp
  show (_ → ∃ merged, merge rules [a, b] = [merged] ∧ _) ∧ (_ → merge rules [a, b] = _) ∧ _
  rw [merge_pair]
  refine ⟨fun samePath => ?_, fun otherPath => ?_, fun plain plain' =>
    Path.eq_of_sourceKey plain plain' sameFile⟩
  · let pair : IssueGroup := { key := keyOf rules a, first := a, rest := [b] }
    have speaks : pair.representative = a ∨ pair.representative = b := by
      simpa [pair, IssueGroup.members] using pair.representative_mem
    have linters : ∀ name, name ∈ pair.contributors ↔ name = a.linter ∨ name = b.linter := by
      intro name
      rw [IssueGroup.mem_contributors, IssueGroup.mem_linters]
      simp [pair, IssueGroup.members, lintersA, lintersB]
    rw [if_pos ⟨sameKey_iff.mpr samePath, apart⟩,
      IssueGroup.collapse_of_several (List.cons_ne_nil b [])]
    refine ⟨_, rfl, ?_, ?_, linters⟩
    · show pair.representative.path = a.path
      rcases speaks with ofFirst | ofSecond
      · rw [ofFirst]
      · rw [ofSecond, samePath]
    · show pair.representative.line = a.line
      rcases speaks with ofFirst | ofSecond
      · rw [ofFirst]
      · rw [ofSecond, sameLine]
  · exact if_neg fun both => otherPath (sameKey_iff.mp both.1)

end Aggregation

/-! ## Two linters that spell a path

Each of them prints where it has found something, in its own spelling. -/

namespace Spelled

open Aggregation
open Pipeline.Sample (policy settings build_settings)

/-- A linter whose pattern finds one spelling of a path. -/
def finding (path : String) : LinterSpec :=
  { command := "echo", pattern := "(?P<path>" ++ path ++ "):(?P<line>1):(?P<message>.)" }

def byLine : MergeRule :=
  ⟨.ofList ["dead", "spell"], .pathLine⟩

def dead (path : String) : Issue :=
  { linter := "dead", path, line := 1, message := "x" }

def spell : Issue :=
  { linter := "spell", path := "f", line := 1, message := "z" }

theorem onlyRule {linter : String} (about : linter ∈ byLine.linters) :
    OnlyRule [byLine] 0 byLine linter where
  at_number := rfl
  about := about
  only other rule' found _ := by
    obtain ⟨inside, -⟩ := List.getElem?_eq_some_iff.mp found
    exact Nat.lt_one_iff.mp inside

open scoped Regex.SizeRule

theorem exists_dead : ∃ d, LinterDefinition.ofSpec "dead" (finding "f") = .ok d ∧
    OutputReader.read d (policy true []) { stdout := "f:1:x" } = [dead "f"] :=
  exists_ok_of_map (by decide +kernel)

theorem exists_dotted : ∃ d, LinterDefinition.ofSpec "dead" (finding "[.]/f") = .ok d ∧
    OutputReader.read d (policy true []) { stdout := "./f:1:x" } = [dead "./f"] :=
  exists_ok_of_map (by decide +kernel)

theorem exists_spell : ∃ d, LinterDefinition.ofSpec "spell" (finding "f") = .ok d ∧
    OutputReader.read d (policy true []) { stdout := "f:1:z" } = [spell] :=
  exists_ok_of_map (by decide +kernel)

end Spelled

namespace Aggregation

open Spelled
open Pipeline.Sample (policy settings build_settings)
open scoped Regex.SizeRule

/-- The linters spell the path alike, and their issues are merged. -/
theorem apply_pair_spelled_alike : ∃ d d',
    dead "f" ∈ OutputReader.read d (policy true []) { stdout := "f:1:x" } ∧
    spell ∈ OutputReader.read d' (policy true []) { stdout := "f:1:z" } ∧
    ∃ merged, apply [byLine] true [dead "f", spell] = [merged] ∧
      ∀ name, name ∈ merged.contributors ↔ name = "dead" ∨ name = "spell" := by
  obtain ⟨d, -, printed⟩ := exists_dead
  obtain ⟨d', -, printed'⟩ := exists_spell
  have ofDead : dead "f" ∈ OutputReader.read d (policy true []) { stdout := "f:1:x" } :=
    printed ▸ List.mem_singleton_self _
  have ofSpell : spell ∈ OutputReader.read d' (policy true []) { stdout := "f:1:z" } :=
    printed' ▸ List.mem_singleton_self _
  obtain ⟨merges, -, alike⟩ := apply_pair ofDead ofSpell rfl rfl (by decide)
    (onlyRule (by decide)) (onlyRule (by decide)) rfl
  obtain ⟨merged, result, -, -, linters⟩ := merges (alike (by decide) (by decide))
  exact ⟨d, d', ofDead, ofSpell, merged, result, linters⟩

/-- Of two spellings of one source file only the directives see that they are one file. -/
theorem spelled_apart : ∃ d d',
    LinterDefinition.ofSpec "dead" (finding "[.]/f") = .ok d ∧
    LinterDefinition.ofSpec "spell" (finding "f") = .ok d' ∧
    (settings true []).build {} = .ok (policy true []) ∧
    dead "./f" ∈ OutputReader.read d (policy true []) { stdout := "./f:1:x" } ∧
    spell ∈ OutputReader.read d' (policy true []) { stdout := "f:1:z" } ∧
    Path.sourceKey (dead "./f").path = Path.sourceKey spell.path ∧
    (dead "./f").line = spell.line ∧ (dead "./f").linter ≠ spell.linter ∧
    OnlyRule [byLine] 0 byLine (dead "./f").linter ∧ OnlyRule [byLine] 0 byLine spell.linter ∧
    byLine.key = .pathLine ∧
    ¬ ∃ merged, apply [byLine] true [dead "./f", spell] = [merged] := by
  obtain ⟨d, checked, printed⟩ := exists_dotted
  obtain ⟨d', checked', printed'⟩ := exists_spell
  refine ⟨d, d', checked, checked', build_settings rfl true, printed ▸ List.mem_singleton_self _,
    printed' ▸ List.mem_singleton_self _, by decide, rfl, by decide,
    onlyRule (by decide), onlyRule (by decide), rfl, ?_⟩
  rintro ⟨merged, result⟩
  have two : (apply [byLine] true [dead "./f", spell]).length = 2 := by decide
  rw [result] at two
  cases two

end Aggregation

end LintRun
