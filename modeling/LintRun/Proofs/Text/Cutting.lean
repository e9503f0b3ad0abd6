import LintRun.Linter.Spec
import Mathlib.Data.List.TakeWhile

/-!
# Cutting a text at a character

Texts are read by cutting them at the first occurrence of a character: a template at its braces, a
pair at its separator, an attribute at its quotation mark. A text is cut at a character exactly if
it is put together from what stands before the character, which does not contain it, and what
stands after it (`cut_iff`).
-/

set_option autoImplicit false

namespace LintRun.Text

variable {mark c : Char} {cs before after : List Char}

theorem takeWhile_cut (absent : mark ∉ before) (after : List Char) :
    (before ++ mark :: after).takeWhile (· != mark) = before := by
  have inside : ∀ c ∈ before, (c != mark) = true := fun c member =>
    bne_iff_ne.mpr fun same => absent (same ▸ member)
  rw [List.takeWhile_append_of_pos inside]
  simp

theorem dropWhile_cut (absent : mark ∉ before) (after : List Char) :
    (before ++ mark :: after).dropWhile (· != mark) = mark :: after := by
  have inside : ∀ c ∈ before, (c != mark) = true := fun c member =>
    bne_iff_ne.mpr fun same => absent (same ▸ member)
  rw [List.dropWhile_append_of_pos inside]
  simp

theorem not_mem_takeWhile_cut (mark : Char) (cs : List Char) :
    mark ∉ cs.takeWhile (· != mark) := fun member =>
  bne_iff_ne.mp (List.mem_takeWhile_imp (p := (· != mark)) member) rfl

/-- A text without the character is not cut at all. -/
theorem dropWhile_eq_nil_iff_not_mem : cs.dropWhile (· != mark) = [] ↔ mark ∉ cs := by
  rw [List.dropWhile_eq_nil_iff]
  refine ⟨fun all member => ?_, fun absent c member => ?_⟩
  · exact bne_iff_ne.mp (all mark member) rfl
  · exact bne_iff_ne.mpr fun same => absent (same ▸ member)

theorem takeWhile_of_not_mem (absent : mark ∉ cs) : cs.takeWhile (· != mark) = cs := by
  have split := List.takeWhile_append_dropWhile (p := (· != mark)) (l := cs)
  rwa [dropWhile_eq_nil_iff_not_mem.mpr absent, List.append_nil] at split

/-- What a text is cut at is the character, and putting the two sides together around it gives the
text back. -/
theorem cut_iff : cs.dropWhile (· != mark) = c :: after ↔
    c = mark ∧ cs = cs.takeWhile (· != mark) ++ mark :: after := by
  constructor
  · intro cut
    have stops : (c != mark) = false := by
      have first := List.head_dropWhile_not (· != mark) (l := cs) (by rw [cut]; nofun)
      simpa only [cut, List.head_cons] using first
    obtain rfl : c = mark := by simpa using stops
    have split := List.takeWhile_append_dropWhile (p := (· != c)) (l := cs)
    rw [cut] at split
    exact ⟨rfl, split.symm⟩
  · rintro ⟨rfl, split⟩
    rw [split]
    exact dropWhile_cut (not_mem_takeWhile_cut c cs) after

/-- A character that does not occur in the first part of a text stands in the rest of it. -/
theorem exists_cut_of_append {first rest : List Char} (absent : mark ∉ first)
    (same : first ++ rest = before ++ mark :: after) :
    ∃ between, before = first ++ between ∧ rest = between ++ mark :: after := by
  rcases List.append_eq_append_iff.mp same with
    ⟨between, split, ofRest⟩ | ⟨between, ofFirst, split⟩
  · exact ⟨between, split, ofRest⟩
  · cases between with
    | nil => exact ⟨[], by simpa using ofFirst.symm, split.symm⟩
    | cons c others =>
      obtain ⟨rfl, -⟩ := List.cons.inj split
      rw [ofFirst] at absent
      exact absurd (List.mem_append_right before List.mem_cons_self) absent

/-- A pair is a first part without the separator, the separator and a second part. -/
theorem splitOnce_eq_some_iff {separator : Char} {first rest : List Char} :
    LinterSpec.splitOnce separator cs = some (first, rest) ↔
      cs = first ++ separator :: rest ∧ separator ∉ first := by
  rw [LinterSpec.splitOnce]
  constructor
  · intro split
    cases cut : cs.dropWhile (· != separator) with
    | nil => rw [cut] at split; cases split
    | cons c after =>
      rw [cut] at split
      obtain ⟨rfl, rfl⟩ := Prod.mk.inj (Option.some.inj split)
      exact ⟨(cut_iff.mp cut).2, not_mem_takeWhile_cut separator cs⟩
  · rintro ⟨rfl, absent⟩
    rw [dropWhile_cut absent, takeWhile_cut absent]

end LintRun.Text
