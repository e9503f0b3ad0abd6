import LintRun.Text.Decimal

/-!
# Written numbers

A number that is written in decimal digits is read back, and it has a word of its own if it fits
into one.
-/

set_option autoImplicit false

namespace LintRun.Text

theorem isDigit_of_mem_toDigits {n : Nat} {c : Char} (member : c ∈ Nat.toDigits 10 n) :
    isDigit c = true := by
  have digit := Nat.isDigit_of_mem_toDigits (by decide) (Nat.le_refl 10) member
  simpa only [Char.isDigit, isDigit, ge_iff_le, Char.le_def] using digit

theorem isDigit_of_mem_toString {n : Nat} {c : Char} (member : c ∈ (toString n).toList) :
    isDigit c = true := by
  rw [Nat.toString_eq_ofList_toDigits, String.toList_ofList] at member
  exact isDigit_of_mem_toDigits member

/-- **A number is read back from its digits.** -/
theorem readDigits?_toString (n : Nat) : readDigits? (toString n).toList = some n := by
  rw [Nat.toString_eq_ofList_toDigits, String.toList_ofList, readDigits?,
    if_pos ⟨Nat.toDigits_ne_nil, List.all_eq_true.mpr fun _ => isDigit_of_mem_toDigits⟩]
  exact congrArg some Nat.ofDigitChars_ten_toDigits

theorem word32?_eq_some_iff {n : Nat} {word : UInt32} : word32? n = some word ↔ word.toNat = n := by
  rw [word32?]
  split
  · rename_i fits
    rw [Option.some.injEq]
    constructor
    · rintro rfl
      exact UInt32.toNat_ofNat_of_lt fits
    · rintro rfl
      exact UInt32.ofNat_toNat
  · rename_i large
    exact iff_of_false nofun fun same => large (same ▸ word.toNat_lt)

/-- **A word is read back from its digits.** -/
theorem readWord32?_toString (n : UInt32) : readWord32? (toString n).toList = some n := by
  have digits : readDigits? (toString n).toList = some n.toNat := readDigits?_toString n.toNat
  rw [readWord32?, readUnsigned?.eq_def]
  split
  · rename_i rest signed
    have digit := isDigit_of_mem_toString (n := n.toNat) (signed ▸ List.mem_cons_self)
    exact absurd digit (by decide)
  · rw [digits, Option.bind_some, word32?_eq_some_iff.mpr rfl]

theorem isSome_word32?_iff {n : Nat} : (word32? n).isSome = true ↔ n < UInt32.size := by
  rw [word32?]
  split
  · rename_i fits
    exact iff_of_true rfl fits
  · rename_i large
    exact iff_of_false nofun large

end LintRun.Text
