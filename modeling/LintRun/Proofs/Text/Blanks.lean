import LintRun.Proofs.Text.Decimal
import LintRun.Regex.CharSet
import LintRun.Text.Blank

/-!
# White space at the ends of a text

A text that is trimmed has no white space at either end. Numbers are written without white space, so
one that fits into a word is read back from its digits with or without trimming.
-/

set_option autoImplicit false

namespace LintRun.Text

variable {cs : List Char}

/-- White space in patterns is white space. -/
theorem has_space (c : Char) : Regex.CharSet.space.has c.toNat = isBlank c := by
  have same : Regex.CharSet.space = Unicode.blank := by decide
  rw [same, isBlank]

theorem length_trimEndChars_le (cs : List Char) : (trimEndChars cs).length ≤ cs.length := by
  have shorter := length_dropWhile_le isBlank cs.reverse
  rwa [trimEndChars, List.length_reverse, ← cs.length_reverse]

/-- A text that trimming does not change has no white space at its start, nor anything to be trimmed
at its end. -/
theorem of_trimChars_eq_self (trimmed : trimChars cs = cs) :
    trimEndChars cs = cs ∧ ∀ c ∈ cs.head?, isBlank c = false := by
  have started : cs.dropWhile isBlank = cs := by
    refine (List.dropWhile_suffix isBlank).eq_of_length_le ?_
    have shorter := length_trimEndChars_le (trimStartChars cs)
    rwa [← trimChars, trimmed] at shorter
  refine ⟨by rwa [trimChars, trimStartChars, started] at trimmed, fun c first => ?_⟩
  obtain ⟨rest, rfl⟩ := List.head?_eq_some_iff.mp first
  cases blank : isBlank c with
  | false => rfl
  | true =>
    rw [List.dropWhile_cons_of_pos blank] at started
    have shorter := length_dropWhile_le isBlank rest
    rw [started, List.length_cons] at shorter
    exact absurd shorter (Nat.not_succ_le_self _)

/-- White space before a text is trimmed. -/
theorem trimChars_blank_append (blank : ∀ c ∈ cs, isBlank c = true) (after : List Char) :
    trimChars (cs ++ after) = trimChars after := by
  rw [trimChars, trimStartChars, List.dropWhile_append_of_pos blank]
  rfl

/-- White space behind a text without white space is trimmed. -/
theorem trimChars_append_of_forall {after : List Char} (plain : ∀ c ∈ cs, isBlank c = false)
    (blank : ∀ c ∈ after, isBlank c = true) : trimChars (cs ++ after) = cs := by
  have unchanged : ∀ ds : List Char, (∀ c ∈ ds.head?, isBlank c = false) →
      ds.dropWhile isBlank = ds := by
    intro ds plain
    cases ds with
    | nil => rfl
    | cons d ds => rw [List.dropWhile_cons_of_neg (Bool.eq_false_iff.mp (plain d rfl))]
  have ended : trimEndChars (cs ++ after) = cs := by
    have reversed : ∀ c ∈ cs.reverse.head?, isBlank c = false := fun c first =>
      plain c (List.mem_reverse.mp (List.mem_of_head? first))
    rw [trimEndChars, List.reverse_append,
      List.dropWhile_append_of_pos fun c member => blank c (List.mem_reverse.mp member),
      unchanged _ reversed, List.reverse_reverse]
  cases cs with
  | nil =>
    have trimmed := trimChars_blank_append blank []
    rwa [List.append_nil] at trimmed
  | cons c cs =>
    have first : ∀ d ∈ (c :: cs ++ after).head?, isBlank d = false := by
      rintro d ⟨⟩
      exact plain c List.mem_cons_self
    rw [trimChars, trimStartChars, unchanged _ first, ended]

theorem trimChars_of_forall (plain : ∀ c ∈ cs, isBlank c = false) : trimChars cs = cs := by
  have trimmed : trimChars (cs ++ []) = cs := trimChars_append_of_forall plain nofun
  rwa [List.append_nil] at trimmed

/-! ## Written numbers -/

theorem toNat_of_isDigit {c : Char} (digit : isDigit c = true) : 48 ≤ c.toNat ∧ c.toNat ≤ 57 := by
  simp only [isDigit, Bool.and_eq_true, decide_eq_true_eq, Char.le_def,
    UInt32.le_iff_toNat_le] at digit
  exact digit

theorem isBlank_of_isDigit {c : Char} (digit : isDigit c = true) : isBlank c = false := by
  obtain ⟨least, greatest⟩ := toNat_of_isDigit digit
  have plain : ∀ n < 10, Unicode.blank.has (48 + n) = false := by decide
  have here := plain (c.toNat - 48) (by omega)
  rwa [Nat.add_sub_cancel' least] at here

theorem has_digit {c : Char} (digit : isDigit c = true) :
    Regex.CharSet.digit.has c.toNat = true := by
  obtain ⟨least, greatest⟩ := toNat_of_isDigit digit
  have among : ∀ n < 10, Regex.CharSet.digit.has (48 + n) = true := by decide
  have here := among (c.toNat - 48) (by omega)
  rwa [Nat.add_sub_cancel' least] at here

theorem toString_ne_nil (n : Nat) : (toString n).toList ≠ [] := by
  rw [Nat.toString_eq_ofList_toDigits, String.toList_ofList]
  exact Nat.toDigits_ne_nil

/-- A word is read back from its digits also after they are trimmed. -/
theorem readWord32?_trimChars_toString (n : UInt32) :
    readWord32? (trimChars (toString n).toList) = some n := by
  have unblank : ∀ c ∈ (toString n).toList, isBlank c = false := fun c member =>
    isBlank_of_isDigit (isDigit_of_mem_toString member)
  rw [trimChars_of_forall unblank, readWord32?_toString]

end LintRun.Text
