import Mathlib.Data.List.Forall2
import LintRun.Issue.Message
import LintRun.Proofs.Text.Lower
import LintRun.Proofs.Text.Words

/-!
# Messages up to case and white space

Messages are compared in a form in which single spaces keep their words apart and every character
is in lower case. Lower case neither makes nor removes white space, so lower case of the words with
single spaces between them is the words in lower case, with single spaces between them
(`exists_words_of_lowersTo`).

So a message that is in this form keeps it, and white space decides nothing but where one word ends
and the next one starts (`normalizeMessage_layout`).
-/

set_option autoImplicit false

namespace LintRun

open Text

/-- Words with single spaces between them become words with single spaces between them in lower
case, each for itself. -/
theorem exists_words_of_lowersTo (words : List (List Char)) {ds : List Char}
    (lowers : LowersTo ([' '].intercalate words) ds) :
    ∃ lowered, ds = [' '].intercalate lowered ∧ List.Forall₂ LowersTo words lowered := by
  induction words generalizing ds with
  | nil =>
    cases lowers
    exact ⟨[], rfl, .nil⟩
  | cons word rest ih =>
    cases rest with
    | nil =>
      rw [List.intercalate_singleton] at lowers
      exact ⟨[ds], List.intercalate_singleton.symm, .cons lowers .nil⟩
    | cons next others =>
      rw [List.intercalate_cons_cons, List.append_assoc] at lowers
      obtain ⟨first, remaining, rfl, ofWord, ofOthers⟩ := lowers.exists_of_append
      cases ofOthers with
      | cons space ofOthers =>
        obtain ⟨lowered, rfl, each⟩ := ih ofOthers
        cases each with
        | cons ofNext each =>
          refine ⟨_, ?_, .cons ofWord (.cons ofNext each)⟩
          rw [List.intercalate_cons_cons, space.blank rfl, List.append_assoc]

theorem isWord_of_lowersTo {words lowered : List (List Char)}
    (each : List.Forall₂ LowersTo words lowered) (valid : ∀ word ∈ words, IsWord word) :
    ∀ word ∈ lowered, IsWord word := by
  induction each with
  | nil => exact valid
  | cons first _ ih =>
    rw [List.forall_mem_cons] at valid ⊢
    obtain ⟨isWord, others⟩ := valid
    exact ⟨⟨first.ne_nil isWord.nonempty, first.plain isWord.plain⟩, ih others⟩

variable {s t : String}

theorem toList_normalizeMessage (s : String) :
    (normalizeMessage s).toList = lowerChars ([' '].intercalate (wordsOf s.toList)) :=
  String.toList_ofList

theorem settled_of_mem_normalizeMessage {c : Char} (member : c ∈ (normalizeMessage s).toList) :
    Settled c := by
  rw [toList_normalizeMessage] at member
  exact settled_of_mem_lowerChars member

/-- In its form a message is its words with single spaces between them. -/
theorem intercalate_wordsOf_normalizeMessage (s : String) :
    [' '].intercalate (wordsOf (normalizeMessage s).toList) = (normalizeMessage s).toList := by
  obtain ⟨lowered, written, each⟩ :=
    exists_words_of_lowersTo (wordsOf s.toList) (lowersTo_lowerChars _)
  have valid := isWord_of_lowersTo each fun _ member => isWord_of_mem_wordsOf member
  rw [toList_normalizeMessage, written, wordsOf_intercalate valid]

/-- A message is in its form when single spaces keep its words apart and its characters are
settled. -/
theorem normalizeMessage_eq_self_iff : normalizeMessage s = s ↔
    [' '].intercalate (wordsOf s.toList) = s.toList ∧ ∀ c ∈ s.toList, Settled c := by
  constructor
  · intro same
    refine ⟨same ▸ intercalate_wordsOf_normalizeMessage s, fun c member => ?_⟩
    rw [← same] at member
    exact settled_of_mem_normalizeMessage member
  · rintro ⟨joined, settled⟩
    rw [normalizeMessage, joined, lowerChars_of_settled settled, String.ofList_toList]

theorem normalizeMessage_normalizeMessage (s : String) :
    normalizeMessage (normalizeMessage s) = normalizeMessage s :=
  normalizeMessage_eq_self_iff.mpr
    ⟨intercalate_wordsOf_normalizeMessage s, fun _ => settled_of_mem_normalizeMessage⟩

/-- Messages with the same words have the same form. -/
theorem normalizeMessage_congr (words : wordsOf s.toList = wordsOf t.toList) :
    normalizeMessage s = normalizeMessage t := by
  rw [normalizeMessage, words, normalizeMessage]

/-- **The form of a message takes no notice of how its words are laid out.** It is its own form,
any white space between two parts of a message serves as well as any other, and white space around
it is of no importance. The messages that are in their form are those whose words have single spaces
between them and whose characters lower case leaves as they are. -/
theorem normalizeMessage_layout :
    (∀ s, normalizeMessage (normalizeMessage s) = normalizeMessage s) ∧
    (∀ a b v w : String, v ≠ "" → w ≠ "" → Blank v.toList → Blank w.toList →
      normalizeMessage (a ++ v ++ b) = normalizeMessage (a ++ w ++ b)) ∧
    (∀ s v : String, Blank v.toList →
      normalizeMessage (v ++ s) = normalizeMessage s ∧
      normalizeMessage (s ++ v) = normalizeMessage s) ∧
    ∀ s, normalizeMessage s = s ↔
      [' '].intercalate (wordsOf s.toList) = s.toList ∧ ∀ c ∈ s.toList, Settled c := by
  refine ⟨normalizeMessage_normalizeMessage, fun a b v w someV someW blankV blankW => ?_,
    fun s v blank => ⟨?_, ?_⟩, fun _ => normalizeMessage_eq_self_iff⟩
  · refine normalizeMessage_congr ?_
    have notNil : ∀ s : String, s ≠ "" → s.toList ≠ [] := fun _ => String.toList_eq_nil_iff.not.mpr
    simp only [String.toList_append, List.append_assoc]
    rw [wordsOf_append blankV (notNil v someV), wordsOf_append blankW (notNil w someW)]
  · refine normalizeMessage_congr ?_
    rw [String.toList_append, wordsOf_blank_append blank]
  · refine normalizeMessage_congr ?_
    rw [String.toList_append, wordsOf_append_blank blank]

/-- A message with a no-break space and a sigma at the end of a word. -/
theorem normalizeMessage_layout_sigma :
    "\u00a0\t" ≠ "" ∧ " " ≠ "" ∧ Blank "\u00a0\t".toList ∧ Blank " ".toList ∧
      normalizeMessage ("ΤΕΛΟΣ" ++ "\u00a0\t" ++ "x") = normalizeMessage ("ΤΕΛΟΣ" ++ " " ++ "x") ∧
      normalizeMessage (normalizeMessage "ΤΕΛΟΣ x") = normalizeMessage "ΤΕΛΟΣ x" := by
  obtain ⟨again, between, -, -⟩ := normalizeMessage_layout
  have blank : Blank "\u00a0\t".toList ∧ Blank " ".toList := by decide
  exact ⟨by decide, by decide, blank.1, blank.2,
    between "ΤΕΛΟΣ" "x" _ _ (by decide) (by decide) blank.1 blank.2, again _⟩

end LintRun
