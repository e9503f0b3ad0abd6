import Mathlib.Data.List.TakeWhile
import LintRun.Text.Blank

/-!
# The words of a text

A text is white space alone, or it starts with a word: white space, then the word, then nothing or
more white space (`blank_or_word`). So its words can be found one by one, and white space has no
part in them but to keep them apart: it does not matter before the first word or behind the last
one, and between two texts any white space has their words follow one another (`wordsOf_append`).
Words that are written with single spaces between them are found again (`wordsOf_intercalate`).
-/

set_option autoImplicit false

namespace LintRun.Text

variable {cs before after word : List Char}

/-- Whether some characters are white space alone. -/
def Blank (cs : List Char) : Prop :=
  ∀ c ∈ cs, isBlank c = true

instance (cs : List Char) : Decidable (Blank cs) :=
  List.decidableBAll _ cs

/-- Whether some characters are a word: there are some, and none is white space. -/
structure IsWord (cs : List Char) : Prop where
  nonempty : cs ≠ []
  plain : ∀ c ∈ cs, isBlank c = false

/-- Whether a word is over where some characters begin. -/
def Ends (cs : List Char) : Prop :=
  ∀ c ∈ cs.head?, isBlank c = true

theorem Blank.ends (blank : Blank cs) (nonempty : cs ≠ []) (after : List Char) :
    Ends (cs ++ after) := by
  cases cs with
  | nil => exact absurd rfl nonempty
  | cons d rest =>
    rintro _ ⟨⟩
    exact blank d List.mem_cons_self

/-! ## Finding words -/

theorem wordsOf_eq (cs : List Char) : wordsOf cs =
    match trimStartChars cs with
    | [] => []
    | c :: rest => (c :: rest.takeWhile (!isBlank ·)) :: wordsOf (rest.dropWhile (!isBlank ·)) := by
  rw [wordsOf.eq_def]
  split <;> rename_i trimmed <;> rw [trimmed]

/-- White space before a text is of no importance. -/
theorem wordsOf_blank_append (blank : Blank before) (cs : List Char) :
    wordsOf (before ++ cs) = wordsOf cs := by
  have trimmed : trimStartChars (before ++ cs) = trimStartChars cs :=
    List.dropWhile_append_of_pos blank
  rw [wordsOf_eq, trimmed, ← wordsOf_eq]

@[simp] theorem wordsOf_nil : wordsOf [] = [] := by
  rw [wordsOf_eq]
  rfl

theorem wordsOf_of_blank (blank : Blank cs) : wordsOf cs = [] := by
  have none := wordsOf_blank_append blank []
  rwa [List.append_nil, wordsOf_nil] at none

/-- A word at the start of a text is its first word. -/
theorem wordsOf_word_append (isWord : IsWord word) (ends : Ends after) :
    wordsOf (word ++ after) = word :: wordsOf after := by
  obtain ⟨nonempty, plain⟩ := isWord
  obtain ⟨c, rest, rfl⟩ := List.exists_cons_of_ne_nil nonempty
  have first : isBlank c = false := plain c List.mem_cons_self
  have others : ∀ d ∈ rest, (!isBlank d) = true := fun d member => by
    rw [plain d (List.mem_cons_of_mem c member)]
    rfl
  have trimmed : trimStartChars (c :: rest ++ after) = c :: (rest ++ after) :=
    List.dropWhile_cons_of_neg (Bool.eq_false_iff.mp first)
  have ended : after.takeWhile (!isBlank ·) = [] ∧ after.dropWhile (!isBlank ·) = after := by
    cases after with
    | nil => exact ⟨rfl, rfl⟩
    | cons d more =>
      have stops : ¬ (!isBlank d) = true := by
        rw [ends d rfl]
        exact Bool.false_ne_true
      exact ⟨List.takeWhile_cons_of_neg stops, List.dropWhile_cons_of_neg stops⟩
  rw [wordsOf_eq, trimmed]
  dsimp only
  rw [List.takeWhile_append_of_pos others, List.dropWhile_append_of_pos others, ended.1, ended.2,
    List.append_nil]

/-- A text is white space alone, or it starts with a word behind white space. -/
theorem blank_or_word (cs : List Char) :
    Blank cs ∨ ∃ before word after, cs = before ++ (word ++ after) ∧ Blank before ∧
      IsWord word ∧ Ends after := by
  have blank : Blank (cs.takeWhile isBlank) := fun c member => List.mem_takeWhile_imp member
  have split : cs.takeWhile isBlank ++ cs.dropWhile isBlank = cs := List.takeWhile_append_dropWhile
  cases rest : cs.dropWhile isBlank with
  | nil =>
    rw [rest, List.append_nil] at split
    exact .inl (split ▸ blank)
  | cons c more =>
    have first : isBlank c = false := by
      have stopped := List.head?_dropWhile_not isBlank cs
      rwa [rest] at stopped
    refine .inr ⟨cs.takeWhile isBlank, c :: more.takeWhile (!isBlank ·),
      more.dropWhile (!isBlank ·), ?_, blank, ⟨List.cons_ne_nil _ _, ?_⟩, ?_⟩
    · rw [List.cons_append, List.takeWhile_append_dropWhile, ← rest, split]
    · intro d member
      rcases List.mem_cons.mp member with rfl | later
      · exact first
      · simpa using List.mem_takeWhile_imp later
    · intro d here
      have stopped := List.head?_dropWhile_not (!isBlank ·) more
      rw [here] at stopped
      simpa using stopped

/-! ## Words and white space -/

/-- **White space between two texts keeps their words apart**, however much there is of it. -/
theorem wordsOf_append {between : List Char} (blank : Blank between) (nonempty : between ≠ [])
    (cs after : List Char) : wordsOf (cs ++ (between ++ after)) = wordsOf cs ++ wordsOf after := by
  induction size : cs.length using Nat.strongRecOn generalizing cs with
  | _ n ih =>
    rcases blank_or_word cs with allBlank | ⟨before, word, rest, rfl, blankBefore, isWord, ends⟩
    · rw [wordsOf_blank_append allBlank, wordsOf_blank_append blank, wordsOf_of_blank allBlank,
        List.nil_append]
    · have shorter : rest.length < n := by
        have positive := List.length_pos_iff.mpr isWord.nonempty
        simp only [List.length_append] at size
        omega
      have endsToo : Ends (rest ++ (between ++ after)) := by
        cases rest with
        | nil => exact blank.ends nonempty after
        | cons c more => exact ends
      rw [List.append_assoc, List.append_assoc, wordsOf_blank_append blankBefore,
        wordsOf_blank_append blankBefore, wordsOf_word_append isWord endsToo,
        wordsOf_word_append isWord ends, ih rest.length shorter rest rfl, List.cons_append]

/-- White space behind a text is of no importance. -/
theorem wordsOf_append_blank (blank : Blank after) (cs : List Char) :
    wordsOf (cs ++ after) = wordsOf cs := by
  by_cases none : after = []
  · rw [none, List.append_nil]
  · have ended := wordsOf_append blank none cs []
    rwa [List.append_nil, wordsOf_nil, List.append_nil] at ended

theorem isWord_of_mem_wordsOf (member : word ∈ wordsOf cs) : IsWord word := by
  induction size : cs.length using Nat.strongRecOn generalizing cs with
  | _ n ih =>
    rcases blank_or_word cs with allBlank | ⟨before, first, rest, rfl, blankBefore, isWord, ends⟩
    · rw [wordsOf_of_blank allBlank] at member
      exact absurd member List.not_mem_nil
    · rw [wordsOf_blank_append blankBefore, wordsOf_word_append isWord ends] at member
      rcases List.mem_cons.mp member with rfl | later
      · exact isWord
      · have positive := List.length_pos_iff.mpr isWord.nonempty
        simp only [List.length_append] at size
        exact ih rest.length (by omega) later rfl

theorem blank_space : Blank [' '] := by
  decide

/-- **Words with single spaces between them are found again.** -/
theorem wordsOf_intercalate {words : List (List Char)} (valid : ∀ word ∈ words, IsWord word) :
    wordsOf ([' '].intercalate words) = words := by
  induction words with
  | nil => exact wordsOf_nil
  | cons word rest ih =>
    have isWord := valid word List.mem_cons_self
    have alone : wordsOf word = [word] := by
      have ends : Ends [] := by
        rintro _ ⟨⟩
      have first := wordsOf_word_append isWord ends
      rwa [List.append_nil, wordsOf_nil] at first
    cases rest with
    | nil => rwa [List.intercalate_singleton]
    | cons next others =>
      rw [List.intercalate_cons_cons, List.append_assoc,
        wordsOf_append blank_space (List.cons_ne_nil _ _), alone,
        ih fun other later => valid other (List.mem_cons_of_mem word later), List.singleton_append]

end LintRun.Text
