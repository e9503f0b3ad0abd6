import LintRun.Proofs.Results
import LintRun.Proofs.Text.Cutting
import LintRun.Regex.Parser

/-!
# Reading before a bar

A reader takes a part of a pattern and leaves the rest. If a bar and more text follow the pattern,
the reader takes the same part (`Steady`): it looks ahead for no character that a bar could be taken
for. The exception is white space and a comment at the end of the pattern, where flags skip them,
because a comment would go on past the bar; so this is said for readers that leave something, and
for flags that skip nothing.
-/

set_option autoImplicit false

namespace LintRun.Regex

variable {α β ρ : Type} {flags : Flags} {cs rest : List Char} {plain : Prop}

/-! ## Blanks -/

/-- Skipping takes characters from the start, and the same ones before more text unless it comes to
the end. -/
def Skips (skip : List Char → List Char) (cs : List Char) : Prop :=
  (skip cs).length ≤ cs.length ∧ (skip cs ≠ [] → ∀ more, skip (cs ++ more) = skip cs ++ more)

theorem Skips.cons {skip next : List Char → List Char} {c : Char} (skips : Skips next cs)
    (same : ∀ rest, skip (c :: rest) = next rest) : Skips skip (c :: cs) := by
  refine ⟨?_, fun left more => ?_⟩
  · rw [same, List.length_cons]
    exact Nat.le_succ_of_le skips.1
  · rw [same] at left
    rw [List.cons_append, same, same]
    exact skips.2 left more

theorem Skips.stop {skip : List Char → List Char} {c : Char}
    (same : ∀ rest, skip (c :: rest) = c :: rest) : Skips skip (c :: cs) := by
  refine ⟨?_, fun _ more => ?_⟩
  · rw [same]
  · rw [List.cons_append, same, same, List.cons_append]

theorem skips_both (flags : Flags) (cs : List Char) :
    Skips (skipBlanks flags) cs ∧ Skips (skipBlanks.skipComment flags) cs := by
  induction cs with
  | nil =>
    have none : skipBlanks flags [] = [] := by rw [skipBlanks]
    have noComment : skipBlanks.skipComment flags [] = [] := by rw [skipBlanks.skipComment]
    exact ⟨⟨none ▸ le_rfl, fun left => absurd none left⟩,
      ⟨noComment ▸ le_rfl, fun left => absurd noComment left⟩⟩
  | cons c cs ih =>
    constructor
    · by_cases spaced : flags.spaced = true
      · by_cases blank : Text.isBlank c = true
        · exact ih.1.cons fun rest => by rw [skipBlanks, if_pos spaced, if_pos blank]
        by_cases hash : c = '#'
        · exact ih.2.cons fun rest => by
            rw [skipBlanks, if_pos spaced, if_neg blank, if_pos hash]
        · exact .stop fun rest => by rw [skipBlanks, if_pos spaced, if_neg blank, if_neg hash]
      · exact .stop fun rest => by rw [skipBlanks, if_neg spaced]
    · by_cases ends : c = '\n'
      · exact ih.1.cons fun rest => by rw [skipBlanks.skipComment, if_pos ends]
      · exact ih.2.cons fun rest => by rw [skipBlanks.skipComment, if_neg ends]

theorem length_skipBlanks_le (flags : Flags) (cs : List Char) :
    (skipBlanks flags cs).length ≤ cs.length :=
  (skips_both flags cs).1.1

/-- What follows blanks is the same before more text, unless they reach to the end. -/
theorem skipBlanks_append (left : skipBlanks flags cs ≠ []) (more : List Char) :
    skipBlanks flags (cs ++ more) = skipBlanks flags cs ++ more :=
  (skips_both flags cs).1.2 left more

/-- Where no flag skips blanks, they stay. -/
theorem skipBlanks_of_plain (plain : flags.spaced = false) (cs : List Char) :
    skipBlanks flags cs = cs := by
  cases cs with
  | nil => rw [skipBlanks]
  | cons c rest => rw [skipBlanks, if_neg (Bool.eq_false_iff.mp plain)]

theorem skipBlanks_bar (left : skipBlanks flags cs ≠ [] ∨ flags.spaced = false) (more : List Char) :
    skipBlanks flags (cs ++ '|' :: more) = skipBlanks flags cs ++ '|' :: more := by
  rcases left with left | plain
  · exact skipBlanks_append left _
  · rw [skipBlanks_of_plain plain, skipBlanks_of_plain plain]

/-! ## Steady readers -/

/-- Whether a reader that has a result leaves a part of the text, and has the same result before a
bar if it leaves something or all is plain. -/
def Steady (plain : Prop) (read : List Char → ρ) (result : α × List Char → ρ) : Prop :=
  ∀ {cs : List Char} {a : α} {rest : List Char}, read cs = result (a, rest) →
    rest.length ≤ cs.length ∧ (rest ≠ [] ∨ plain → ∀ more,
      read (cs ++ '|' :: more) = result (a, rest ++ '|' :: more))

theorem ne_nil_of_length_le {cs cs' : List Char} (le : cs.length ≤ cs'.length) (left : cs ≠ []) :
    cs' ≠ [] := by
  rintro rfl
  exact left (List.length_eq_zero_iff.mp (Nat.le_zero.mp le))

theorem left_of_length_le {cs cs' : List Char} (le : cs.length ≤ cs'.length)
    (left : cs ≠ [] ∨ plain) : cs' ≠ [] ∨ plain :=
  left.imp (ne_nil_of_length_le le) id

theorem steady_takeSpaced (flags : Flags) (n : Nat) :
    Steady (flags.spaced = false) (takeSpaced flags n) some := by
  induction n with
  | zero =>
    intro cs taken rest read
    cases read
    exact ⟨le_rfl, fun _ more => rfl⟩
  | succ n ih =>
    intro cs taken rest read
    cases cs with
    | nil => cases read
    | cons c cs =>
      obtain ⟨⟨inner, rest'⟩, within, same⟩ := Option.map_eq_some_iff.mp read
      cases same
      obtain ⟨shorter, steady⟩ := ih within
      have less := length_skipBlanks_le flags cs
      refine ⟨(shorter.trans less).trans (Nat.le_succ _), fun left more => ?_⟩
      have skipped := skipBlanks_bar (left_of_length_le shorter left) more
      refine Option.map_eq_some_iff.mpr ⟨(inner, rest' ++ '|' :: more), ?_, rfl⟩
      exact skipped ▸ steady left more

theorem dropWhile_append_of_ne_nil {p : Char → Bool} (left : cs.dropWhile p ≠ [])
    (more : List Char) : (cs ++ more).dropWhile p = cs.dropWhile p ++ more := by
  rw [List.dropWhile_append, if_neg]
  rwa [List.isEmpty_iff]

theorem takeWhile_append_of_ne_nil {p : Char → Bool} (left : cs.dropWhile p ≠ [])
    (more : List Char) : (cs ++ more).takeWhile p = cs.takeWhile p := by
  rw [List.takeWhile_append, if_neg]
  intro whole
  have parts := congrArg List.length (List.takeWhile_append_dropWhile (p := p) (l := cs))
  rw [List.length_append, whole] at parts
  exact left (List.length_eq_zero_iff.mp (by omega))

theorem steady_takeBraced (flags : Flags) :
    Steady True (takeBraced flags) some := by
  intro cs taken rest read
  have shorter := Text.length_dropWhile_le (· != '}') cs
  unfold takeBraced at read ⊢
  split at read
  · cases read
  · rename_i c rest' found
    have left : cs.dropWhile (· != '}') ≠ [] := found ▸ List.cons_ne_nil c rest'
    cases read
    rw [found] at shorter
    refine ⟨(Nat.le_succ _).trans shorter, fun _ more => ?_⟩
    simp only [dropWhile_append_of_ne_nil left, takeWhile_append_of_ne_nil left, found,
      List.cons_append]

/-- A text does not begin with other characters before a bar than it does without it, unless the
bar is one of them. -/
theorem append_bar_ne {start : List Char} (free : '|' ∉ start) (other : ∀ rest, cs ≠ start ++ rest)
    (more rest : List Char) : cs ++ '|' :: more ≠ start ++ rest := by
  induction start generalizing cs with
  | nil => exact absurd rfl (other cs)
  | cons d start ih =>
    obtain ⟨notBar, later⟩ := not_or.mp (List.mem_cons.not.mp free)
    cases cs with
    | nil => exact fun same => notBar (List.cons.inj same).1
    | cons e cs =>
      intro begun
      obtain ⟨rfl, same⟩ := List.cons.inj begun
      exact ih later (fun after begun => other after (congrArg (e :: ·) begun)) same

theorem append_bar_ne_cons {c : Char} (notBar : '|' ≠ c) (other : ∀ rest, cs ≠ c :: rest)
    (more rest : List Char) : cs ++ '|' :: more ≠ c :: rest :=
  append_bar_ne (List.mem_singleton.not.mpr notBar) other more rest

theorem append_bar_ne_pair {c d : Char} (free : '|' ∉ [c, d]) (other : ∀ rest, cs ≠ c :: d :: rest)
    (more rest : List Char) : cs ++ '|' :: more ≠ c :: d :: rest :=
  append_bar_ne free other more rest

/-! ## Escapes -/

/-- What is made of the part that has been taken does not concern the rest. -/
theorem exists_ok_of_return {x : Except Fault α} {f : α → β} {b : β} {rest' : List Char}
    (read : (do return (f (← x), rest')) = Except.ok (b, rest)) :
    ∃ a, x = .ok a ∧ f a = b ∧ rest' = rest := by
  obtain ⟨a, result, same⟩ := exists_ok_of_bind read
  cases same
  exact ⟨a, result, rfl, rfl⟩

theorem steady_readCodePoint (flags : Flags) (kind : Char) :
    Steady (flags.spaced = false) (readCodePoint flags kind) .ok := by
  intro cs escape rest read
  have less := length_skipBlanks_le flags cs
  unfold readCodePoint at read ⊢
  split at read
  · cases read
  · rename_i rest' start
    have begun : skipBlanks flags cs ≠ [] := start ▸ List.cons_ne_nil '{' rest'
    split at read
    · cases read
    · rename_i digits rest'' braced
      obtain ⟨shorter, steady⟩ := steady_takeBraced flags braced
      split at read
      · cases read
      · rename_i nonempty
        split at read
        · cases read
        · rename_i n value
          obtain ⟨c, valid, rfl, rfl⟩ := exists_ok_of_return read
          rw [start] at less
          refine ⟨(shorter.trans (Nat.le_succ _)).trans less, fun _ more => ?_⟩
          simp only [skipBlanks_append begun, start, List.cons_append,
            steady (.inr trivial) more, if_neg nonempty, value, valid]
          rfl
  · rename_i nonempty unbraced
    dsimp only at read ⊢
    generalize (if kind = 'x' then 2 else if kind = 'u' then 4 else 8) = width at read ⊢
    split at read
    · cases read
    · rename_i digits rest' taken
      obtain ⟨shorter, steady⟩ := steady_takeSpaced flags width taken
      split at read
      · cases read
      · rename_i n value
        obtain ⟨c, valid, rfl, rfl⟩ := exists_ok_of_return read
        refine ⟨shorter.trans less, fun left more => ?_⟩
        rw [skipBlanks_append nonempty]
        split
        · rename_i ended
          exact absurd ended (List.append_ne_nil_of_left_ne_nil nonempty _)
        · rename_i rest'' braced
          exact absurd braced (append_bar_ne_cons (by decide) unbraced _ _)
        · rw [steady left more]
          dsimp only
          rw [value]
          dsimp only
          rw [valid]
          rfl

theorem steady_readProperty (flags : Flags) (negated : Bool) :
    Steady True (readProperty flags negated) .ok := by
  intro cs escape rest read
  have less := length_skipBlanks_le flags cs
  unfold readProperty at read ⊢
  split at read
  · cases read
  · rename_i rest' start
    have begun : skipBlanks flags cs ≠ [] := start ▸ List.cons_ne_nil '{' rest'
    split at read
    · cases read
    · rename_i inner rest'' braced
      obtain ⟨shorter, steady⟩ := steady_takeBraced flags braced
      obtain ⟨chars, found, rfl, rfl⟩ := exists_ok_of_return read
      rw [start] at less
      refine ⟨(shorter.trans (Nat.le_succ _)).trans less, fun _ more => ?_⟩
      simp only [skipBlanks_append begun, start, List.cons_append, steady (.inr trivial) more,
        found]
      rfl
  · rename_i c rest' unbraced start
    have begun : skipBlanks flags cs ≠ [] := start ▸ List.cons_ne_nil c rest'
    split at read
    · cases read
    · rename_i other
      obtain ⟨chars, found, rfl, rfl⟩ := exists_ok_of_return read
      rw [start] at less
      refine ⟨(Nat.le_succ _).trans less, fun _ more => ?_⟩
      simp only [skipBlanks_append begun, start, List.cons_append, if_neg other, found]
      rfl

theorem steady_readBoundary (flags : Flags) :
    Steady True (readBoundary flags) .ok := by
  intro cs escape rest read
  unfold readBoundary at read ⊢
  dsimp only at read ⊢
  split at read
  · rename_i within
    have less := length_skipBlanks_le flags within
    split at read
    · cases read
    · rename_i c tail start
      have begun : skipBlanks flags within ≠ [] := start ▸ List.cons_ne_nil c tail
      split at read
      · rename_i unnamed
        cases read
        refine ⟨le_rfl, fun _ more => ?_⟩
        simp only [List.cons_append, skipBlanks_append begun, start, if_pos unnamed]
      · rename_i named
        split at read
        · cases read
        · rename_i name after braced
          obtain ⟨shorter, steady⟩ := steady_takeBraced flags braced
          have kept : after.length ≤ ('{' :: within).length :=
            (shorter.trans less).trans (Nat.le_succ _)
          have opened : ∀ more, skipBlanks flags (within ++ '|' :: more) =
              c :: (tail ++ '|' :: more) := fun more => by
            rw [skipBlanks_append begun, start, List.cons_append]
          have braced' : ∀ more, takeBraced flags (c :: (tail ++ '|' :: more)) =
              some (name, after ++ '|' :: more) := fun more => by
            rw [← List.cons_append, ← start]
            exact steady (.inr trivial) more
          split at read
          any_goals
            rename_i spelled
            cases read
            refine ⟨kept, fun _ more => ?_⟩
            simp only [List.cons_append, opened, if_neg named, braced', spelled]
          split at read <;> cases read
  · rename_i unbraced
    cases read
    refine ⟨le_rfl, fun _ more => ?_⟩
    split
    · rename_i within start
      exact absurd start (append_bar_ne_cons (by decide) unbraced more within)
    · rfl

theorem steady_readEscape (flags : Flags) :
    Steady (flags.spaced = false) (readEscape flags) .ok := by
  intro cs escape rest read
  unfold readEscape at read ⊢
  split at read
  · cases read
  · rename_i c after
    dsimp only at read
    split at read
    · rename_i escapable
      cases read
      refine ⟨Nat.le_succ _, fun _ more => ?_⟩
      simp only [List.cons_append, if_pos escapable]
    · split at read
      -- Letters that stand for a character or a condition.
      any_goals
        cases read
        exact ⟨Nat.le_succ _, fun _ more => rfl⟩
      -- Letters after which the number of a character follows.
      iterate 3
        · obtain ⟨shorter, steady⟩ := steady_readCodePoint flags _ read
          exact ⟨Nat.le_succ_of_le shorter, steady⟩
      -- Letters after which the name of a class follows.
      iterate 2
        · obtain ⟨shorter, steady⟩ := steady_readProperty flags _ read
          exact ⟨Nat.le_succ_of_le shorter, fun _ => steady (.inr trivial)⟩
      -- Letters that stand for a class.
      iterate 6
        · obtain ⟨chars, found, rfl, rfl⟩ := exists_ok_of_return read
          refine ⟨Nat.le_succ _, fun _ more => ?_⟩
          exact congrArg (· >>= fun chars => .ok (Escape.set chars, after ++ '|' :: more)) found
      · obtain ⟨shorter, steady⟩ := steady_readBoundary flags read
        exact ⟨Nat.le_succ_of_le shorter, fun _ => steady (.inr trivial)⟩
      · split at read <;> cases read

end LintRun.Regex
