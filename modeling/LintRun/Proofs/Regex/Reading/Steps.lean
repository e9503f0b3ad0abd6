import LintRun.Proofs.Regex.Reading.Classes
import LintRun.Proofs.Regex.Reading.Moves

/-!
# Moves before a bar

Every move ends at a character of its own or before one that it does not read past, and a bar is no
part of a move. So a move that is read is the same one when a bar follows it (`readMove_bar`); only
where blanks are skipped and the text is over, they might have been followed by more (`Move.Plain`).
-/

set_option autoImplicit false

namespace LintRun.Regex

variable {flags : Flags} {cs rest : List Char} {m : Move}

/-! ## Groups -/

/-- Flags end before a colon or a parenthesis, so they are the same before more text. -/
theorem readFlags_append {flags' : Flags} {on : Bool} {letters letters' : List Char}
    (read : readFlags flags on letters cs = .ok (flags', letters', rest)) :
    rest ≠ [] ∧ rest.length ≤ cs.length ∧ ∀ more,
      readFlags flags on letters (cs ++ more) = .ok (flags', letters', rest ++ more) := by
  induction cs generalizing flags on letters with
  | nil => cases read
  | cons c cs ih =>
    rw [readFlags] at read
    by_cases ends : c = ':' ∨ c = ')'
    · rw [if_pos ends] at read
      split at read
      · cases read
      · rename_i complete
        cases read
        refine ⟨List.cons_ne_nil c cs, le_rfl, fun more => ?_⟩
        rw [List.cons_append, readFlags, if_pos ends, if_neg complete]
    by_cases old : letters.contains c = true
    · rw [if_neg ends, if_pos old] at read
      cases read
    by_cases minus : c = '-'
    · rw [if_neg ends, if_neg old, if_pos minus] at read
      obtain ⟨left, shorter, same⟩ := ih read
      refine ⟨left, Nat.le_succ_of_le shorter, fun more => ?_⟩
      rw [List.cons_append, readFlags, if_neg ends, if_neg old, if_pos minus]
      exact same more
    rw [if_neg ends, if_neg old, if_neg minus] at read
    split at read
    · cases read
    · rename_i flags'' known
      obtain ⟨left, shorter, same⟩ := ih read
      refine ⟨left, Nat.le_succ_of_le shorter, fun more => ?_⟩
      rw [List.cons_append, readFlags, if_neg ends, if_neg old, if_neg minus, known]
      exact same more

theorem steady_readName : Steady True readName .ok := by
  intro cs m rest read
  have shorter := Text.length_dropWhile_le (· != '>') cs
  unfold readName at read ⊢
  split at read
  · cases read
  · rename_i c after closed
    have left : cs.dropWhile (· != '>') ≠ [] := closed ▸ List.cons_ne_nil c after
    split at read
    · rename_i valid
      cases read
      rw [closed] at shorter
      refine ⟨(Nat.le_succ _).trans shorter, fun _ more => ?_⟩
      simp only [dropWhile_append_of_ne_nil left, takeWhile_append_of_ne_nil left, closed,
        List.cons_append, if_pos valid]
    · cases read

/-- The character that ends flags is there, so what follows it does not matter. -/
theorem finishFlags_append {cs letters : List Char} (left : cs ≠ [])
    (read : finishFlags flags letters cs = .ok (m, rest)) :
    rest.length ≤ cs.length ∧ ∀ more,
      finishFlags flags letters (cs ++ more) = .ok (m, rest ++ more) := by
  obtain ⟨c, cs, rfl⟩ := List.exists_cons_of_ne_nil left
  by_cases closing : c = ')'
  · subst closing
    rw [finishFlags] at read
    split at read
    · cases read
    · rename_i lettered
      cases read
      refine ⟨Nat.le_succ _, fun more => ?_⟩
      rw [List.cons_append, finishFlags, if_neg lettered]
  · have opens : ∀ after,
        finishFlags flags letters (c :: after) = .ok (.openPlain flags, after) := by
      intro after
      rw [finishFlags]
      · rfl
      · exact fun _ same => closing (List.cons.inj same).1
    rw [opens] at read
    cases read
    exact ⟨Nat.le_succ _, fun more => opens (rest ++ more)⟩

theorem steady_readFlagged (flags : Flags) : Steady True (readFlagged flags) .ok := by
  intro cs m rest read
  unfold readFlagged at read ⊢
  obtain ⟨⟨flags', letters, after⟩, flagged, read⟩ := exists_ok_of_bind read
  obtain ⟨left, shorter, same⟩ := readFlags_append flagged
  obtain ⟨less, finished⟩ := finishFlags_append left read
  refine ⟨less.trans shorter, fun _ more => ?_⟩
  rw [same]
  exact finished _

theorem takeOpening_spec (cs : List Char) :
    (takeOpening cs).2.length ≤ cs.length ∧ ∀ more,
      takeOpening (cs ++ '|' :: more) =
        ((takeOpening cs).1, (takeOpening cs).2 ++ '|' :: more) := by
  fun_cases takeOpening cs
  · exact ⟨Nat.le_add_right _ 2, fun _ => rfl⟩
  · exact ⟨Nat.le_add_right _ 2, fun _ => rfl⟩
  · exact ⟨Nat.le_add_right _ 3, fun _ => rfl⟩
  · exact ⟨Nat.le_add_right _ 3, fun _ => rfl⟩
  · exact ⟨Nat.le_add_right _ 3, fun _ => rfl⟩
  · rename_i ahead notAhead
    refine ⟨Nat.le_add_right _ 2, fun more => ?_⟩
    rw [List.cons_append, List.cons_append, takeOpening]
    · exact append_bar_ne_cons (by decide) ahead more
    · exact append_bar_ne_cons (by decide) notAhead more
  · rename_i ahead notAhead behind notBehind python plain
    refine ⟨Nat.le_succ _, fun more => ?_⟩
    rw [List.cons_append, takeOpening]
    · exact append_bar_ne_cons (by decide) ahead more
    · exact append_bar_ne_cons (by decide) notAhead more
    · exact append_bar_ne_pair (by decide) behind more
    · exact append_bar_ne_pair (by decide) notBehind more
    · exact append_bar_ne_pair (by decide) python more
    · exact append_bar_ne_cons (by decide) plain more
  · rename_i question
    refine ⟨le_rfl, fun more => ?_⟩
    rw [takeOpening]
    all_goals
      intro rest same
      exact append_bar_ne_cons (by decide) question more _ same

/-- Whether a move that nothing follows is the same before a bar: if flags skip blanks, more might
have been skipped before it. -/
def Move.Plain (flags : Flags) : Move → Prop
  | .setFlags _ | .openPlain _ | .close => True
  | _ => flags.spaced = false

theorem readOpening_bar (read : readOpening flags cs = .ok (m, rest)) :
    rest.length ≤ cs.length ∧ (rest ≠ [] ∨ m.Plain flags → ∀ more,
      readOpening flags (cs ++ '|' :: more) = .ok (m, rest ++ '|' :: more)) := by
  have less := length_skipBlanks_le flags cs
  obtain ⟨within, same⟩ := takeOpening_spec (skipBlanks flags cs)
  unfold readOpening at read ⊢
  split at read
  · cases read
  · rename_i after start
    rw [start] at within same
    obtain ⟨shorter, steady⟩ := steady_readName read
    have begun : skipBlanks flags cs ≠ [] := fun ended => by rw [ended] at start; cases start
    refine ⟨(shorter.trans within).trans less, fun _ more => ?_⟩
    rw [skipBlanks_append begun, same]
    exact steady (.inr trivial) more
  · rename_i after start
    rw [start] at within same
    obtain ⟨shorter, steady⟩ := steady_readFlagged flags read
    have begun : skipBlanks flags cs ≠ [] := fun ended => by rw [ended] at start; cases start
    refine ⟨(shorter.trans within).trans less, fun _ more => ?_⟩
    rw [skipBlanks_append begun, same]
    exact steady (.inr trivial) more
  · rename_i after start
    rw [start] at within same
    cases read
    refine ⟨within.trans less, fun left more => ?_⟩
    rw [skipBlanks_bar (left_of_length_le within left), same]

/-! ## Repetitions -/

theorem takeLazy_spec (cs : List Char) :
    (takeLazy cs).2.length ≤ cs.length ∧ ∀ more,
      takeLazy (cs ++ '|' :: more) = ((takeLazy cs).1, (takeLazy cs).2 ++ '|' :: more) := by
  fun_cases takeLazy cs
  · exact ⟨Nat.le_succ _, fun _ => rfl⟩
  · rename_i greedy
    refine ⟨le_rfl, fun more => ?_⟩
    rw [takeLazy]
    exact append_bar_ne_cons (by decide) greedy more

theorem steady_readRepetition (low : Nat) (high : Option Nat) :
    Steady True (readRepetition low high) .ok := by
  intro cs m rest read
  obtain ⟨shorter, same⟩ := takeLazy_spec cs
  cases read
  refine ⟨shorter, fun _ more => ?_⟩
  rw [readRepetition, same]

/-- Digits are the same before more text if they do not reach to the end, and with more fuel than
there is text. -/
theorem go_spec {fuel : Nat} {digits taken : List Char} (enough : cs.length ≤ fuel)
    (read : readCount.go flags digits cs fuel = (taken, rest)) :
    rest.length ≤ cs.length ∧ (rest ≠ [] → ∀ more fuel', fuel ≤ fuel' →
      readCount.go flags digits (cs ++ more) fuel' = (taken, rest ++ more)) := by
  induction fuel generalizing cs digits with
  | zero =>
    obtain rfl := List.length_eq_zero_iff.mp (Nat.le_zero.mp enough)
    cases read
    exact ⟨le_rfl, fun left => absurd rfl left⟩
  | succ fuel ih =>
    cases cs with
    | nil =>
      cases read
      exact ⟨le_rfl, fun left => absurd rfl left⟩
    | cons c cs =>
      rw [readCount.go] at read
      have less := length_skipBlanks_le flags cs
      split at read
      · rename_i digit
        obtain ⟨shorter, steady⟩ := ih (less.trans (Nat.le_of_succ_le_succ enough)) read
        refine ⟨(shorter.trans less).trans (Nat.le_succ _), fun left more fuel' more_fuel => ?_⟩
        obtain ⟨fuel', rfl⟩ := Nat.exists_eq_succ_of_ne_zero (Nat.ne_zero_of_lt more_fuel)
        have begun := ne_nil_of_length_le shorter left
        rw [List.cons_append, readCount.go, if_pos digit, skipBlanks_append begun]
        exact steady left more fuel' (Nat.le_of_succ_le_succ more_fuel)
      · rename_i other
        cases read
        refine ⟨le_rfl, fun _ more fuel' more_fuel => ?_⟩
        obtain ⟨fuel', rfl⟩ := Nat.exists_eq_succ_of_ne_zero (Nat.ne_zero_of_lt more_fuel)
        rw [List.cons_append, readCount.go]
        exact if_neg other

theorem steady_readCount (flags : Flags) : Steady False (readCount flags) .ok := by
  intro cs n rest read
  unfold readCount at read ⊢
  dsimp only at read ⊢
  have blanks := Text.length_dropWhile_le Text.isBlank cs
  generalize startIs : cs.dropWhile Text.isBlank = start at read blanks
  generalize takenIs : readCount.go flags [] start start.length = taken at read
  obtain ⟨digits, after⟩ := taken
  obtain ⟨shorter, steady⟩ := go_spec le_rfl takenIs
  have blanks' := Text.length_dropWhile_le Text.isBlank after
  dsimp only at read
  split at read
  · rename_i value
    cases read
    refine ⟨(blanks'.trans shorter).trans blanks, fun left more => ?_⟩
    replace left := left.resolve_right id
    have afterLeft := ne_nil_of_length_le blanks' left
    have startLeft := ne_nil_of_length_le shorter afterLeft
    rw [dropWhile_append_of_ne_nil (startIs ▸ startLeft), startIs,
      steady afterLeft _ _ (by rw [List.length_append]; exact Nat.le_add_right _ _)]
    dsimp only
    rw [value, dropWhile_append_of_ne_nil left]
  · cases read

theorem steady_readHigh (flags : Flags) (low : Nat) : Steady False (readHigh flags low) .ok := by
  intro cs high rest read
  by_cases comma : ∃ after, cs = ',' :: after
  · obtain ⟨after, rfl⟩ := comma
    have less := length_skipBlanks_le flags after
    by_cases ended : skipBlanks flags after = []
    · rw [readHigh_of_nil ended] at read
      cases read
    by_cases unbounded : ∃ tail, skipBlanks flags after = '}' :: tail
    · obtain ⟨tail, start⟩ := unbounded
      rw [readHigh_of_brace start] at read
      cases read
      rw [start] at less
      refine ⟨less.trans (Nat.le_succ _), fun _ more => ?_⟩
      have start' : skipBlanks flags (after ++ '|' :: more) = '}' :: (tail ++ '|' :: more) := by
        rw [skipBlanks_append ended, start, List.cons_append]
      rw [List.cons_append, readHigh_of_brace start']
      rfl
    · have counted : ∀ tail, skipBlanks flags after ≠ '}' :: tail :=
        fun tail same => unbounded ⟨tail, same⟩
      rw [readHigh_of_count ended counted] at read
      obtain ⟨⟨n, tail⟩, count, read⟩ := exists_ok_of_bind read
      cases read
      obtain ⟨shorter, steady⟩ := steady_readCount flags count
      refine ⟨(shorter.trans less).trans (Nat.le_succ _), fun left more => ?_⟩
      rw [List.cons_append, readHigh_of_count]
      · rw [skipBlanks_append ended, steady left more]
        rfl
      · rw [skipBlanks_append ended]
        exact List.append_ne_nil_of_left_ne_nil ended _
      · rw [skipBlanks_append ended]
        exact append_bar_ne_cons (by decide) counted more
  · have single : ∀ after, cs ≠ ',' :: after := fun after same => comma ⟨after, same⟩
    rw [readHigh] at read
    · cases read
      refine ⟨le_rfl, fun _ more => ?_⟩
      rw [readHigh]
      exact append_bar_ne_cons (by decide) single more
    · exact single

theorem steady_readLast (flags : Flags) (low : Nat) (high : Option Nat) :
    Steady (flags.spaced = false) (readLast flags low high) .ok := by
  intro cs m rest read
  unfold readLast at read ⊢
  split at read
  · rename_i after
    have less := length_skipBlanks_le flags after
    obtain ⟨shorter, same⟩ := takeLazy_spec (skipBlanks flags after)
    dsimp only at read
    split at read
    · rename_i ordered
      cases read
      refine ⟨(shorter.trans less).trans (Nat.le_succ _), fun left more => ?_⟩
      simp only [List.cons_append, skipBlanks_bar (left_of_length_le shorter left), same,
        if_pos ordered]
    · cases read
  · cases read

theorem steady_readRange (flags : Flags) : Steady (flags.spaced = false) (readRange flags) .ok := by
  intro cs m rest read
  have less := length_skipBlanks_le flags cs
  unfold readRange at read ⊢
  dsimp only at read ⊢
  split at read
  · cases read
  rename_i begun
  obtain ⟨⟨low, afterLow⟩, lowCount, read⟩ := exists_ok_of_bind read
  obtain ⟨⟨high, afterHigh⟩, highCount, read⟩ := exists_ok_of_bind read
  obtain ⟨shorterLow, steadyLow⟩ := steady_readCount flags lowCount
  obtain ⟨shorterHigh, steadyHigh⟩ := steady_readHigh flags low highCount
  obtain ⟨shorter, steady⟩ := steady_readLast flags low high read
  have highLeft : afterHigh ≠ [] := by
    rintro rfl
    cases read
  have lowLeft : afterLow ≠ [] := ne_nil_of_length_le shorterHigh highLeft
  refine ⟨((shorter.trans shorterHigh).trans shorterLow).trans less, fun left more => ?_⟩
  rw [skipBlanks_append begun, if_neg (List.append_ne_nil_of_left_ne_nil begun _),
    steadyLow (.inl lowLeft) more]
  dsimp only [bind, Except.bind]
  rw [steadyHigh (.inl highLeft) more]
  exact steady left more

/-! ## Steps -/

theorem steady_readBracket (flags : Flags) : Steady True (readBracket flags) .ok := by
  intro cs m rest read
  unfold readBracket at read ⊢
  obtain ⟨⟨first, inside⟩, opened, read⟩ := exists_ok_of_bind read
  obtain ⟨⟨chars, depth, after⟩, closed, read⟩ := exists_ok_of_bind read
  cases read
  obtain ⟨shorterStart, steadyStart⟩ := steady_openClass flags opened
  obtain ⟨shorter, steady⟩ := readsClass_of_readClass closed
  refine ⟨shorter.trans shorterStart, fun _ more => ?_⟩
  rw [steadyStart (.inr trivial) more]
  dsimp only [bind, Except.bind]
  rw [steady more _ (by rw [List.length_append]; omega)]
  rfl

theorem steady_readEscaped (flags : Flags) :
    Steady (flags.spaced = false) (readEscaped flags) .ok := by
  intro cs m rest read
  unfold readEscaped at read ⊢
  obtain ⟨⟨escape, after⟩, escaped, read⟩ := exists_ok_of_bind read
  obtain ⟨made, moves, rfl, rfl⟩ := exists_ok_of_return (f := id) read
  obtain ⟨shorter, steady⟩ := steady_readEscape flags escaped
  refine ⟨shorter, fun left more => ?_⟩
  rw [steady left more]
  dsimp only [bind, Except.bind]
  rw [moves]
  rfl

theorem Escape.spaced_of_plain {escape : Escape} (moves : escape.move flags = .ok m)
    (plain : m.Plain flags) : flags.spaced = false := by
  unfold Escape.move at moves
  split at moves
  · split at moves
    · cases moves
    · cases moves
      exact plain
  · cases moves
    exact plain
  · cases moves
    exact plain

/-- A move is the same before a bar if it leaves something, or is plain. -/
theorem readMove_bar {c : Char} (read : readMove flags c cs = .ok (m, rest)) :
    rest.length ≤ cs.length ∧ (rest ≠ [] ∨ m.Plain flags → ∀ more,
      readMove flags c (cs ++ '|' :: more) = .ok (m, rest ++ '|' :: more)) := by
  unfold readMove at read
  split at read
  · exact readOpening_bar read
  · cases read
    exact ⟨le_rfl, fun _ _ => rfl⟩
  · cases read
    exact ⟨le_rfl, fun _ _ => rfl⟩
  · obtain ⟨shorter, steady⟩ := steady_readBracket flags read
    exact ⟨shorter, fun _ => steady (.inr trivial)⟩
  iterate 3
    · obtain ⟨shorter, steady⟩ := steady_readRepetition _ _ read
      exact ⟨shorter, fun _ => steady (.inr trivial)⟩
  · obtain ⟨shorter, steady⟩ := steady_readRange flags read
    obtain ⟨low, high, lazy, rfl⟩ := exists_of_readRange read
    exact ⟨shorter, steady⟩
  · obtain ⟨shorter, steady⟩ := steady_readEscaped flags read
    obtain ⟨⟨escape, after⟩, -, made⟩ := exists_ok_of_bind read
    obtain ⟨_, moves, rfl, -⟩ := exists_ok_of_return (f := id) made
    exact ⟨shorter, fun left => steady (left.imp id (Escape.spaced_of_plain moves))⟩
  · obtain ⟨chars, dot, rfl, rfl⟩ := exists_ok_of_return (f := fun chars => Move.set chars 0) read
    refine ⟨le_rfl, fun _ more => ?_⟩
    exact congrArg (· >>= fun chars => .ok (Move.set chars 0, cs ++ '|' :: more)) dot
  · cases read
    exact ⟨le_rfl, fun _ _ => rfl⟩
  · cases read
    exact ⟨le_rfl, fun _ _ => rfl⟩
  · cases read
    refine ⟨le_rfl, fun _ more => ?_⟩
    rw [readMove]
    all_goals assumption

end LintRun.Regex
