import LintRun.Proofs.Regex.Reading.Steps

/-!
# Reading to the end

Which state a text leads to is a relation (`Reads`): blanks are skipped, a move is read and made,
and so on until only blanks are left. The reader computes it when its fuel covers the text
(`readAll_iff`). A bar after a text that is read to a state without open comments starts the next
alternative of that state, and what follows the bar is read from there (`reads_bar_iff`).
-/

set_option autoImplicit false

namespace LintRun.Regex

variable {s s' t u next : ReadState} {cs rest tail : List Char} {c : Char} {m : Move}

/-- A step takes a move that is read and can be made. -/
theorem readStep_eq_ok_iff :
    readStep s (c :: cs) = .ok (next, rest) ↔
      ∃ m, readMove s.flags c cs = .ok (m, rest) ∧ s.move? m = some next := by
  have parts := toOption_readStep s c cs
  constructor
  · intro step
    rw [step] at parts
    obtain ⟨⟨m, rest'⟩, read, made⟩ := Option.bind_eq_some_iff.mp parts.symm
    obtain ⟨next', moved, same⟩ := Option.map_eq_some_iff.mp made
    cases same
    exact ⟨m, toOption_eq_some_iff.mp read, moved⟩
  · rintro ⟨m, read, moved⟩
    have made : s.follow (readMove s.flags c cs) = some (next, rest) := by
      rw [ReadState.follow, read]
      exact congrArg (Option.map (·, rest)) moved
    exact toOption_eq_some_iff.mp (parts.trans made)

/-- Whether a text is read from one state to another. -/
inductive Reads : ReadState → List Char → ReadState → Prop
  | done {s : ReadState} {cs : List Char} (ended : skipBlanks s.flags cs = []) : Reads s cs s
  | step {s next s' : ReadState} {cs tail rest : List Char} {c : Char} {m : Move}
      (begun : skipBlanks s.flags cs = c :: tail) (read : readMove s.flags c tail = .ok (m, rest))
      (moved : s.move? m = some next) (later : Reads next rest s') : Reads s cs s'

/-- The reader with fuel for the whole text follows the relation. -/
theorem readAll_iff {fuel : Nat} (enough : cs.length < fuel) :
    readAll fuel s cs = .ok s' ↔ Reads s cs s' := by
  have shorter := length_skipBlanks_le s.flags cs
  constructor
  · intro result
    induction fuel generalizing s cs with
    | zero => exact absurd enough (Nat.not_lt_zero _)
    | succ fuel ih =>
      have shorter := length_skipBlanks_le s.flags cs
      rw [readAll] at result
      split at result
      · rename_i ended
        cases result
        exact .done ended
      · rename_i begun
        obtain ⟨c, tail, start⟩ := List.exists_cons_of_ne_nil begun
        rw [start] at result shorter
        obtain ⟨⟨next, rest⟩, step, result⟩ := exists_ok_of_bind result
        obtain ⟨m, read, moved⟩ := readStep_eq_ok_iff.mp step
        have less := (readMove_bar read).1
        rw [List.length_cons] at shorter
        have enough' : rest.length < fuel := by omega
        exact .step start read moved (ih enough' (length_skipBlanks_le _ _) result)
  · intro reads
    induction reads generalizing fuel with
    | done ended =>
      obtain ⟨fuel, rfl⟩ := Nat.exists_eq_succ_of_ne_zero (Nat.ne_zero_of_lt enough)
      rw [readAll, ended]
    | step begun read moved later ih =>
      obtain ⟨fuel, rfl⟩ := Nat.exists_eq_succ_of_ne_zero (Nat.ne_zero_of_lt enough)
      have less := (readMove_bar read).1
      rw [begun, List.length_cons] at shorter
      rw [readAll, begun]
      dsimp only
      rw [readStep_eq_ok_iff.mpr ⟨_, read, moved⟩]
      exact ih (by omega) (length_skipBlanks_le _ _)

namespace Reads

/-- A text is read to one state at most. -/
theorem unique (one : Reads s cs t) (other : Reads s cs u) : t = u := by
  have first := (readAll_iff (Nat.lt_succ_self cs.length)).mpr one
  have second := (readAll_iff (Nat.lt_succ_self cs.length)).mpr other
  exact Except.ok.inj (first.symm.trans second)

/-- After a step, what is left is read from the next state. -/
theorem step_iff (begun : skipBlanks s.flags cs = c :: tail)
    (read : readMove s.flags c tail = .ok (m, rest)) (moved : s.move? m = some next) :
    Reads s cs u ↔ Reads next rest u := by
  refine ⟨fun reads => ?_, .step begun read moved⟩
  cases reads with
  | done ended => exact absurd (begun.symm.trans ended) (List.cons_ne_nil c tail)
  | step begun' read' moved' later =>
    cases begun.symm.trans begun'
    cases read.symm.trans read'
    cases moved.symm.trans moved'
    exact later

/-- Nothing is read without a change of the state. -/
theorem eq_of_nil (reads : Reads s [] u) : s = u := by
  cases reads with
  | done => rfl
  | step begun =>
    rw [skipBlanks] at begun
    cases begun

end Reads

/-! ## Bars -/

/-- A move after which no blanks are skipped is plain: before it none were, unless it changed the
flags itself. -/
theorem Move.plain_of_moved (moved : s.move? m = some next) (plain : next.flags.spaced = false) :
    m.Plain s.flags := by
  cases m with
  | set | look | alternate | openNumbered =>
    cases moved
    exact plain
  | setFlags | openPlain | close => trivial
  | openNamed name =>
    obtain ⟨-, rfl⟩ := ReadState.openNamed_eq_some_iff.mp moved
    exact plain
  | repeatLast low high lazy =>
    obtain ⟨frame, rfl⟩ := ReadState.repeatLast_eq_ok (toOption_eq_some_iff.mp moved)
    exact plain

/-- A bar starts the next alternative of the state to which the text before it has been read. -/
theorem reads_bar_iff (reads : Reads s cs t) (plain : t.flags.spaced = false) (more : List Char) :
    Reads s (cs ++ '|' :: more) u ↔ Reads t.alternate more u := by
  induction reads with
  | done ended =>
    rw [skipBlanks_of_plain plain] at ended
    subst ended
    exact Reads.step_iff (m := .alternate) (skipBlanks_of_plain plain _) rfl rfl
  | @step s next t cs tail rest c m begun read moved later ih =>
    have left : rest ≠ [] ∨ m.Plain s.flags := by
      by_cases ended : rest = []
      · subst ended
        exact .inr (Move.plain_of_moved moved (later.eq_of_nil ▸ plain))
      · exact .inl ended
    have begun' : skipBlanks s.flags (cs ++ '|' :: more) = c :: (tail ++ '|' :: more) := by
      rw [skipBlanks_append (begun ▸ List.cons_ne_nil c tail), begun, List.cons_append]
    rw [Reads.step_iff begun' ((readMove_bar read).2 left more) moved]
    exact ih plain

end LintRun.Regex
