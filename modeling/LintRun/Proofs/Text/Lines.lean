import LintRun.Proofs.Text.Cutting
import LintRun.Text.Lines

/-!
# Lines and pieces

A text that is cut at every line feed falls into **pieces**, of which there is always one, and which
keep their carriage returns. The lines of a text are its pieces without a carriage return at the
end, except that an empty piece at the end is no line. So whoever passes over empty lines and over
carriage returns at the end of a line finds the same in the lines and in the pieces
(`filterMap_linesOf`), and in the pieces it makes no difference how a line is ended
(`filterMap_withReturns`).
-/

set_option autoImplicit false

namespace LintRun.Text

variable {β : Type} {f : List Char → Option β} {line after cs : List Char}

/-! ## Lines one after the other -/

/-- What holds of a text of one piece, and of a text whenever it holds of what comes after the first
line feed, holds of every text. -/
theorem induction_lines {motive : List Char → Prop}
    (last : ∀ line, '\n' ∉ line → motive line)
    (next : ∀ line after, '\n' ∉ line → motive after → motive (line ++ '\n' :: after))
    (cs : List Char) : motive cs := by
  induction size : cs.length using Nat.strong_induction_on generalizing cs with
  | _ n ih =>
    by_cases ended : '\n' ∈ cs
    · obtain ⟨line, after, rfl, unended⟩ := List.eq_append_cons_of_mem ended
      refine next line after unended (ih _ ?_ after rfl)
      rw [← size, List.length_append, List.length_cons]
      omega
    · exact last cs ended

theorem linesOf_of_not_mem (unended : '\n' ∉ line) (nonempty : line ≠ []) :
    linesOf line = [line] := by
  cases line with
  | nil => exact absurd rfl nonempty
  | cons c rest =>
    rw [linesOf]
    split
    · rw [takeWhile_of_not_mem unended]
    · rename_i cut
      rw [dropWhile_eq_nil_iff_not_mem.mpr unended] at cut
      cases cut

theorem linesOf_cut (unended : '\n' ∉ line) (after : List Char) :
    linesOf (line ++ '\n' :: after) = dropReturn line :: linesOf after := by
  rw [linesOf.eq_def]
  split
  · rename_i empty
    exact absurd empty (List.append_ne_nil_of_right_ne_nil _ (List.cons_ne_nil _ _))
  · rename_i c rest same
    dsimp only
    rw [← same, takeWhile_cut unended]
    split
    · rename_i cut
      rw [dropWhile_cut unended] at cut
      cases cut
    · rename_i mark others cut
      rw [dropWhile_cut unended] at cut
      obtain rfl := (List.cons.inj cut).2
      rfl

/-! ## Carriage returns -/

theorem dropReturns_append_return (line : List Char) :
    dropReturns (line ++ ['\r']) = dropReturns line := by
  rw [dropReturns, List.reverse_append]
  rfl

theorem dropReturns_dropReturn (line : List Char) :
    dropReturns (dropReturn line) = dropReturns line := by
  rw [dropReturn]
  split
  · rename_i returned
    obtain ⟨front, rfl⟩ := List.getLast?_eq_some_iff.mp returned
    rw [List.dropLast_concat, dropReturns_append_return]
  · rfl

/-- The characters with a carriage return before every line feed. -/
def withReturns (cs : List Char) : List Char :=
  cs.flatMap fun c => if c = '\n' then ['\r', '\n'] else [c]

theorem withReturns_of_not_mem (unended : '\n' ∉ line) : withReturns line = line := by
  induction line with
  | nil => rfl
  | cons c rest ih =>
    have other : c ≠ '\n' := fun same => unended (same ▸ List.mem_cons_self)
    rw [withReturns, List.flatMap_cons, if_neg other]
    exact congrArg (c :: ·) (ih fun later => unended (List.mem_cons_of_mem c later))

theorem withReturns_cut (unended : '\n' ∉ line) (after : List Char) :
    withReturns (line ++ '\n' :: after) = (line ++ ['\r']) ++ '\n' :: withReturns after := by
  rw [withReturns, List.flatMap_append, List.flatMap_cons, if_pos rfl, List.append_assoc]
  exact congrArg (· ++ _) (withReturns_of_not_mem unended)

/-! ## Pieces -/

/-- Whoever passes over empty lines and over a carriage return at the end of a line finds the same
in the lines and in the pieces. -/
theorem filterMap_linesOf (empty : f [] = none) (returned : ∀ line, f (dropReturn line) = f line)
    (cs : List Char) : (linesOf cs).filterMap f = (cs.splitOn '\n').filterMap f := by
  induction cs using induction_lines with
  | last line unended =>
    rw [List.splitOn_eq_singleton unended]
    by_cases nothing : line = []
    · rw [nothing, List.filterMap_cons_none empty, linesOf]
    · rw [linesOf_of_not_mem unended nothing]
  | next line after unended ih =>
    rw [List.splitOn_append_cons_self_of_not_mem unended, linesOf_cut unended, List.filterMap_cons,
      List.filterMap_cons, returned, ih]

/-- Whoever passes over a carriage return at the end of a line finds the same with a carriage return
before every line feed. -/
theorem filterMap_withReturns (returned : ∀ line, f (line ++ ['\r']) = f line) (cs : List Char) :
    ((withReturns cs).splitOn '\n').filterMap f = (cs.splitOn '\n').filterMap f := by
  induction cs using induction_lines with
  | last line unended => rw [withReturns_of_not_mem unended]
  | next line after unended ih =>
    have still : '\n' ∉ line ++ ['\r'] := by simpa using unended
    rw [withReturns_cut unended, List.splitOn_append_cons_self_of_not_mem still,
      List.splitOn_append_cons_self_of_not_mem unended, List.filterMap_cons, List.filterMap_cons,
      returned, ih]

end LintRun.Text
