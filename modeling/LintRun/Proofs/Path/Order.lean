import LintRun.Path

/-!
# The order of paths

Components are ordered by their kinds and, within a kind, by their texts, and paths component by
component, as words are in a dictionary. Both orders are total, and what ties in them is the same.
-/

set_option autoImplicit false

namespace LintRun.Path

/-- Components are compared by kind first and then by text. -/
theorem Component.compare_eq :
    Component.compare = compareLex (compareOn Component.rank) (compareOn Component.text) := by
  funext a b
  have self : ∀ text : String, Ord.compare text text = .eq := fun _ => Std.ReflCmp.compare_self
  cases a with
  | root =>
    cases b with
    | root => exact (self "/").symm
    | _ => rfl
  | here =>
    cases b with
    | here => exact (self ".").symm
    | _ => rfl
  | up =>
    cases b with
    | up => exact (self "..").symm
    | _ => rfl
  | name s => cases b <;> rfl

instance : Std.TransCmp Component.compare := by
  rw [Component.compare_eq]
  infer_instance

instance : Std.LawfulEqCmp Component.compare where
  eq_of_compare {a b} tie := by
    rw [Component.compare_eq, compareLex_eq_eq] at tie
    have sameRank : a.rank = b.rank := Std.LawfulEqOrd.eq_of_compare tie.1
    have sameText : a.text = b.text := Std.LawfulEqOrd.eq_of_compare tie.2
    cases a with
    | root =>
      cases b with
      | root => rfl
      | _ => cases sameRank
    | here =>
      cases b with
      | here => rfl
      | _ => cases sameRank
    | up =>
      cases b with
      | up => rfl
      | _ => cases sameRank
    | name s =>
      cases b with
      | name t => exact congrArg Component.name sameText
      | _ => cases sameRank

/-- Paths are compared as words are in a dictionary. -/
theorem compareComponents_eq : compareComponents = List.compareLex Component.compare := by
  funext as bs
  induction as generalizing bs with
  | nil => cases bs <;> rfl
  | cons a as ih =>
    cases bs with
    | nil => rfl
    | cons b bs => rw [compareComponents, List.compareLex_cons_cons, ih]

instance : Std.TransCmp compareComponents := by
  rw [compareComponents_eq]
  infer_instance

instance : Std.LawfulEqCmp compareComponents := by
  rw [compareComponents_eq]
  infer_instance

end LintRun.Path
