import LintRun.Regex.Node

/-!
# The size of patterns

A pattern is refused when a machine for it would take too much memory.  How much that is depends on
how machines are built, and is not said here.  A `SizeRule` is any way to tell from the shape of a
pattern whether it is too large, as long as more alternatives take no less than fewer and what is
small by a rough estimate is not refused.
-/

set_option autoImplicit false

namespace LintRun.Regex

/-- A pattern as far as its size is concerned: repetitions are not written out, and the numbers and
names of groups do not matter. -/
inductive Shape where
  | set (chars : CharSet)
  | look (condition : Look)
  | sequence (parts : List Shape)
  | choice (alternatives : List Shape)
  /-- A group, whose text is remembered or not. -/
  | group (remembered : Bool) (body : Shape)
  | repeated (low : Nat) (high : Option Nat) (body : Shape)

/-- A rough estimate of the octets that a machine for a pattern takes. -/
def Shape.estimate : Shape → Nat
  | .set chars => if chars.isAscii then 32 + 8 * chars.length else 64 + 24 * chars.length
  | .look _ => 32
  | .sequence parts => total parts
  | .choice alternatives => total alternatives + 32
  | .group _ body => body.estimate + 64
  | .repeated low high body => (body.estimate + 32) * high.getD (low + 1)
where
  /-- The estimate for some patterns together. -/
  total : List Shape → Nat
    | [] => 0
    | shape :: rest => shape.estimate + total rest

/-- Which patterns are too large. -/
class SizeRule where
  isTooLarge : Shape → Bool
  not_isTooLarge_of_small : ∀ {shape : Shape}, shape.estimate ≤ 0x10000 → isTooLarge shape = false
  isTooLarge_choice_of_mem : ∀ {shape : Shape} {shapes : List Shape}, shape ∈ shapes →
    isTooLarge shape = true → isTooLarge (.choice shapes) = true
  isTooLarge_choice_of_sublist : ∀ {shapes others : List Shape}, shapes.Sublist others →
    isTooLarge (.choice shapes) = true → isTooLarge (.choice others) = true

namespace SizeRule

theorem total_le_of_sublist {shapes others : List Shape} (sub : shapes.Sublist others) :
    Shape.estimate.total shapes ≤ Shape.estimate.total others := by
  induction sub with
  | slnil => exact Nat.le_refl 0
  | cons _ _ ih => exact Nat.le_trans ih (Nat.le_add_left _ _)
  | cons_cons shape _ ih => exact Nat.add_le_add_left ih shape.estimate

/-- The rule that refuses what is larger than a limit by the estimate. -/
@[reducible]
def ofLimit (limit : Nat) (least : 0x10000 ≤ limit) : SizeRule where
  isTooLarge shape := limit < shape.estimate
  not_isTooLarge_of_small small := decide_eq_false (Nat.not_lt.mpr (Nat.le_trans small least))
  isTooLarge_choice_of_mem {shape shapes} member large := by
    have le : shape.estimate + 0 ≤ Shape.estimate.total shapes :=
      total_le_of_sublist (List.singleton_sublist.mpr member)
    have larger := of_decide_eq_true large
    rw [decide_eq_true_eq, Shape.estimate]
    omega
  isTooLarge_choice_of_sublist {shapes others} sub large := by
    have le := total_le_of_sublist sub
    rw [decide_eq_true_eq, Shape.estimate] at large ⊢
    omega

/-- The rule that refuses all that is not small, and so what any other refuses. -/
@[reducible]
def strictest : SizeRule :=
  ofLimit 0x10000 (Nat.le_refl _)

/-- The rule by which patterns may take ten times 1024 times 1024 octets. -/
scoped instance estimated : SizeRule :=
  ofLimit (10 * 1024 * 1024) (by decide)

end SizeRule

end LintRun.Regex
