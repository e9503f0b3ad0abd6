import LintRun.Proofs.Regex.Places
import LintRun.Regex.Parser

/-!
# The numbers of groups

Behind another pattern the groups of a pattern have later numbers (`Node.shift`). This changes
neither where the pattern leads (`Node.leads_shift`) nor how patterns are put together: the numbers
of a sequence, a choice or a repetition are those of its parts.
-/

set_option autoImplicit false

namespace LintRun.Regex

variable {k : Nat}

namespace Node

/-- A pattern with later numbers for its groups. -/
def shift (k : Nat) : Node → Node
  | .empty => .empty
  | .set chars => .set chars
  | .look condition => .look condition
  | .cat first second => .cat (first.shift k) (second.shift k)
  | .alt first second => .alt (first.shift k) (second.shift k)
  | .run greedy chars => .run greedy chars
  | .loop greedy body => .loop greedy (body.shift k)
  | .group index name body => .group (k + index) name (body.shift k)

/-- A pattern leads to the same places whatever the numbers of its groups are. -/
theorem leads_shift (k : Nat) (node : Node) (cs : List Char) :
    (node.shift k).Leads cs = node.Leads cs := by
  induction node with
  | empty | set | look | run => rfl
  | cat first second ih₁ ih₂ => rw [shift, Leads, Leads, ih₁, ih₂]
  | alt first second ih₁ ih₂ => rw [shift, Leads, Leads, ih₁, ih₂]
  | loop greedy body ih => rw [shift, Leads, Leads, ih]
  | group index name body ih => exact ih

theorem shift_sequence (nodes : List Node) :
    (sequence nodes).shift k = sequence (nodes.map (shift k)) := by
  induction nodes with
  | nil => rfl
  | cons a rest ih =>
    cases rest with
    | nil => rfl
    | cons b rest => exact congrArg (Node.cat (a.shift k)) ih

theorem shift_choice (nodes : List Node) :
    (choice nodes).shift k = choice (nodes.map (shift k)) := by
  induction nodes with
  | nil => rfl
  | cons a rest ih =>
    cases rest with
    | nil => rfl
    | cons b rest => exact congrArg (Node.alt (a.shift k)) ih

theorem shift_optional (greedy : Bool) (a : Node) :
    (optional greedy a).shift k = optional greedy (a.shift k) := by
  cases greedy <;> rfl

theorem shift_oneOrMore (greedy : Bool) (a : Node) :
    (oneOrMore greedy a).shift k = oneOrMore greedy (a.shift k) := by
  cases a <;> rfl

theorem shift_power (a : Node) (n : Nat) : (power a n).shift k = power (a.shift k) n := by
  induction n using Nat.strong_induction_on with
  | h n ih =>
    rw [power.eq_def a n, power.eq_def (a.shift k) n]
    by_cases none : n = 0
    · rw [if_pos none, if_pos none, shift]
    rw [if_neg none, if_neg none]
    by_cases one : n = 1
    · rw [if_pos one, if_pos one]
    rw [if_neg one, if_neg one, shift, ih _ (by omega), ih _ (by omega)]

theorem shift_atMost (greedy : Bool) (a : Node) (n : Nat) :
    (atMost greedy a n).shift k = atMost greedy (a.shift k) n := by
  induction n with
  | zero => rfl
  | succ n ih =>
    cases n with
    | zero => exact shift_optional greedy a
    | succ n =>
      refine (shift_optional greedy (.cat a (atMost greedy a (n + 1)))).trans ?_
      rw [shift, ih]
      rfl

theorem shift_repeated (greedy : Bool) (low : Nat) (high : Option Nat) (a : Node) :
    (repeated greedy low high a).shift k = repeated greedy low high (a.shift k) := by
  unfold repeated
  split
  · exact (shift_optional _ _).trans (congrArg _ (shift_oneOrMore _ _))
  · exact shift_oneOrMore _ _
  · rw [shift, shift_power, shift_oneOrMore]
  · exact shift_atMost _ _ _
  · split
    · exact shift_power _ _
    · rw [shift, shift_power, shift_atMost]

end Node

/-! ## Parts and groups -/

/-- A part with later numbers for its groups. -/
def Item.shift (k : Nat) (item : Item) : Item :=
  { item with node := item.node.map (Node.shift k) }

/-- An open group with later numbers for it and the groups in it. -/
def Frame.shift (k : Nat) (f : Frame) : Frame where
  outer := f.outer
  capture := f.capture.map fun c => (k + c.1, c.2)
  branches := f.branches.map (Item.shift k)
  items := f.items.map (Item.shift k)

theorem Item.nodes_shift (items : List Item) :
    (items.map (Item.shift k)).filterMap (·.node) =
      (items.filterMap (·.node)).map (Node.shift k) := by
  rw [List.filterMap_map, List.map_filterMap]
  rfl

theorem Item.depths_shift (items : List Item) :
    (items.map (Item.shift k)).map (·.depth) = items.map (·.depth) :=
  List.map_map ..

theorem Item.shapes_shift (items : List Item) :
    (items.map (Item.shift k)).map (·.shape) = items.map (·.shape) :=
  List.map_map ..

namespace Frame

theorem sequence_shift (f : Frame) : (f.shift k).sequence = f.sequence.shift k := by
  unfold sequence
  dsimp only [shift]
  rw [← List.map_reverse, Item.nodes_shift, Item.depths_shift, Item.shapes_shift, List.length_map,
    ← Node.shift_sequence]
  rfl

/-- The alternatives of a group, the current one last. -/
def alternatives (f : Frame) : List Item :=
  (f.sequence :: f.branches).reverse

theorem alternatives_shift (f : Frame) :
    (f.shift k).alternatives = f.alternatives.map (Item.shift k) := by
  unfold alternatives
  rw [sequence_shift, List.map_reverse]
  rfl

end Frame

/-- Alternatives as one part. -/
def Item.choice : List Item → Item
  | [item] => item
  | items =>
    { node := some (Node.choice (items.filterMap (·.node)))
      depth := (items.map (·.depth)).foldl max 0 + 1
      shape := .choice (items.map (·.shape)) }

theorem Item.choice_of_length {items : List Item} (several : items.length ≠ 1) :
    choice items =
      { node := some (Node.choice (items.filterMap (·.node)))
        depth := (items.map (·.depth)).foldl max 0 + 1
        shape := .choice (items.map (·.shape)) } := by
  rw [choice]
  rintro item rfl
  exact several rfl

theorem Item.choice_shift (items : List Item) :
    choice (items.map (Item.shift k)) = (choice items).shift k := by
  by_cases single : items.length = 1
  · obtain ⟨item, rfl⟩ := List.length_eq_one_iff.mp single
    rfl
  · rw [choice_of_length single, choice_of_length (by rwa [List.length_map]), nodes_shift,
      depths_shift, shapes_shift, ← Node.shift_choice]
    rfl

namespace Frame

/-- Everything in a group is the choice between its alternatives. -/
theorem contents_eq_choice (f : Frame) : f.contents = Item.choice f.alternatives := by
  unfold contents alternatives
  cases f.branches with
  | nil => rfl
  | cons b branches =>
    rw [Item.choice_of_length]
    rw [List.length_reverse]
    exact fun same => nomatch same

theorem contents_shift (f : Frame) : (f.shift k).contents = f.contents.shift k := by
  rw [contents_eq_choice, contents_eq_choice, alternatives_shift, Item.choice_shift]

end Frame

end LintRun.Regex
