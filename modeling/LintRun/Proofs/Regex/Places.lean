import Mathlib.Data.List.Basic
import Mathlib.Logic.Relation
import Mathlib.Order.Nat
import LintRun.Regex.Matching

/-!
# From place to place

What a pattern means, apart from the order of preference and from what its groups remember: the
places of a text to which it leads from a place (`Node.Leads`). A set leads past one of its
characters, a condition stays where it holds, and a loop goes on from iteration to iteration. The
way leads forward (`le_of_leads`) and does not leave the text (`le_length_of_leads`).

A thread of a search is at a place of the text (`Thread.At`) as long as it only moves by the
functions for it.
-/

set_option autoImplicit false

namespace LintRun.Regex

variable {cs : List Char} {t u : Thread} {chars : CharSet} {i j : Nat}

/-! ## Places -/

/-- The place before which a number of characters of a text stand. -/
def place (cs : List Char) (i : Nat) : Thread :=
  { index := i, before := (cs.take i).getLast?, rest := cs.drop i }

namespace Thread

/-- Whether a thread is at a place of a text. -/
structure At (cs : List Char) (t : Thread) : Prop where
  index_le : t.index ≤ cs.length
  before : t.before = (cs.take t.index).getLast?
  rest : t.rest = cs.drop t.index

theorem at_place (inside : i ≤ cs.length) : (place cs i).At cs :=
  ⟨inside, rfl, rfl⟩

theorem At.enter (here : t.At cs) : t.enter.At cs :=
  ⟨here.index_le, here.before, here.rest⟩

theorem index_leave (t : Thread) (group : Nat) : (t.leave group).index = t.index := by
  unfold leave
  split <;> rfl

theorem At.leave (here : t.At cs) (group : Nat) : (t.leave group).At cs := by
  unfold Thread.leave
  split
  · exact here
  · exact ⟨here.index_le, here.before, here.rest⟩

theorem At.length_rest (here : t.At cs) : t.rest.length = cs.length - t.index := by
  rw [here.rest, List.length_drop]

end Thread

/-- Whether the next character after a place belongs to a set, and another place is the one after
that character. -/
def Passes (cs : List Char) (chars : CharSet) (i j : Nat) : Prop :=
  j = i + 1 ∧ ∃ c, cs[i]? = some c ∧ chars.has c.toNat = true

theorem Passes.lt_length (passes : Passes cs chars i j) : i < cs.length := by
  obtain ⟨c, here, -⟩ := passes.2
  exact (List.getElem?_eq_some_iff.mp here).1

namespace Thread

theorem At.rest_eq_cons (here : t.At cs) {c : Char} (next : cs[t.index]? = some c) :
    t.rest = c :: cs.drop (t.index + 1) := by
  obtain ⟨inside, same⟩ := List.getElem?_eq_some_iff.mp next
  rw [here.rest, List.drop_eq_getElem_cons inside, same]

theorem At.getElem?_of_rest (here : t.At cs) {c : Char} {rest : List Char}
    (next : t.rest = c :: rest) : cs[t.index]? = some c ∧ rest = cs.drop (t.index + 1) := by
  have dropped : cs.drop t.index = c :: rest := here.rest.symm.trans next
  refine ⟨?_, ?_⟩
  · rw [← List.head?_drop, dropped, List.head?_cons]
  · rw [← List.tail_drop, dropped, List.tail_cons]

theorem At.after (here : t.At cs) {c : Char} {rest : List Char} (next : t.rest = c :: rest) :
    (t.after c rest).At cs := by
  obtain ⟨found, same⟩ := here.getElem?_of_rest next
  obtain ⟨inside, -⟩ := List.getElem?_eq_some_iff.mp found
  refine ⟨inside, ?_, same⟩
  change some c = (cs.take (t.index + 1)).getLast?
  rw [List.take_add_one, found, Option.toList_some, List.getLast?_concat]

/-- A thread moves past a character as the set passes it. -/
theorem At.next? (here : t.At cs) (chars : CharSet) :
    (∀ u, t.next? chars = some u → u.At cs ∧ Passes cs chars t.index u.index) ∧
      ∀ j, Passes cs chars t.index j → ∃ u, t.next? chars = some u ∧ u.index = j := by
  unfold Thread.next?
  constructor
  · intro u moved
    split at moved
    · cases moved
    · rename_i c rest next
      split at moved
      · rename_i inSet
        cases moved
        exact ⟨here.after next, rfl, c, (here.getElem?_of_rest next).1, inSet⟩
      · cases moved
  · rintro j ⟨rfl, c, found, inSet⟩
    rw [here.rest_eq_cons found]
    exact ⟨_, if_pos inSet, rfl⟩

end Thread

/-- A condition looks at nothing but the characters before and after the place. -/
theorem Thread.At.holds (here : t.At cs) (condition : Look) :
    condition.holds t = condition.holds (place cs t.index) := by
  have before : t.before = (place cs t.index).before := here.before
  have rest : t.rest = (place cs t.index).rest := here.rest
  unfold Look.holds
  rw [before, rest]

/-! ## Where a pattern leads -/

namespace Node

/-- Whether a pattern leads from one place of a text to another. -/
def Leads (cs : List Char) : Node → Nat → Nat → Prop
  | .empty => (· = ·)
  | .set chars => Passes cs chars
  | .look condition => fun i j => condition.holds (place cs i) = true ∧ i = j
  | .cat first second => Relation.Comp (first.Leads cs) (second.Leads cs)
  | .alt first second => fun i j => first.Leads cs i j ∨ second.Leads cs i j
  | .run _ chars => Relation.TransGen (Passes cs chars)
  | .loop _ body => Relation.TransGen (body.Leads cs)
  | .group _ _ body => body.Leads cs

/-- Whether a pattern leads anywhere from some place of a text. -/
def Occurs (node : Node) (cs : List Char) : Prop :=
  ∃ i j, i ≤ cs.length ∧ node.Leads cs i j

theorem le_of_leads {node : Node} (leads : node.Leads cs i j) : i ≤ j := by
  induction node generalizing i j with
  | empty => exact leads.le
  | set chars => exact leads.1 ▸ Nat.le_succ i
  | look condition => exact leads.2.le
  | cat first second ih₁ ih₂ =>
    obtain ⟨middle, one, two⟩ := leads
    exact (ih₁ one).trans (ih₂ two)
  | alt first second ih₁ ih₂ => exact leads.elim ih₁ ih₂
  | run greedy chars =>
    induction leads with
    | single passes => exact passes.1 ▸ Nat.le_succ i
    | tail _ passes ih => exact ih.trans (passes.1 ▸ Nat.le_succ _)
  | loop greedy body ih =>
    induction leads with
    | single once => exact ih once
    | tail _ last before => exact before.trans (ih last)
  | group index name body ih => exact ih leads

/-- A pattern that cannot match nothing leads to a later place. -/
theorem lt_of_leads {node : Node} (advances : node.nullable = false) (leads : node.Leads cs i j) :
    i < j := by
  induction node generalizing i j with
  | empty => cases advances
  | set chars => exact leads.1 ▸ Nat.lt_succ_self i
  | look condition => cases advances
  | cat first second ih₁ ih₂ =>
    obtain ⟨middle, one, two⟩ := leads
    rcases Bool.and_eq_false_iff.mp advances with former | latter
    · exact (ih₁ former one).trans_le (le_of_leads two)
    · exact (le_of_leads one).trans_lt (ih₂ latter two)
  | alt first second ih₁ ih₂ =>
    obtain ⟨former, latter⟩ := Bool.or_eq_false_iff.mp advances
    exact leads.elim (ih₁ former) (ih₂ latter)
  | run greedy chars =>
    induction leads with
    | single passes => exact passes.1 ▸ Nat.lt_succ_self i
    | tail _ passes ih => exact ih.trans (passes.1 ▸ Nat.lt_succ_self _)
  | loop greedy body ih =>
    induction leads with
    | single once => exact ih advances once
    | tail _ last before => exact before.trans (ih advances last)
  | group index name body ih => exact ih advances leads

/-- From the places of a text no pattern leads out of it. -/
theorem le_length_of_leads {node : Node} (inside : i ≤ cs.length) (leads : node.Leads cs i j) :
    j ≤ cs.length := by
  induction node generalizing i j with
  | empty => exact leads ▸ inside
  | set chars => exact leads.1 ▸ leads.lt_length
  | look condition => exact leads.2 ▸ inside
  | cat first second ih₁ ih₂ =>
    obtain ⟨middle, one, two⟩ := leads
    exact ih₂ (ih₁ inside one) two
  | alt first second ih₁ ih₂ => exact leads.elim (ih₁ inside) (ih₂ inside)
  | run greedy chars =>
    cases leads with
    | single passes => exact passes.1 ▸ passes.lt_length
    | tail _ passes => exact passes.1 ▸ passes.lt_length
  | loop greedy body ih =>
    induction leads with
    | single once => exact ih inside once
    | tail _ last before => exact ih before last
  | group index name body ih => exact ih inside leads

/-- A choice leads where one of its alternatives leads. -/
theorem leads_choice_iff {nodes : List Node} (some_node : nodes ≠ []) :
    (choice nodes).Leads cs i j ↔ ∃ node ∈ nodes, node.Leads cs i j := by
  induction nodes with
  | nil => exact absurd rfl some_node
  | cons first rest ih =>
    cases rest with
    | nil => simp only [choice, List.mem_singleton, exists_eq_left]
    | cons second rest =>
      rw [List.exists_mem_cons_iff]
      exact or_congr Iff.rfl (ih (List.cons_ne_nil second rest))

end Node

end LintRun.Regex
