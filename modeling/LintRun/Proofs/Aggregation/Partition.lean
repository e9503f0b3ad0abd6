import Mathlib.Data.List.Forall2
import Mathlib.Data.List.Induction
import LintRun.Proofs.Aggregation.Groups

/-!
# The partition behind an aggregation

Aggregation takes its input apart. Every issue of the input is in exactly one **part**, at its own
place; the issues of a part come in the order of the input, and the parts in the order in which
each of them was first met (`Partitions`). The issues of a part can be one finding, because they
have one key and no two of them share a linter (`Mergeable`). Two parts of one key are apart for a
reason: they have a linter in common (`Apart`).

What is reported is the list of the parts, each of them merged (`Merges`): an issue on its own is
left as it is, and several issues become one of the most severe among them, with nothing changed
but the contributors, which are the linters of all of them (`apply_partition`).
-/

set_option autoImplicit false

namespace LintRun

/-! ## Lists taken apart -/

/-- The places at which the parts of a list begin. -/
def firstPlaces {α : Type} (parts : List (List (α × Nat))) : List Nat :=
  parts.filterMap fun part => part.head?.map (·.2)

/-- A list taken apart. Every element is given with its place in the list. -/
structure Partitions {α : Type} (xs : List α) (parts : List (List (α × Nat))) : Prop where
  /-- Every element of the list is in one of the parts, at its own place, and nothing else is. -/
  complete : parts.flatten.Perm xs.zipIdx
  nonempty : ∀ part ∈ parts, part ≠ []
  /-- The elements of a part come in the order of the list. -/
  inOrder : ∀ part ∈ parts, part.Pairwise fun a b => a.2 < b.2
  /-- The parts come in the order of their first elements. -/
  byFirst : (firstPlaces parts).Pairwise (· < ·)

namespace Partitions

variable {α : Type} {xs : List α} {parts front back : List (List (α × Nat))}
  {part : List (α × Nat)}

theorem nil : Partitions ([] : List α) [] where
  complete := .nil
  nonempty := fun _ member => absurd member List.not_mem_nil
  inOrder := fun _ member => absurd member List.not_mem_nil
  byFirst := List.Pairwise.nil

/-- The places in the parts are places of the list. -/
theorem place_lt (whole : Partitions xs parts) (member : part ∈ parts) {a : α × Nat}
    (inPart : a ∈ part) : a.2 < xs.length := by
  have inList : a ∈ xs.zipIdx := whole.complete.mem_iff.mp (List.mem_flatten_of_mem member inPart)
  have bounds := List.mem_zipIdx (x := a.1) (i := a.2) inList
  omega

theorem firstPlace_lt (whole : Partitions xs parts) {place : Nat}
    (first : place ∈ firstPlaces parts) : place < xs.length := by
  obtain ⟨part, member, begins⟩ := List.mem_filterMap.mp first
  obtain ⟨a, isHead, rfl⟩ := Option.map_eq_some_iff.mp begins
  exact whole.place_lt member (List.mem_of_mem_head? isHead)

/-- An element at the end of the list can be a part of its own. -/
theorem start (whole : Partitions xs parts) (x : α) :
    Partitions (xs ++ [x]) (parts ++ [[(x, xs.length)]]) where
  complete := by
    rw [List.flatten_append, List.zipIdx_append, Nat.zero_add]
    exact whole.complete.append_right _
  nonempty := by
    intro part member
    rcases List.mem_append.mp member with old | new
    · exact whole.nonempty part old
    · rw [List.mem_singleton.mp new]
      exact List.cons_ne_nil _ _
  inOrder := by
    intro part member
    rcases List.mem_append.mp member with old | new
    · exact whole.inOrder part old
    · rw [List.mem_singleton.mp new]
      exact List.pairwise_singleton _ _
  byFirst := by
    have places : firstPlaces (parts ++ [[(x, xs.length)]]) = firstPlaces parts ++ [xs.length] :=
      List.filterMap_append
    rw [places, List.pairwise_append]
    refine ⟨whole.byFirst, List.pairwise_singleton _ _, fun place old last new => ?_⟩
    rw [List.mem_singleton.mp new]
    exact whole.firstPlace_lt old

/-- An element at the end of the list can join a part. -/
theorem join (whole : Partitions xs (front ++ part :: back)) (x : α) :
    Partitions (xs ++ [x]) (front ++ (part ++ [(x, xs.length)]) :: back) where
  complete := by
    rw [List.zipIdx_append, Nat.zero_add]
    have moved : (front ++ (part ++ [(x, xs.length)]) :: back).flatten.Perm
        ((front ++ part :: back).flatten ++ [(x, xs.length)]) := by
      simp only [List.flatten_append, List.flatten_cons, List.append_assoc]
      exact (List.perm_append_comm.append_left _).append_left _
    exact moved.trans (whole.complete.append_right _)
  nonempty := by
    intro other member
    rcases List.mem_append.mp member with left | right
    · exact whole.nonempty other (List.mem_append_left _ left)
    · rcases List.mem_cons.mp right with here | later
      · rw [here]
        exact List.append_ne_nil_of_right_ne_nil _ (List.cons_ne_nil _ _)
      · exact whole.nonempty other (List.mem_append_right _ (List.mem_cons_of_mem _ later))
  inOrder := by
    have joined : part ∈ front ++ part :: back := List.mem_append_right _ List.mem_cons_self
    intro other member
    rcases List.mem_append.mp member with left | right
    · exact whole.inOrder other (List.mem_append_left _ left)
    · rcases List.mem_cons.mp right with here | later
      · rw [here, List.pairwise_append]
        refine ⟨whole.inOrder part joined, List.pairwise_singleton _ _, fun a old b new => ?_⟩
        rw [List.mem_singleton.mp new]
        exact whole.place_lt joined old
      · exact whole.inOrder other (List.mem_append_right _ (List.mem_cons_of_mem _ later))
  byFirst := by
    -- The part begins where it began before.
    have sameStart : (part ++ [(x, xs.length)]).head? = part.head? :=
      List.head?_append_of_ne_nil _
        (whole.nonempty part (List.mem_append_right _ List.mem_cons_self))
    have places : firstPlaces (front ++ (part ++ [(x, xs.length)]) :: back) =
        firstPlaces (front ++ part :: back) := by
      simp only [firstPlaces, List.filterMap_append, List.filterMap_cons, sameStart]
    rw [places]
    exact whole.byFirst

end Partitions

namespace Aggregation

variable {rules : List MergeRule}

/-! ## Parts of the input -/

/-- Whether issues can be reported as one finding. -/
structure Mergeable (rules : List MergeRule) (members : List Issue) : Prop where
  sameKey : ∀ a ∈ members, ∀ b ∈ members, keyOf rules a = keyOf rules b
  /-- No two of them have a linter in common. -/
  disjoint : members.Pairwise fun a b => ∀ name ∈ a.linters, name ∉ b.linters

/-- Whether two parts have a linter in common if they have one key. -/
def Apart (rules : List MergeRule) (part other : List Issue) : Prop :=
  ∀ a ∈ part, ∀ b ∈ other, keyOf rules a = keyOf rules b →
    ∃ c ∈ part, ∃ d ∈ other, ∃ name ∈ c.linters, name ∈ d.linters

/-- What some issues are reported as when they are merged. -/
inductive Merges : List Issue → Issue → Prop where
  | alone (issue : Issue) : Merges [issue] issue
  /-- One of the most severe issues speaks for all of them, and names all their linters. -/
  | several {members : List Issue} {speaker : Issue} {names : NameSet}
      (two : 2 ≤ members.length) (member : speaker ∈ members)
      (worst : ∀ other ∈ members, speaker.severity.rank ≤ other.severity.rank)
      (union : ∀ name, name ∈ names ↔ ∃ other ∈ members, name ∈ other.linters) :
      Merges members { speaker with contributors := names }

theorem merges_collapse (g : IssueGroup) : Merges g.members g.collapse := by
  by_cases single : g.rest = []
  · rw [IssueGroup.collapse_of_single single, IssueGroup.members, single]
    exact .alone g.first
  · rw [IssueGroup.collapse_of_several single]
    refine .several ?_ g.representative_mem (fun other member => ?_) fun name => ?_
    · have more := List.length_pos_iff.mpr single
      exact Nat.succ_le_succ more
    · exact IssueGroup.rank_le_of_before (g.before_representative member)
    · rw [IssueGroup.mem_contributors, IssueGroup.mem_linters]

theorem Grouped.mergeable {gs : List IssueGroup} (grouped : Grouped rules gs) {g : IssueGroup}
    (member : g ∈ gs) : Mergeable rules g.members where
  sameKey a inA b inB :=
    (grouped.homogeneous g member a inA).trans (grouped.homogeneous g member b inB).symm
  disjoint := by
    refine (grouped.disjoint g member).imp fun {a b} apart name ofA ofB => ?_
    have shares : a.sharesLinter b = true := Issue.sharesLinter_iff.mpr ⟨name, ofA, ofB⟩
    exact Bool.false_ne_true (apart.symm.trans shares)

theorem Grouped.apart {gs : List IssueGroup} (grouped : Grouped rules gs) :
    gs.Pairwise fun g h => Apart rules g.members h.members := by
  refine grouped.overlapping.imp_of_mem fun {g h} ofG ofH overlap a inG b inH same => ?_
  have sameKey : g.key = h.key := by
    rw [← grouped.homogeneous g ofG a inG, same, grouped.homogeneous h ofH b inH]
  obtain ⟨name, inLinters, inLinters'⟩ := overlap sameKey
  obtain ⟨c, memberC, ofC⟩ := IssueGroup.mem_linters.mp inLinters
  obtain ⟨d, memberD, ofD⟩ := IssueGroup.mem_linters.mp inLinters'
  exact ⟨c, memberC, d, memberD, name, ofC, ofD⟩

/-- The issues of a part, without their places. -/
def unplaced (part : List (Issue × Nat)) : List Issue :=
  part.map (·.1)

/-- Placing an issue takes the longer list apart as the groups do. -/
theorem exists_partitions_place {issues : List Issue} {parts : List (List (Issue × Nat))}
    {gs : List IssueGroup} (whole : Partitions issues parts)
    (same : parts.map unplaced = gs.map IssueGroup.members) (key : GroupKey) (issue : Issue) :
    ∃ parts', Partitions (issues ++ [issue]) parts' ∧
      parts'.map unplaced = (place key issue gs).map IssueGroup.members := by
  rcases place_cases key issue gs with ⟨front, g, back, split, -, -, placed⟩ | ⟨-, placed⟩
  · rw [split, List.map_append, List.map_cons] at same
    obtain ⟨before, rest, rfl, sameBefore, sameRest⟩ := List.map_eq_append_iff.mp same
    obtain ⟨part, after, rfl, samePart, sameAfter⟩ := List.map_eq_cons_iff.mp sameRest
    refine ⟨_, whole.join issue, ?_⟩
    have joined : unplaced (part ++ [(issue, issues.length)]) = (g.add issue).members := by
      rw [unplaced, List.map_append, IssueGroup.members_add]
      exact congrArg (· ++ [issue]) samePart
    rw [placed, List.map_append, List.map_append, List.map_cons, List.map_cons, sameBefore, joined,
      sameAfter]
  · refine ⟨_, whole.start issue, ?_⟩
    rw [placed, List.map_append, List.map_append, same]
    rfl

/-- **The groups of some issues take them apart.** -/
theorem exists_partitions_groups (rules : List MergeRule) (issues : List Issue) :
    ∃ parts, Partitions issues parts ∧
      parts.map unplaced = (groups rules issues).map IssueGroup.members := by
  induction issues using List.reverseRecOn with
  | nil => exact ⟨[], .nil, rfl⟩
  | append_singleton issues issue ih =>
    obtain ⟨parts, whole, same⟩ := ih
    rw [groups_concat]
    exact exists_partitions_place whole same _ issue

/-- **Aggregation loses nothing and merges only what it may.** Its result is a partition of the
input, part by part: the issues of a part have one key and no linter in common, parts of one key do
have a linter in common, and each part is reported as one of its most severe issues. -/
theorem apply_partition (rules : List MergeRule) (issues : List Issue) :
    ∃ parts, Partitions issues parts ∧
      (∀ part ∈ parts, Mergeable rules (unplaced part)) ∧
      (parts.Pairwise fun part other => Apart rules (unplaced part) (unplaced other)) ∧
      List.Forall₂ (fun part issue => Merges (unplaced part) issue) parts
        (apply rules true issues) := by
  have grouped := grouped_groups rules issues
  obtain ⟨parts, whole, same⟩ := exists_partitions_groups rules issues
  refine ⟨parts, whole, fun part member => ?_, ?_, ?_⟩
  · have isGroup : unplaced part ∈ (groups rules issues).map IssueGroup.members := by
      rw [← same]
      exact List.mem_map_of_mem member
    obtain ⟨g, ofGroups, members⟩ := List.mem_map.mp isGroup
    rw [← members]
    exact grouped.mergeable ofGroups
  · have apart := List.pairwise_map.mpr grouped.apart
    rw [← same] at apart
    exact List.pairwise_map.mp apart
  · have merged : List.Forall₂ Merges ((groups rules issues).map IssueGroup.members)
        (merge rules issues) := by
      rw [merge, List.forall₂_map_left_iff, List.forall₂_map_right_iff]
      exact List.forall₂_same.mpr fun g _ => merges_collapse g
    rw [← same, List.forall₂_map_left_iff] at merged
    exact merged

end Aggregation

end LintRun
