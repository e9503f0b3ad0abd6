import Mathlib.Data.List.Induction
import LintRun.Aggregation

/-!
# The groups of an aggregation

An issue goes into the first group of its key that has none of its linters, or else into a new
group. Three facts hold of the groups at any time: the members of a group have its key, no two
of them share a linter, and any two groups of one key have a linter in common. The last one is
what keeps groups of one key apart when they are collapsed and grouped again: a collapsed group
keeps its key, because the issue that speaks for it is a member, and it keeps all its linters.

A list of issues in which any two of one key share a linter is therefore left alone by
aggregation, and the result of an aggregation is such a list (`apply_idempotent`).
-/

set_option autoImplicit false

namespace LintRun

/-! ## The linters of issues and of groups -/

namespace Issue

/-- An issue that has not been merged has one linter, its own. -/
theorem linters_of_raw {issue : Issue} (raw : issue.contributors = ∅) :
    issue.linters = [issue.linter] := by
  rw [linters, raw]
  rfl

theorem exists_mem_linters (issue : Issue) : ∃ name, name ∈ issue.linters := by
  unfold linters
  split
  · exact ⟨issue.linter, List.mem_singleton_self _⟩
  · rename_i nonempty
    exact List.exists_mem_of_ne_nil _ (fun empty => nonempty (List.isEmpty_iff.mpr empty))

theorem sharesLinter_iff {a b : Issue} :
    a.sharesLinter b = true ↔ ∃ name ∈ a.linters, name ∈ b.linters := by
  simp only [sharesLinter, List.any_eq_true, List.contains_iff_mem]

/-- Merged issues have the linters that they were merged from. -/
theorem mem_linters_of_contributors {issue : Issue} {name other : String}
    (member : other ∈ issue.contributors) :
    name ∈ issue.linters ↔ name ∈ issue.contributors := by
  have nonempty : issue.contributors.isEmpty = false := by
    refine Bool.eq_false_iff.mpr fun empty => ?_
    rw [(NameSet.isEmpty_iff _).mp empty] at member
    exact NameSet.not_mem_empty _ member
  rw [linters, nonempty]
  exact Iff.rfl

end Issue

namespace IssueGroup

/-- The linters of all members. -/
def linters (g : IssueGroup) : List String :=
  g.members.flatMap (·.linters)

theorem mem_linters {g : IssueGroup} {name : String} :
    name ∈ g.linters ↔ ∃ issue ∈ g.members, name ∈ issue.linters :=
  List.mem_flatMap

theorem exists_mem_linters (g : IssueGroup) : ∃ name, name ∈ g.linters := by
  obtain ⟨name, member⟩ := g.first.exists_mem_linters
  exact ⟨name, mem_linters.mpr ⟨g.first, List.mem_cons_self, member⟩⟩

theorem sharesLinter_iff {g : IssueGroup} {issue : Issue} :
    g.sharesLinter issue = true ↔ ∃ name ∈ g.linters, name ∈ issue.linters := by
  simp only [sharesLinter, List.any_eq_true, Issue.sharesLinter_iff, mem_linters]
  constructor
  · rintro ⟨member, inGroup, name, ofMember, ofIssue⟩
    exact ⟨name, ⟨member, inGroup, ofMember⟩, ofIssue⟩
  · rintro ⟨name, ⟨member, inGroup, ofMember⟩, ofIssue⟩
    exact ⟨member, inGroup, name, ofMember, ofIssue⟩

theorem admits_iff {g : IssueGroup} {key : GroupKey} {issue : Issue} :
    g.admits key issue = true ↔ g.key = key ∧ g.sharesLinter issue = false := by
  simp only [admits, Bool.and_eq_true, beq_iff_eq, Bool.not_eq_true']

@[simp] theorem key_add (g : IssueGroup) (issue : Issue) : (g.add issue).key = g.key :=
  rfl

@[simp] theorem members_add (g : IssueGroup) (issue : Issue) :
    (g.add issue).members = g.members ++ [issue] :=
  rfl

theorem linters_add (g : IssueGroup) (issue : Issue) :
    (g.add issue).linters = g.linters ++ issue.linters := by
  simp only [linters, members_add, List.flatMap_append, List.flatMap_singleton]

end IssueGroup

/-! ## The issue that speaks for a group -/

namespace IssueGroup

instance : Std.TransCmp before :=
  inferInstanceAs <| Std.TransCmp <|
    compareLex (compareOn fun issue : Issue => issue.severity.rank)
      (compareLex (compareOn fun issue : Issue => if issue.col = 0 then 1 else 0)
        (compareOn fun issue : Issue => issue.linter))

/-- Issues of different linters never tie. -/
theorem linter_eq_of_before {a b : Issue} (tie : before a b = .eq) : a.linter = b.linter := by
  simp only [before, Ordering.then_eq_eq] at tie
  exact Std.LawfulEqOrd.eq_of_compare tie.2.2

theorem rank_le_of_before {a b : Issue} (le : (before a b).isLE = true) :
    a.severity.rank ≤ b.severity.rank := by
  simp only [before, Ordering.isLE_then_iff_and] at le
  exact Nat.isLE_compare.mp le.1

/-- Picking the better of two, from the first issue to the last, ends with one of the issues,
and with one that comes before all of them. -/
theorem foldl_before (rest : List Issue) (first : Issue) :
    let best := rest.foldl (fun best issue => if before issue best = .lt then issue else best) first
    best ∈ first :: rest ∧ ∀ issue ∈ first :: rest, (before best issue).isLE = true := by
  induction rest generalizing first with
  | nil =>
    refine ⟨List.mem_singleton_self first, fun issue member => ?_⟩
    rw [List.mem_singleton.mp member]
    exact Std.ReflCmp.isLE_rfl
  | cons next rest ih =>
    simp only [List.foldl_cons]
    by_cases less : before next first = .lt
    · obtain ⟨member, least⟩ := ih next
      simp only [if_pos less]
      refine ⟨List.mem_cons_of_mem _ member, fun issue inList => ?_⟩
      rcases List.mem_cons.mp inList with rfl | later
      · exact Std.TransCmp.isLE_trans (least next List.mem_cons_self) (by rw [less]; rfl)
      · exact least issue later
    · obtain ⟨member, least⟩ := ih first
      have ge : (before first next).isLE = true := by
        have swapped : before first next = (before next first).swap := Std.OrientedCmp.eq_swap
        rw [swapped, Ordering.isLE_swap]
        exact Ordering.isGE_iff_ne_lt.mpr less
      simp only [if_neg less]
      refine ⟨?_, fun issue inList => ?_⟩
      · rcases List.mem_cons.mp member with same | later
        · exact List.mem_cons.mpr (.inl same)
        · exact List.mem_cons_of_mem _ (List.mem_cons_of_mem _ later)
      · rcases List.mem_cons.mp inList with rfl | later
        · exact least issue List.mem_cons_self
        · rcases List.mem_cons.mp later with rfl | last
          · exact Std.TransCmp.isLE_trans (least first List.mem_cons_self) ge
          · exact least issue (List.mem_cons_of_mem _ last)

/-- The issue that speaks for a group is one of its members. -/
theorem representative_mem (g : IssueGroup) : g.representative ∈ g.members :=
  (foldl_before g.rest g.first).1

theorem before_representative (g : IssueGroup) {issue : Issue} (member : issue ∈ g.members) :
    (before g.representative issue).isLE = true :=
  (foldl_before g.rest g.first).2 issue member

/-- The worst of some severities is one of them, and none of them is worse. -/
theorem foldl_worse (rest : List Issue) (severity : Severity) :
    let worst := rest.foldl (fun worst issue => worst.worse issue.severity) severity
    (worst = severity ∨ ∃ issue ∈ rest, worst = issue.severity) ∧
      worst.rank ≤ severity.rank ∧ ∀ issue ∈ rest, worst.rank ≤ issue.severity.rank := by
  induction rest generalizing severity with
  | nil => exact ⟨.inl rfl, Nat.le_refl _, fun _ member => absurd member List.not_mem_nil⟩
  | cons next rest ih =>
    obtain ⟨present, below, least⟩ := ih (severity.worse next.severity)
    have rank := severity.rank_worse next.severity
    simp only [List.foldl_cons]
    refine ⟨?_, by omega, fun issue member => ?_⟩
    · rcases present with same | ⟨issue, member, same⟩
      · rcases severity.worse_eq next.severity with left | right
        · exact .inl (same.trans left)
        · exact .inr ⟨next, List.mem_cons_self, same.trans right⟩
      · exact .inr ⟨issue, List.mem_cons_of_mem _ member, same⟩
    · rcases List.mem_cons.mp member with rfl | later
      · omega
      · exact least issue later

theorem severity_mem (g : IssueGroup) : ∃ issue ∈ g.members, g.severity = issue.severity := by
  rcases (foldl_worse g.rest g.first.severity).1 with same | ⟨issue, member, same⟩
  · exact ⟨g.first, List.mem_cons_self, same⟩
  · exact ⟨issue, List.mem_cons_of_mem _ member, same⟩

theorem rank_severity_le (g : IssueGroup) {issue : Issue} (member : issue ∈ g.members) :
    g.severity.rank ≤ issue.severity.rank := by
  obtain ⟨-, ofFirst, ofRest⟩ := foldl_worse g.rest g.first.severity
  rcases List.mem_cons.mp member with rfl | later
  · exact ofFirst
  · exact ofRest issue later

/-- The issue that speaks for a group has the greatest severity in it. -/
theorem severity_eq_representative (g : IssueGroup) :
    g.severity = g.representative.severity := by
  obtain ⟨worst, member, same⟩ := g.severity_mem
  have le : g.representative.severity.rank ≤ g.severity.rank := by
    rw [same]
    exact rank_le_of_before (g.before_representative member)
  exact Severity.rank_injective
    (Nat.le_antisymm (g.rank_severity_le g.representative_mem) le)

/-! ## Collapsing a group -/

theorem mem_contributors {g : IssueGroup} {name : String} :
    name ∈ g.contributors ↔ name ∈ g.linters :=
  NameSet.mem_ofList name g.linters

theorem collapse_of_single {g : IssueGroup} (single : g.rest = []) : g.collapse = g.first :=
  if_pos single

theorem collapse_of_several {g : IssueGroup} (several : g.rest ≠ []) :
    g.collapse = { g.representative with contributors := g.contributors } := by
  rw [collapse, if_neg several, severity_eq_representative]

/-- Collapsing loses no linter and adds none. -/
theorem mem_linters_collapse {g : IssueGroup} {name : String} :
    name ∈ g.collapse.linters ↔ name ∈ g.linters := by
  by_cases single : g.rest = []
  · rw [collapse_of_single single, mem_linters, members, single]
    simp only [List.mem_singleton, exists_eq_left]
  · obtain ⟨other, ofGroup⟩ := g.exists_mem_linters
    have named : other ∈ g.contributors := mem_contributors.mpr ofGroup
    rw [collapse_of_several single, Issue.mem_linters_of_contributors named]
    exact mem_contributors

end IssueGroup

namespace Aggregation

variable {rules : List MergeRule}

/-- The key of a group survives its collapse: what the key is made of comes from one member. -/
theorem keyOf_collapse {g : IssueGroup}
    (homogeneous : ∀ issue ∈ g.members, keyOf rules issue = g.key) :
    keyOf rules g.collapse = g.key := by
  by_cases single : g.rest = []
  · rw [IssueGroup.collapse_of_single single]
    exact homogeneous g.first List.mem_cons_self
  · rw [IssueGroup.collapse_of_several single]
    exact homogeneous g.representative g.representative_mem

/-! ## Putting an issue into its group -/

/-- An issue joins the first group that admits it, or else starts a group at the end. -/
theorem place_cases (key : GroupKey) (issue : Issue) (gs : List IssueGroup) :
    (∃ front g back, gs = front ++ g :: back ∧ (∀ h ∈ front, h.admits key issue = false) ∧
        g.admits key issue = true ∧ place key issue gs = front ++ g.add issue :: back) ∨
      (∀ g ∈ gs, g.admits key issue = false) ∧
        place key issue gs = gs ++ [{ key, first := issue }] := by
  induction gs with
  | nil => exact .inr ⟨fun _ member => absurd member List.not_mem_nil, rfl⟩
  | cons g rest ih =>
    by_cases admitted : g.admits key issue = true
    · refine .inl ⟨[], g, rest, rfl, fun _ member => absurd member List.not_mem_nil, admitted, ?_⟩
      rw [place, if_pos admitted]
      rfl
    · have refused : g.admits key issue = false := Bool.eq_false_iff.mpr admitted
      rw [place, if_neg admitted]
      rcases ih with ⟨front, h, back, split, before, here, placed⟩ | ⟨nowhere, placed⟩
      · refine .inl ⟨g :: front, h, back, by rw [split]; rfl, ?_, here, by rw [placed]; rfl⟩
        exact List.forall_mem_cons.mpr ⟨refused, before⟩
      · exact .inr ⟨List.forall_mem_cons.mpr ⟨refused, nowhere⟩, by rw [placed]; rfl⟩

theorem groups_concat (rules : List MergeRule) (issues : List Issue) (issue : Issue) :
    groups rules (issues ++ [issue]) = place (keyOf rules issue) issue (groups rules issues) := by
  rw [groups, List.foldl_append]
  rfl

/-- What holds of the groups at any time. -/
structure Grouped (rules : List MergeRule) (gs : List IssueGroup) : Prop where
  /-- The members of a group have its key. -/
  homogeneous : ∀ g ∈ gs, ∀ issue ∈ g.members, keyOf rules issue = g.key
  /-- No two members of a group have a linter in common. -/
  disjoint : ∀ g ∈ gs, g.members.Pairwise fun a b => a.sharesLinter b = false
  /-- Any two groups of one key have a linter in common. -/
  overlapping : gs.Pairwise fun g h => g.key = h.key → ∃ name ∈ g.linters, name ∈ h.linters

theorem Grouped.nil : Grouped rules [] where
  homogeneous := fun _ member => absurd member List.not_mem_nil
  disjoint := fun _ member => absurd member List.not_mem_nil
  overlapping := List.Pairwise.nil

theorem mem_replaced {front back : List IssueGroup} {g h new : IssueGroup}
    (member : h ∈ front ++ new :: back) : h = new ∨ h ∈ front ++ g :: back := by
  rcases List.mem_append.mp member with left | right
  · exact .inr (List.mem_append_left _ left)
  · rcases List.mem_cons.mp right with same | later
    · exact .inl same
    · exact .inr (List.mem_append_right _ (List.mem_cons_of_mem _ later))

/-- A group keeps what holds of it when an issue joins that it admits. -/
theorem Grouped.join {front back : List IssueGroup} {g : IssueGroup} {issue : Issue}
    (grouped : Grouped rules (front ++ g :: back))
    (admitted : g.admits (keyOf rules issue) issue = true) :
    Grouped rules (front ++ g.add issue :: back) := by
  obtain ⟨sameKey, apart⟩ := IssueGroup.admits_iff.mp admitted
  have isOld : g ∈ front ++ g :: back := List.mem_append_right _ List.mem_cons_self
  refine ⟨fun h member => ?_, fun h member => ?_, ?_⟩
  · rcases mem_replaced (g := g) member with rfl | old
    · intro other inGroup
      rw [IssueGroup.members_add] at inGroup
      rcases List.mem_append.mp inGroup with before | last
      · exact grouped.homogeneous g isOld other before
      · rw [List.mem_singleton.mp last]
        exact sameKey.symm
    · exact grouped.homogeneous h old
  · rcases mem_replaced (g := g) member with rfl | old
    · rw [IssueGroup.members_add, List.pairwise_append]
      refine ⟨grouped.disjoint g isOld, List.pairwise_singleton _ _, fun a inGroup b last => ?_⟩
      rw [List.mem_singleton.mp last]
      exact Bool.eq_false_iff.mpr (List.any_eq_false.mp apart a inGroup)
    · exact grouped.disjoint h old
  · have pairs := grouped.overlapping
    rw [List.pairwise_append, List.pairwise_cons] at pairs ⊢
    obtain ⟨inFront, ⟨ofGroup, inBack⟩, across⟩ := pairs
    simp only [IssueGroup.linters_add, IssueGroup.key_add, List.mem_append]
    refine ⟨inFront, ⟨fun h member same => ?_, inBack⟩, fun f inFront h member same => ?_⟩
    · obtain ⟨name, ofG, ofH⟩ := ofGroup h member same
      exact ⟨name, .inl ofG, ofH⟩
    · rcases List.mem_cons.mp member with rfl | later
      · obtain ⟨name, ofF, ofG⟩ := across f inFront g List.mem_cons_self same
        exact ⟨name, ofF, by rw [IssueGroup.linters_add]; exact List.mem_append_left _ ofG⟩
      · exact across f inFront h (List.mem_cons_of_mem _ later) same

/-- An issue that no group admits shares a linter with every group of its key. -/
theorem Grouped.start {gs : List IssueGroup} {issue : Issue} (grouped : Grouped rules gs)
    (refused : ∀ g ∈ gs, g.admits (keyOf rules issue) issue = false) :
    Grouped rules (gs ++ [{ key := keyOf rules issue, first := issue }]) := by
  refine ⟨fun g member => ?_, fun g member => ?_, ?_⟩
  · rcases List.mem_append.mp member with old | new
    · exact grouped.homogeneous g old
    · rw [List.mem_singleton.mp new]
      intro other alone
      rw [List.mem_singleton.mp alone]
  · rcases List.mem_append.mp member with old | new
    · exact grouped.disjoint g old
    · rw [List.mem_singleton.mp new]
      exact List.pairwise_singleton _ _
  · refine List.pairwise_append.mpr ⟨grouped.overlapping, List.pairwise_singleton _ _, ?_⟩
    intro g old h new sameKey
    rw [List.mem_singleton.mp new] at sameKey ⊢
    -- A group of the key that has none of the linters would have admitted the issue.
    have shares : g.sharesLinter issue = true := by
      by_contra apart
      have admitted := IssueGroup.admits_iff.mpr ⟨sameKey, Bool.eq_false_iff.mpr apart⟩
      exact Bool.false_ne_true ((refused g old).symm.trans admitted)
    obtain ⟨name, ofGroup, ofIssue⟩ := IssueGroup.sharesLinter_iff.mp shares
    exact ⟨name, ofGroup, IssueGroup.mem_linters.mpr ⟨issue, List.mem_cons_self, ofIssue⟩⟩

theorem Grouped.place {gs : List IssueGroup} (grouped : Grouped rules gs) (issue : Issue) :
    Grouped rules (place (keyOf rules issue) issue gs) := by
  rcases place_cases (keyOf rules issue) issue gs with
    ⟨front, g, back, split, -, admitted, placed⟩ | ⟨refused, placed⟩
  · rw [placed]
    exact Grouped.join (split ▸ grouped) admitted
  · rw [placed]
    exact grouped.start refused

/-- **The groups of any issues** have all three properties. -/
theorem grouped_groups (rules : List MergeRule) (issues : List Issue) :
    Grouped rules (groups rules issues) := by
  induction issues using List.reverseRecOn with
  | nil => exact Grouped.nil
  | append_singleton issues issue ih =>
    rw [groups_concat]
    exact ih.place issue

theorem members_place_perm (key : GroupKey) (issue : Issue) (gs : List IssueGroup) :
    ((place key issue gs).flatMap IssueGroup.members).Perm
      (gs.flatMap IssueGroup.members ++ [issue]) := by
  rcases place_cases key issue gs with
    ⟨front, g, back, split, -, -, placed⟩ | ⟨-, placed⟩
  · rw [placed, split]
    simp only [List.flatMap_append, List.flatMap_cons, IssueGroup.members_add, List.append_assoc]
    have last : ([issue] ++ back.flatMap IssueGroup.members).Perm
        (back.flatMap IssueGroup.members ++ [issue]) := List.perm_append_comm
    exact (last.append_left _).append_left _
  · rw [placed, List.flatMap_append]
    exact .of_eq rfl

/-- **Grouping loses no issue and makes none up.** -/
theorem members_groups_perm (rules : List MergeRule) (issues : List Issue) :
    ((groups rules issues).flatMap IssueGroup.members).Perm issues := by
  induction issues using List.reverseRecOn with
  | nil => exact .nil
  | append_singleton issues issue ih =>
    rw [groups_concat]
    exact (members_place_perm _ issue _).trans (ih.append_right [issue])

theorem mem_of_mem_groups {issues : List Issue} {g : IssueGroup} {issue : Issue}
    (ofGroups : g ∈ groups rules issues) (member : issue ∈ g.members) : issue ∈ issues :=
  (members_groups_perm rules issues).mem_iff.mp (List.mem_flatMap.mpr ⟨g, ofGroups, member⟩)

theorem length_groups_le (rules : List MergeRule) (issues : List Issue) :
    (groups rules issues).length ≤ issues.length := by
  have total := (members_groups_perm rules issues).length_eq
  rw [List.length_flatMap] at total
  rw [← total]
  have atLeastOne : ∀ gs : List IssueGroup,
      gs.length ≤ (gs.map fun g => g.members.length).sum := by
    intro gs
    induction gs with
    | nil => exact Nat.le_refl _
    | cons g rest ih =>
      have nonempty : 1 ≤ g.members.length := Nat.succ_le_succ (Nat.zero_le _)
      simp only [List.length_cons, List.map_cons, List.sum_cons]
      omega
  exact atLeastOne _

/-! ## Aggregating twice -/

/-- Issues of which any two of one key share a linter stay apart. -/
theorem groups_of_overlapping {issues : List Issue}
    (overlapping : issues.Pairwise fun a b =>
      keyOf rules a = keyOf rules b → a.sharesLinter b = true) :
    groups rules issues = issues.map fun issue => { key := keyOf rules issue, first := issue } := by
  induction issues using List.reverseRecOn with
  | nil => rfl
  | append_singleton issues issue ih =>
    obtain ⟨before, -, last⟩ := List.pairwise_append.mp overlapping
    rw [groups_concat, ih before, List.map_append]
    rcases place_cases (keyOf rules issue) issue
        (issues.map fun issue => { key := keyOf rules issue, first := issue }) with
      ⟨front, g, back, split, -, admitted, -⟩ | ⟨-, placed⟩
    -- A group that admits the issue is another issue, with which it shares a linter after all.
    · have member : g ∈ issues.map fun issue => { key := keyOf rules issue, first := issue } := by
        rw [split]
        exact List.mem_append_right _ List.mem_cons_self
      obtain ⟨other, inIssues, rfl⟩ := List.mem_map.mp member
      obtain ⟨sameKey, apart⟩ := IssueGroup.admits_iff.mp admitted
      have shares := last other inIssues issue (List.mem_singleton_self _) sameKey
      have apart' : other.sharesLinter issue = false := by
        simpa only [IssueGroup.sharesLinter, IssueGroup.members, List.any_cons, List.any_nil,
          Bool.or_false] using apart
      exact absurd (shares.symm.trans apart') (by decide)
    · exact placed

theorem merge_of_overlapping {issues : List Issue}
    (overlapping : issues.Pairwise fun a b =>
      keyOf rules a = keyOf rules b → a.sharesLinter b = true) :
    merge rules issues = issues := by
  rw [merge, groups_of_overlapping overlapping, List.map_map]
  exact List.map_id issues

/-- Any two issues of one key in the result of an aggregation share a linter. -/
theorem merge_overlapping (rules : List MergeRule) (issues : List Issue) :
    (merge rules issues).Pairwise fun a b =>
      keyOf rules a = keyOf rules b → a.sharesLinter b = true := by
  have grouped := grouped_groups rules issues
  refine List.pairwise_map.mpr (grouped.overlapping.imp_of_mem fun {g h} ofG ofH overlap same => ?_)
  rw [keyOf_collapse (grouped.homogeneous g ofG),
    keyOf_collapse (grouped.homogeneous h ofH)] at same
  obtain ⟨name, inG, inH⟩ := overlap same
  exact Issue.sharesLinter_iff.mpr ⟨name, IssueGroup.mem_linters_collapse.mpr inG,
    IssueGroup.mem_linters_collapse.mpr inH⟩

/-- **Aggregation is idempotent**: its result is left alone by a second pass with the same
rules, whatever issues it was given. -/
theorem apply_idempotent (rules : List MergeRule) (enabled : Bool) (issues : List Issue) :
    apply rules enabled (apply rules enabled issues) = apply rules enabled issues := by
  cases enabled with
  | false => rfl
  | true => exact merge_of_overlapping (merge_overlapping rules issues)

/-! ## Two issues -/

/-- Two issues are merged when they have one key and no linter in common. -/
theorem merge_pair (rules : List MergeRule) (a b : Issue) : merge rules [a, b] =
    if keyOf rules a = keyOf rules b ∧ a.sharesLinter b = false then
      [IssueGroup.collapse { key := keyOf rules a, first := a, rest := [b] }]
    else [a, b] := by
  let alone : IssueGroup := { key := keyOf rules a, first := a }
  have placed : groups rules [a, b] =
      if alone.admits (keyOf rules b) b then [alone.add b]
      else [alone, { key := keyOf rules b, first := b }] := rfl
  have admits_iff : alone.admits (keyOf rules b) b = true ↔
      keyOf rules a = keyOf rules b ∧ a.sharesLinter b = false := by
    rw [IssueGroup.admits_iff, IssueGroup.sharesLinter, IssueGroup.members, List.any_cons,
      List.any_nil, Bool.or_false]
  rw [merge, placed]
  simp only [admits_iff]
  split <;> rfl

end Aggregation

end LintRun
