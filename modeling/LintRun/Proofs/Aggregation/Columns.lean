import Mathlib.Data.List.Nodup
import LintRun.Proofs.Aggregation.Groups
import LintRun.Proofs.Lists

/-!
# The columns of an aggregation

An issue is raw when it has not been merged, so that its one linter is its own. Raw issues of one
key are grouped as in a table: every linter fills a row of its own from the left, and the groups
are the columns. So the first group that has none of an issue's linter is the one after all that
have it, and the `i`-th issue of every linter stands in the `i`-th group, however the issues of
different linters are mixed (`columns_groups`).

No two issues of a column are of one linter, so the issue that speaks for a column does not depend
on the order in which the others came. What the issues of a key are merged into is therefore
determined by their rows (`filter_merge`), and aggregation gives the same issues for any two lists
with the same rows.
-/

set_option autoImplicit false

namespace LintRun

namespace IssueGroup

/-- The members of a group that are of one linter. -/
def ofLinter (g : IssueGroup) (name : String) : List Issue :=
  g.members.filter (·.linter = name)

/-- A group of some issues, if there are any. -/
def ofMembers? (key : GroupKey) : List Issue → Option IssueGroup
  | [] => none
  | first :: rest => some { key, first, rest }

theorem ofLinter_add (g : IssueGroup) (issue : Issue) (name : String) :
    (g.add issue).ofLinter name =
      g.ofLinter name ++ if issue.linter = name then [issue] else [] :=
  Lists.filter_concat _ g.members issue

/-- A group of raw issues shares a linter with a raw issue when it has a member of that
linter. -/
theorem sharesLinter_raw {g : IssueGroup} {issue : Issue}
    (raw : ∀ other ∈ g.members, other.contributors = ∅) (rawIssue : issue.contributors = ∅) :
    g.sharesLinter issue = true ↔ g.ofLinter issue.linter ≠ [] := by
  simp only [sharesLinter, List.any_eq_true, Issue.sharesLinter_iff, ofLinter, ne_eq,
    List.filter_eq_nil_iff, decide_eq_true_eq, not_forall, not_not, exists_prop]
  refine exists_congr fun other => and_congr_right fun member => ?_
  rw [Issue.linters_of_raw (raw other member), Issue.linters_of_raw rawIssue]
  simp only [List.mem_singleton, exists_eq_left]

/-- Groups with the same members, no two of one linter, are collapsed alike, whichever member
came first. -/
theorem collapse_congr {g h : IssueGroup} (perm : g.members.Perm h.members)
    (distinct : (g.members.map (·.linter)).Nodup) : g.collapse = h.collapse := by
  have sameLength : g.rest.length = h.rest.length :=
    Nat.succ.inj perm.length_eq
  by_cases single : g.rest = []
  · have single' : h.rest = [] := by
      rw [← List.length_eq_zero_iff, ← sameLength, single]
      rfl
    rw [collapse_of_single single, collapse_of_single single']
    rw [members, members, single, single'] at perm
    exact List.singleton_perm_singleton.mp perm
  · have several : h.rest ≠ [] := by
      intro single'
      rw [single', List.length_nil, List.length_eq_zero_iff] at sameLength
      exact single sameLength
    have inG : h.representative ∈ g.members := perm.mem_iff.mpr h.representative_mem
    have inH : g.representative ∈ h.members := perm.mem_iff.mp g.representative_mem
    have tie : before g.representative h.representative = .eq :=
      Std.OrientedCmp.isLE_antisymm (g.before_representative inG) (h.before_representative inH)
    have speaker : g.representative = h.representative :=
      List.inj_on_of_nodup_map distinct g.representative_mem inG (linter_eq_of_before tie)
    have names : g.contributors = h.contributors := by
      refine NameSet.ext fun name => ?_
      rw [mem_contributors, mem_contributors, mem_linters, mem_linters]
      exact exists_congr fun issue => and_congr_left fun _ => perm.mem_iff
    rw [collapse_of_several single, collapse_of_several several, speaker, names]

end IssueGroup

namespace Aggregation

variable {rules : List MergeRule}

/-! ## Rows and columns -/

/-- The issues of one linter under one key, in their order. -/
def row (rules : List MergeRule) (issues : List Issue) (key : GroupKey) (name : String) :
    List Issue :=
  issues.filter fun issue => keyOf rules issue = key ∧ issue.linter = name

/-- The linters of some raw issues, each one once. -/
def linterNames (issues : List Issue) : List String :=
  (NameSet.ofList (issues.map (·.linter))).names

/-- The issues under one key that have the same place in their rows. -/
def column (rules : List MergeRule) (issues : List Issue) (key : GroupKey) (i : Nat) :
    List Issue :=
  (linterNames issues).filterMap fun name => (row rules issues key name)[i]?

/-- What the columns under one key are reported as. -/
def findings (rules : List MergeRule) (issues : List Issue) (key : GroupKey) : List Issue :=
  (List.range issues.length).filterMap fun i =>
    (IssueGroup.ofMembers? key (column rules issues key i)).map IssueGroup.collapse

/-- The groups of one key. -/
def ofKey (gs : List IssueGroup) (key : GroupKey) : List IssueGroup :=
  gs.filter (·.key = key)

/-- The members of one linter in the group at a place, none if there is no such group. -/
def cell (gs : List IssueGroup) (name : String) (i : Nat) : List Issue :=
  gs[i]?.toList.flatMap (·.ofLinter name)

theorem row_concat (rules : List MergeRule) (issues : List Issue) (issue : Issue)
    (key : GroupKey) (name : String) :
    row rules (issues ++ [issue]) key name =
      row rules issues key name ++
        if keyOf rules issue = key ∧ issue.linter = name then [issue] else [] :=
  Lists.filter_concat _ issues issue

theorem ofKey_place_same (key : GroupKey) (issue : Issue) (gs : List IssueGroup) :
    ofKey (place key issue gs) key = place key issue (ofKey gs key) := by
  induction gs with
  | nil => simp [ofKey, place]
  | cons g rest ih =>
    by_cases sameKey : g.key = key
    · have kept : ofKey (g :: rest) key = g :: ofKey rest key := by
        simp [ofKey, sameKey]
      rw [kept, place, place]
      split
      · simp [ofKey, sameKey]
      · rw [← ih]
        simp [ofKey, sameKey]
    · have dropped : ofKey (g :: rest) key = ofKey rest key := by
        simp [ofKey, sameKey]
      have refused : ¬ g.admits key issue = true := fun admitted =>
        sameKey (IssueGroup.admits_iff.mp admitted).1
      rw [dropped, ← ih, place, if_neg refused]
      simp [ofKey, sameKey]

theorem ofKey_place_other {key other : GroupKey} (differ : key ≠ other) (issue : Issue)
    (gs : List IssueGroup) : ofKey (place key issue gs) other = ofKey gs other := by
  induction gs with
  | nil => simp [ofKey, place, differ]
  | cons g rest ih =>
    rw [place]
    split
    · rename_i admitted
      have ofOther : g.key ≠ other := by
        rw [(IssueGroup.admits_iff.mp admitted).1]
        exact differ
      simp [ofKey, ofOther]
    · simp only [ofKey, List.filter_cons] at ih ⊢
      rw [ih]

/-! ## Where an issue is put

In the groups of one key, an issue goes to the place after the last group that has its linter;
this is where its row ends. -/

/-- Placing an issue among groups of its key adds it to the cell of its linter at one place. All
groups before that place share a linter with the issue, and the group there, if there is one,
does not. -/
theorem cell_place {gs : List IssueGroup} {key : GroupKey} (issue : Issue)
    (sameKey : ∀ g ∈ gs, g.key = key) :
    ∃ n, (∀ i < n, ∃ g, gs[i]? = some g ∧ g.sharesLinter issue = true) ∧
      (∀ g, gs[n]? = some g → g.sharesLinter issue = false) ∧
      ∀ name i, cell (place key issue gs) name i =
        cell gs name i ++ if i = n ∧ issue.linter = name then [issue] else [] := by
  have shares : ∀ g ∈ gs, g.admits key issue = false → g.sharesLinter issue = true := by
    intro g member refused
    by_contra apart
    have admitted := IssueGroup.admits_iff.mpr ⟨sameKey g member, Bool.eq_false_iff.mpr apart⟩
    exact Bool.false_ne_true (refused.symm.trans admitted)
  rcases place_cases key issue gs with
    ⟨front, g, back, split, before, admitted, placed⟩ | ⟨refused, placed⟩
  · have here : gs[front.length]? = some g := by
      rw [split, List.getElem?_append_right (Nat.le_refl _), Nat.sub_self]
      rfl
    refine ⟨front.length, fun i less => ?_, fun h at_n => ?_, fun name i => ?_⟩
    · have at_i : gs[i]? = some front[i] := by
        rw [split, List.getElem?_append_left less, List.getElem?_eq_getElem less]
      exact ⟨front[i], at_i,
        shares _ (List.mem_of_getElem? at_i) (before _ (List.getElem_mem less))⟩
    · rw [here] at at_n
      rw [← Option.some.inj at_n]
      exact (IssueGroup.admits_iff.mp admitted).2
    · have replaced : place key issue gs = gs.set front.length (g.add issue) := by
        rw [placed, split, List.set_append_right _ _ (Nat.le_refl _), Nat.sub_self]
        rfl
      rw [cell, cell, replaced, List.getElem?_set]
      by_cases at_n : front.length = i
      · subst at_n
        have inside : front.length < gs.length := (List.getElem?_eq_some_iff.mp here).1
        rw [if_pos rfl, if_pos inside, here]
        simp only [Option.toList_some, List.flatMap_singleton, IssueGroup.ofLinter_add, true_and]
      · rw [if_neg at_n, if_neg (fun both => at_n both.1.symm), List.append_nil]
  · refine ⟨gs.length, fun i less => ?_, fun h at_n => ?_, fun name i => ?_⟩
    · have at_i := List.getElem?_eq_getElem less
      exact ⟨gs[i], at_i, shares _ (List.getElem_mem less) (refused _ (List.getElem_mem less))⟩
    · rw [List.getElem?_eq_none (Nat.le_refl _)] at at_n
      cases at_n
    · rw [cell, cell, placed, Lists.toList_getElem?_concat, List.flatMap_append]
      by_cases last : i = gs.length
      · rw [if_pos last]
        simp [last, IssueGroup.ofLinter, IssueGroup.members, List.filter_singleton]
      · rw [if_neg last, if_neg (fun both => last both.1)]
        rfl

/-- The groups of a key are the columns of some rows: the cell of a linter at a place holds what
stands there in its row. -/
def Columns (gs : List IssueGroup) (rows : String → List Issue) : Prop :=
  ∀ name i, cell gs name i = (rows name)[i]?.toList

/-- A raw issue is put where the row of its linter ends, and so prolongs this row. -/
theorem Columns.place {gs : List IssueGroup} {rows : String → List Issue} {key : GroupKey}
    {issue : Issue} (columns : Columns gs rows) (sameKey : ∀ g ∈ gs, g.key = key)
    (raw : ∀ g ∈ gs, ∀ other ∈ g.members, other.contributors = ∅)
    (rawIssue : issue.contributors = ∅) :
    Columns (place key issue gs) fun name =>
      rows name ++ if issue.linter = name then [issue] else [] := by
  obtain ⟨n, before, there, cells⟩ := cell_place issue sameKey
  -- The linter is in the group at a place exactly if its row goes that far.
  have occupied : ∀ i g, gs[i]? = some g →
      (g.sharesLinter issue = true ↔ i < (rows issue.linter).length) := by
    intro i g at_i
    have ofRow := columns issue.linter i
    rw [cell, at_i, Option.toList_some, List.flatMap_singleton] at ofRow
    rw [IssueGroup.sharesLinter_raw (raw g (List.mem_of_getElem? at_i)) rawIssue, ofRow]
    simp
  have rowEnd : (rows issue.linter).length = n := by
    refine Nat.le_antisymm (Nat.not_lt.mp fun more => ?_) (Nat.not_lt.mp fun less => ?_)
    · have ofRow := columns issue.linter n
      rw [List.getElem?_eq_getElem more] at ofRow
      cases at_n : gs[n]? with
      | none =>
        rw [cell, at_n] at ofRow
        cases ofRow
      | some g =>
        exact Bool.false_ne_true ((there g at_n).symm.trans ((occupied n g at_n).mpr more))
    · obtain ⟨g, at_end, shares⟩ := before _ less
      exact Nat.lt_irrefl _ ((occupied _ g at_end).mp shares)
  intro name i
  show _ = (rows name ++ if issue.linter = name then [issue] else [])[i]?.toList
  rw [cells, columns name i]
  by_cases here : issue.linter = name
  · subst here
    rw [if_pos rfl, Lists.toList_getElem?_concat, rowEnd]
    simp only [and_true]
  · rw [if_neg here, if_neg (fun both => here both.2), List.append_nil, List.append_nil]

/-- **The groups of raw issues under a key are the columns of the rows of their linters.** -/
theorem columns_groups {issues : List Issue} (raw : ∀ issue ∈ issues, issue.contributors = ∅)
    (key : GroupKey) :
    Columns (ofKey (groups rules issues) key) (row rules issues key) := by
  induction issues using List.reverseRecOn with
  | nil => exact fun _ _ => rfl
  | append_singleton issues issue ih =>
    obtain ⟨rawBefore, rawIssue⟩ := List.forall_mem_append.mp raw
    have rawIssue := rawIssue issue (List.mem_singleton_self issue)
    have ih := ih rawBefore
    rw [groups_concat]
    by_cases sameKey : keyOf rules issue = key
    · have rows : row rules (issues ++ [issue]) key = fun name =>
          row rules issues key name ++ if issue.linter = name then [issue] else [] := by
        funext name
        rw [row_concat]
        simp only [sameKey, true_and]
      rw [rows, sameKey, ofKey_place_same]
      refine ih.place (fun g member => ?_) (fun g member other inGroup => ?_) rawIssue
      · exact of_decide_eq_true (List.mem_filter.mp member).2
      · exact rawBefore other (mem_of_mem_groups (List.mem_filter.mp member).1 inGroup)
    · have rows : row rules (issues ++ [issue]) key = row rules issues key := by
        funext name
        rw [row_concat, if_neg (fun both => sameKey both.1), List.append_nil]
      rw [rows, ofKey_place_other sameKey]
      exact ih

/-! ## What the issues of a key are merged into -/

theorem filter_column (issues : List Issue) (key : GroupKey) (i : Nat) (name : String) :
    (column rules issues key i).filter (·.linter = name) =
      (row rules issues key name)[i]?.toList := by
  have faithful : ∀ name issue, (row rules issues key name)[i]? = some issue →
      issue.linter = name := by
    intro name issue there
    have inRow := List.mem_of_getElem? there
    exact (of_decide_eq_true (List.mem_filter.mp inRow).2).2
  have distinct : (linterNames issues).Nodup :=
    (NameSet.ofList _).ascending.imp String.ne_of_lt
  rw [column, Lists.filter_filterMap_of_class faithful distinct]
  split
  · rfl
  · rename_i unknown
    cases there : (row rules issues key name)[i]? with
    | none => rfl
    | some issue =>
      have inRow := List.mem_of_getElem? there
      refine absurd ((NameSet.mem_ofList _ _).mpr ?_) unknown
      rw [← faithful name issue there]
      exact List.mem_map_of_mem (List.mem_of_mem_filter inRow)

/-- The linters of raw issues that share none are different. -/
theorem nodup_linters {issues : List Issue} (raw : ∀ issue ∈ issues, issue.contributors = ∅)
    (disjoint : issues.Pairwise fun a b => a.sharesLinter b = false) :
    (issues.map (·.linter)).Nodup := by
  refine List.pairwise_map.mpr (disjoint.imp_of_mem fun {a b} ofA ofB apart same => ?_)
  refine Bool.false_ne_true (apart.symm.trans (Issue.sharesLinter_iff.mpr ⟨a.linter, ?_, ?_⟩))
  · rw [Issue.linters_of_raw (raw a ofA)]
    exact List.mem_singleton_self _
  · rw [Issue.linters_of_raw (raw b ofB), same]
    exact List.mem_singleton_self _

/-- A column is reported as the group that it is. -/
theorem collapse_column {issues : List Issue} (raw : ∀ issue ∈ issues, issue.contributors = ∅)
    (key : GroupKey) (i : Nat) :
    (IssueGroup.ofMembers? key (column rules issues key i)).map IssueGroup.collapse =
      (ofKey (groups rules issues) key)[i]?.map IssueGroup.collapse := by
  have columns : Columns (ofKey (groups rules issues) key) (row rules issues key) :=
    columns_groups raw key
  have cells := fun name => columns name i
  cases here : (ofKey (groups rules issues) key)[i]? with
  | none =>
    have empty : column rules issues key i = [] := by
      refine List.filterMap_eq_nil_iff.mpr fun name _ => ?_
      have ofRow := cells name
      rw [cell, here] at ofRow
      exact Option.toList_eq_nil_iff.mp ofRow.symm
    rw [empty]
    rfl
  | some g =>
    have ofGroups : g ∈ groups rules issues := List.mem_of_mem_filter (List.mem_of_getElem? here)
    -- Linter by linter, the column and the group hold the same issue or none.
    have perm : (column rules issues key i).Perm g.members := by
      refine Lists.perm_of_filter_eq (·.linter) fun name => ?_
      have ofRow := cells name
      rw [cell, here, Option.toList_some, List.flatMap_singleton] at ofRow
      rw [filter_column, ← ofRow]
      rfl
    have distinct := nodup_linters
      (fun other inGroup => raw other (mem_of_mem_groups ofGroups inGroup))
      ((grouped_groups rules issues).disjoint g ofGroups)
    cases members : column rules issues key i with
    | nil =>
      rw [members] at perm
      cases perm.nil_eq
    | cons first rest =>
      rw [members] at perm
      exact congrArg some (IssueGroup.collapse_congr perm.symm distinct).symm

/-- The merged issues of a key are its collapsed groups. -/
theorem filter_merge_eq (rules : List MergeRule) (issues : List Issue) (key : GroupKey) :
    (merge rules issues).filter (keyOf rules · = key) =
      (ofKey (groups rules issues) key).map IssueGroup.collapse := by
  rw [merge, List.filter_map, ofKey]
  refine congrArg _ (List.filter_congr fun g member => ?_)
  rw [Function.comp, keyOf_collapse ((grouped_groups rules issues).homogeneous g member)]

/-- **What raw issues of a key are merged into is determined by its columns.** -/
theorem filter_merge {issues : List Issue} (raw : ∀ issue ∈ issues, issue.contributors = ∅)
    (key : GroupKey) :
    (merge rules issues).filter (keyOf rules · = key) = findings rules issues key := by
  rw [filter_merge_eq, findings]
  refine (Lists.filterMap_range ?_ fun i => ?_).symm
  · rw [List.length_map]
    exact Nat.le_trans (List.length_filter_le _ _) (length_groups_le rules issues)
  · rw [collapse_column raw, List.getElem?_map]

/-! ## Lists with the same rows -/

/-- The findings of a key depend on the rows of the key alone. -/
theorem findings_congr {first second : List Issue} (perm : first.Perm second) {key : GroupKey}
    (sameRows : ∀ name, row rules first key name = row rules second key name) :
    findings rules first key = findings rules second key := by
  have names : linterNames first = linterNames second := by
    refine congrArg NameSet.names (NameSet.ext fun name => ?_)
    rw [NameSet.mem_ofList, NameSet.mem_ofList]
    exact (perm.map _).mem_iff
  simp only [findings, column, names, sameRows, perm.length_eq]

/-- Merging two lists of raw issues and keeping some of the results gives the same issues exactly
when the same findings are kept of every key. -/
theorem filter_merge_perm_iff {first second : List Issue}
    (rawFirst : ∀ issue ∈ first, issue.contributors = ∅)
    (rawSecond : ∀ issue ∈ second, issue.contributors = ∅) (keep : Issue → Bool) :
    ((merge rules first).filter keep).Perm ((merge rules second).filter keep) ↔
      ∀ key, ((findings rules first key).filter keep).Perm
        ((findings rules second key).filter keep) := by
  rw [Lists.perm_iff_filter_perm (keyOf rules)]
  refine forall_congr' fun key => ?_
  rw [List.filter_comm, List.filter_comm (l := merge rules second), filter_merge rawFirst,
    filter_merge rawSecond]

/-- The issues of one linter under a key are found among those of the linter. -/
theorem row_eq_filter (rules : List MergeRule) (issues : List Issue) (key : GroupKey)
    (name : String) :
    row rules issues key name =
      (issues.filter (·.linter = name)).filter (keyOf rules · = key) := by
  rw [row, List.filter_filter]
  refine List.filter_congr fun issue _ => ?_
  rw [Bool.decide_and]

/-- **Aggregation depends only on the order in which each linter reports.** Two lists of raw
issues in which every linter's issues come in the same order are merged into the same issues,
and in both of them the `i`-th issue of a linter under a key stands in the `i`-th group of the
key. -/
theorem apply_perm_of_same_orders (rules : List MergeRule) (enabled : Bool)
    {first second : List Issue} (raw : ∀ issue ∈ first, issue.contributors = ∅)
    (sameOrders : ∀ name, first.filter (·.linter = name) = second.filter (·.linter = name)) :
    (apply rules enabled first).Perm (apply rules enabled second) ∧
      ∀ key name i,
        cell (ofKey (groups rules first) key) name i = (row rules first key name)[i]?.toList ∧
        cell (ofKey (groups rules second) key) name i = (row rules first key name)[i]?.toList := by
  have perm : first.Perm second := Lists.perm_of_filter_eq (·.linter) sameOrders
  have rawSecond : ∀ issue ∈ second, issue.contributors = ∅ := fun issue member =>
    raw issue (perm.mem_iff.mpr member)
  have sameRows : ∀ key name, row rules first key name = row rules second key name := by
    intro key name
    rw [row_eq_filter, row_eq_filter, sameOrders]
  refine ⟨?_, fun key name i => ⟨columns_groups raw key name i, ?_⟩⟩
  · cases enabled with
    | false => exact perm
    | true =>
      refine Lists.perm_of_filter_eq (keyOf rules) fun key => ?_
      show (merge rules first).filter _ = (merge rules second).filter _
      rw [filter_merge raw, filter_merge rawSecond, findings_congr perm (sameRows key)]
  · rw [sameRows]
    exact columns_groups rawSecond key name i

/-! Two findings of one linter on a line, one of another and one of a third in another file, in two
orders. -/

namespace Sample

def contains : Issue :=
  { linter := "megacheck", path := "a.go", line := 10, col := 2, message := "use Contains" }

def unused : Issue :=
  { linter := "megacheck", path := "a.go", line := 10, col := 6, message := "unused" }

def simpler : Issue :=
  { linter := "gosimple", path := "a.go", line := 10, col := 2, message := "use Contains" }

def shadowed : Issue :=
  { linter := "vet", path := "b.go", line := 3, col := 1, message := "shadowed" }

/-- What the first finding of one linter and that of the other are merged to. -/
def merged : Issue :=
  { simpler with contributors := .ofList ["gosimple", "megacheck"] }

/-- The findings as they may arrive. -/
def former : List Issue := [contains, unused, simpler, shadowed]

/-- The findings in another order, in which those of each linter have kept theirs. -/
def latter : List Issue := [shadowed, simpler, contains, unused]

theorem filter_former (name : String) :
    former.filter (·.linter = name) = latter.filter (·.linter = name) := by
  by_cases ofFirst : "megacheck" = name
  · subst ofFirst
    decide
  by_cases ofSecond : "gosimple" = name
  · subst ofSecond
    decide
  by_cases ofThird : "vet" = name
  · subst ofThird
    decide
  simp [former, latter, contains, unused, simpler, shadowed, ofFirst, ofSecond, ofThird]

end Sample

open Sample in
theorem apply_perm_of_mixed_orders :
    (∀ issue ∈ former, issue.contributors = ∅) ∧
    (∀ name, former.filter (·.linter = name) = latter.filter (·.linter = name)) ∧
    apply Catalog.mergeRules true former = [merged, unused, shadowed] ∧
    apply Catalog.mergeRules true latter = [shadowed, merged, unused] ∧
    (apply Catalog.mergeRules true former).Perm (apply Catalog.mergeRules true latter) ∧
    ∀ key name i,
      cell (ofKey (groups Catalog.mergeRules former) key) name i =
        (row Catalog.mergeRules former key name)[i]?.toList ∧
      cell (ofKey (groups Catalog.mergeRules latter) key) name i =
        (row Catalog.mergeRules former key name)[i]?.toList := by
  have raw : ∀ issue ∈ former, issue.contributors = ∅ := by decide
  refine ⟨raw, filter_former, by decide, by decide, ?_⟩
  exact apply_perm_of_same_orders _ true raw filter_former

end Aggregation

end LintRun
