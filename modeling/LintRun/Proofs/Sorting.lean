import LintRun.SortKey
import LintRun.Proofs.Lists

/-!
# Stable sorting

Two issues are tied on a list of keys when no key tells them apart. Sorting gives an ascending
list in which the issues of every class of ties keep their order, and these two properties
determine it. So two lists of issues are sorted alike exactly when they agree, class by class, on
what they hold and in which order (`sortIssues_eq_iff`): the sort removes every difference in the
order of issues that its keys tell apart, and no other.
-/

set_option autoImplicit false

namespace LintRun

namespace SortKey

instance (key : SortKey) : Std.TransCmp key.compare :=
  match key with
  | .none => { eq_swap := rfl, isLE_trans := fun _ _ => rfl }
  | .path => inferInstanceAs <| Std.TransCmp (compareOn fun issue : Issue => issue.path)
  | .line => inferInstanceAs <| Std.TransCmp (compareOn fun issue : Issue => issue.line)
  | .column => inferInstanceAs <| Std.TransCmp (compareOn fun issue : Issue => issue.col)
  | .severity =>
    inferInstanceAs <| Std.TransCmp (compareOn fun issue : Issue => issue.severity.rank)
  | .message => inferInstanceAs <| Std.TransCmp (compareOn fun issue : Issue => issue.message)
  | .linter => inferInstanceAs <| Std.TransCmp (compareOn fun issue : Issue => issue.linterLabel)

theorem transCmp_compareBy (keys : List SortKey) : Std.TransCmp (compareBy keys) := by
  induction keys with
  | nil => exact { eq_swap := rfl, isLE_trans := fun _ _ => rfl }
  | cons key keys ih =>
    exact inferInstanceAs <| Std.TransCmp (compareLex key.compare (compareBy keys))

instance (keys : List SortKey) : Std.TransCmp (compareBy keys) :=
  transCmp_compareBy keys

/-- Whether no key of a list tells two issues apart. -/
def tied (keys : List SortKey) (a b : Issue) : Bool :=
  compareBy keys a b = .eq

end SortKey

open SortKey

variable {keys : List SortKey}

theorem sortIssues_perm (keys : List SortKey) (issues : List Issue) :
    (sortIssues keys issues).Perm issues :=
  List.mergeSort_perm issues _

/-- Sorted issues are in ascending order. -/
theorem sortIssues_ascending (keys : List SortKey) (issues : List Issue) :
    (sortIssues keys issues).Pairwise fun a b => (compareBy keys a b).isLE = true :=
  Lists.ascending_mergeSort (compareBy keys) issues

/-- Sorting keeps tied issues in their order. -/
theorem filter_tied_sortIssues (keys : List SortKey) (issues : List Issue) (issue : Issue) :
    (sortIssues keys issues).filter (tied keys issue) = issues.filter (tied keys issue) := by
  have ties : (issues.filter (tied keys issue)).Pairwise fun a b =>
      (compareBy keys a b).isLE = true := by
    refine List.pairwise_of_forall_mem_list fun a ofA b ofB => ?_
    have tiedA : compareBy keys issue a = .eq := of_decide_eq_true (List.mem_filter.mp ofA).2
    have tiedB : compareBy keys issue b = .eq := of_decide_eq_true (List.mem_filter.mp ofB).2
    have tiedA' : compareBy keys a issue = .eq := Std.OrientedCmp.eq_symm tiedA
    exact Std.TransCmp.isLE_trans (by rw [tiedA']; rfl) (by rw [tiedB]; rfl)
  have inside : (issues.filter (tied keys issue)).Sublist (sortIssues keys issues) :=
    List.sublist_mergeSort Lists.isLE_trans (Lists.isLE_total (compareBy keys)) ties
      List.filter_sublist
  have kept := inside.filter (tied keys issue)
  rw [List.filter_filter] at kept
  simp only [Bool.and_self] at kept
  exact (kept.eq_of_length ((sortIssues_perm keys issues).filter _).length_eq.symm).symm

/-- **Two lists are sorted alike exactly when they hold the same issues in the same order in
every class of ties.** -/
theorem sortIssues_eq_iff (keys : List SortKey) (first second : List Issue) :
    sortIssues keys first = sortIssues keys second ↔
      ∀ issue, first.filter (tied keys issue) = second.filter (tied keys issue) := by
  constructor
  · intro same issue
    rw [← filter_tied_sortIssues, same, filter_tied_sortIssues]
  · intro sameClasses
    refine Lists.eq_of_ascending (compareBy keys) (sortIssues_ascending keys first)
      (sortIssues_ascending keys second) fun issue => ?_
    show (sortIssues keys first).filter (tied keys issue) =
      (sortIssues keys second).filter (tied keys issue)
    rw [filter_tied_sortIssues, filter_tied_sortIssues, sameClasses]

/-- Leaving issues out before sorting or after it is the same. -/
theorem filter_sortIssues (keys : List SortKey) (keep : Issue → Bool) (issues : List Issue) :
    (sortIssues keys issues).filter keep = sortIssues keys (issues.filter keep) := by
  refine Lists.eq_of_ascending (compareBy keys)
    ((sortIssues_ascending keys issues).filter keep)
    (sortIssues_ascending keys (issues.filter keep)) fun issue => ?_
  show ((sortIssues keys issues).filter keep).filter (tied keys issue) =
    (sortIssues keys (issues.filter keep)).filter (tied keys issue)
  rw [List.filter_comm, filter_tied_sortIssues, filter_tied_sortIssues, List.filter_comm]

end LintRun
