import LintRun.Proofs.Sorting

/-!
# Sorting by several lists of keys

Sorting once by two lists of keys is sorting by the second list and then by the first one
(`sortIssues_append`): the later sort decides, and as it is stable, what it leaves tied stays in the
order of the sort before it. A key can decide only where the keys before it tie, so the key that
orders nothing and a key that has occurred before can be left out of a list. What is left are the
**decisive** keys, and sorting by them is the same (`sortIssues_decisive`).
-/

set_option autoImplicit false

namespace LintRun

namespace SortKey

variable {key : SortKey} {keys before : List SortKey} {a b : Issue}

theorem compareBy_append (first second : List SortKey) (a b : Issue) :
    compareBy (first ++ second) a b = (compareBy first a b).then (compareBy second a b) := by
  induction first with
  | nil => rfl
  | cons key first ih =>
    rw [List.cons_append, compareBy, ih, compareBy, Ordering.then_assoc]

/-- Two issues tie on a list of keys when they tie on each of them. -/
theorem compareBy_eq_eq_iff :
    compareBy keys a b = .eq ↔ ∀ key ∈ keys, key.compare a b = .eq := by
  induction keys with
  | nil => simp [compareBy]
  | cons key keys ih =>
    rw [compareBy, Ordering.then_eq_eq, ih, List.forall_mem_cons]

theorem tied_append (first second : List SortKey) (a b : Issue) :
    tied (first ++ second) a b = (tied first a b && tied second a b) := by
  rw [Bool.eq_iff_iff, Bool.and_eq_true]
  simp only [tied, decide_eq_true_eq, compareBy_append, Ordering.then_eq_eq]

theorem tied_eq_all (keys : List SortKey) (a b : Issue) :
    tied keys a b = keys.all fun key => key.compare a b = .eq := by
  rw [Bool.eq_iff_iff, List.all_eq_true]
  simp only [tied, decide_eq_true_eq, compareBy_eq_eq_iff]

/-! ## Keys that decide nothing -/

/-- Keys that leave two issues tied can be left out when the two are compared. -/
theorem compareBy_filter {keep : SortKey → Bool}
    (idle : ∀ key, keep key = false → key.compare a b = .eq) :
    compareBy (keys.filter keep) a b = compareBy keys a b := by
  induction keys with
  | nil => rfl
  | cons key keys ih =>
    cases kept : keep key with
    | false =>
      rw [List.filter_cons_of_neg (by rw [kept]; exact Bool.false_ne_true), ih, compareBy,
        idle key kept]
      rfl
    | true => rw [List.filter_cons_of_pos kept, compareBy, ih, compareBy]

/-- A key can be left out when the issues that tie on the keys before it tie on it. -/
theorem compareBy_append_cons (idle : compareBy before a b = .eq → key.compare a b = .eq)
    (after : List SortKey) :
    compareBy (before ++ key :: after) a b = compareBy (before ++ after) a b := by
  rw [compareBy_append, compareBy_append, compareBy]
  cases order : compareBy before a b with
  | lt => rfl
  | eq => rw [idle order]; rfl
  | gt => rfl

/-- A key that occurs again decides nothing where it occurs again. -/
theorem compareBy_eraseDups (keys : List SortKey) (a b : Issue) :
    compareBy keys.eraseDups a b = compareBy keys a b := by
  induction size : keys.length using Nat.strongRecOn generalizing keys with
  | _ n ih =>
    cases keys with
    | nil => rfl
    | cons key keys =>
      have fewer := List.length_filter_le (fun other => !other == key) keys
      have rest := ih _ (by rw [List.length_cons] at size; omega)
        (keys.filter fun other => !other == key) rfl
      rw [List.eraseDups_cons, compareBy, rest, compareBy]
      cases order : key.compare a b with
      | lt => rfl
      | gt => rfl
      | eq =>
        refine congrArg _ (compareBy_filter fun other same => ?_)
        obtain rfl : other = key := by simpa using same
        exact order

/-- The keys of a list that can decide: those that order something, each where it occurs first. -/
def decisive (keys : List SortKey) : List SortKey :=
  (keys.filter (· ≠ .none)).eraseDups

theorem compareBy_decisive (keys : List SortKey) (a b : Issue) :
    compareBy (decisive keys) a b = compareBy keys a b := by
  rw [decisive, compareBy_eraseDups]
  refine compareBy_filter fun key idle => ?_
  obtain rfl : key = .none := by simpa using idle
  rfl

end SortKey

open SortKey

variable {keys keys' : List SortKey}

/-! ## One sort and two -/

/-- **Sorting by two lists of keys at once is sorting by the second and then by the first.** -/
theorem sortIssues_append (first second : List SortKey) (issues : List Issue) :
    sortIssues (first ++ second) issues = sortIssues first (sortIssues second issues) := by
  refine Lists.eq_of_ascending (compareBy (first ++ second))
    (sortIssues_ascending (first ++ second) issues) ?_ fun issue => ?_
  · -- The ties of the later sort are in the order of the earlier one.
    have classes : ∀ a, ((sortIssues first (sortIssues second issues)).filter
        (compareBy first a · = .eq)).Pairwise fun a b => (compareBy second a b).isLE = true := by
      intro a
      show ((sortIssues first (sortIssues second issues)).filter (tied first a)).Pairwise _
      rw [filter_tied_sortIssues]
      exact (sortIssues_ascending second issues).filter _
    have ordered := Lists.ascending_then
      (sortIssues_ascending first (sortIssues second issues)) classes
    refine ordered.imp fun {a b} order => ?_
    rw [compareBy_append]
    rcases order with less | ⟨tie, le⟩
    · rw [less]
      rfl
    · rw [tie]
      exact le
  · have both : ∀ others : List Issue, others.filter (tied (first ++ second) issue) =
        (others.filter (tied second issue)).filter (tied first issue) := by
      intro others
      rw [List.filter_filter]
      exact List.filter_congr fun other _ => tied_append first second issue other
    calc (sortIssues (first ++ second) issues).filter (tied (first ++ second) issue)
      _ = issues.filter (tied (first ++ second) issue) := filter_tied_sortIssues _ issues issue
      _ = (issues.filter (tied second issue)).filter (tied first issue) := both issues
      _ = ((sortIssues second issues).filter (tied second issue)).filter (tied first issue) := by
        rw [filter_tied_sortIssues]
      _ = ((sortIssues second issues).filter (tied first issue)).filter (tied second issue) :=
        List.filter_comm ..
      _ = ((sortIssues first (sortIssues second issues)).filter (tied first issue)).filter
          (tied second issue) := by
        rw [filter_tied_sortIssues first]
      _ = (sortIssues first (sortIssues second issues)).filter (tied (first ++ second) issue) := by
        rw [both, List.filter_comm]

theorem sortIssues_congr (same : ∀ a b, compareBy keys a b = compareBy keys' a b)
    (issues : List Issue) : sortIssues keys issues = sortIssues keys' issues := by
  simp only [sortIssues, same]

/-- Sorting needs the decisive keys alone. -/
theorem sortIssues_decisive (keys : List SortKey) (issues : List Issue) :
    sortIssues (decisive keys) issues = sortIssues keys issues :=
  sortIssues_congr (compareBy_decisive keys) issues

/-- Without keys all issues are tied and stay as they are. -/
theorem sortIssues_nil (issues : List Issue) : sortIssues [] issues = issues :=
  List.mergeSort_of_pairwise (List.pairwise_of_forall fun _ _ => rfl)

/-- What a stable sort by a list of keys makes of a list of issues. -/
structure IsStableSort (keys : List SortKey) (issues sorted : List Issue) : Prop where
  perm : sorted.Perm issues
  /-- Of two issues the later one is not put first by the first key that tells them apart. -/
  ascending : sorted.Pairwise fun a b => ∀ before key after, keys = before ++ key :: after →
    (∀ earlier ∈ before, earlier.compare a b = .eq) → key.compare a b ≠ .gt
  /-- The issues that tie with one on all keys come in the order in which they came. -/
  ties : ∀ issue, sorted.filter (fun other => keys.all (·.compare issue other = .eq)) =
    issues.filter fun other => keys.all (·.compare issue other = .eq)

theorem isStableSort_sortIssues (keys : List SortKey) (issues : List Issue) :
    IsStableSort keys issues (sortIssues keys issues) where
  perm := sortIssues_perm keys issues
  ascending := by
    refine (sortIssues_ascending keys issues).imp ?_
    rintro a b le before key after rfl ties more
    rw [compareBy_append, compareBy_eq_eq_iff.mpr ties, compareBy, more] at le
    cases le
  ties issue := by
    simp only [← tied_eq_all]
    exact filter_tied_sortIssues keys issues issue

/-- **Sorting by several keys.** It is a stable sort, to sort by two lists of keys at once is to
sort by the second and then by the first, and keys that order nothing and keys that have occurred
before can be left out, one by one or all together. -/
theorem sortIssues_keys (first second : List SortKey) (issues : List Issue) :
    IsStableSort first issues (sortIssues first issues) ∧
    sortIssues (first ++ second) issues = sortIssues first (sortIssues second issues) ∧
    sortIssues (first ++ .none :: second) issues = sortIssues (first ++ second) issues ∧
    (∀ key ∈ first,
      sortIssues (first ++ key :: second) issues = sortIssues (first ++ second) issues) ∧
    sortIssues (decisive first) issues = sortIssues first issues ∧
    ((∀ key ∈ first, key = .none) → sortIssues first issues = issues) := by
  refine ⟨isStableSort_sortIssues first issues, sortIssues_append first second issues, ?_, ?_,
    sortIssues_decisive first issues, ?_⟩
  · exact sortIssues_congr (fun a b => compareBy_append_cons (fun _ => rfl) second) issues
  · intro key earlier
    refine sortIssues_congr (fun a b => compareBy_append_cons (fun ties => ?_) second) issues
    exact compareBy_eq_eq_iff.mp ties key earlier
  · intro idle
    have none : decisive first = [] := by
      rw [decisive, List.filter_eq_nil_iff.mpr fun key member => by simp [idle key member]]
      rfl
    rw [← sortIssues_decisive, none, sortIssues_nil]

end LintRun
