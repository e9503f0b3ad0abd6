import Mathlib.Data.List.Perm.Basic

/-!
# Lists by classes

Some facts about lists whose elements fall into classes. Two lists hold the same elements when
they do so class by class, and two lists in ascending order are equal when they are so class by
class. Both serve to compare the results of runs whose issues arrive in different orders. A list in
strictly ascending order is determined by its members alone.
-/

set_option autoImplicit false

namespace LintRun.Lists

variable {α β κ : Type}

/-- Two lists hold the same elements exactly when the elements of every class do. -/
theorem perm_iff_filter_perm [DecidableEq κ] (classOf : α → κ) {xs ys : List α} :
    xs.Perm ys ↔
      ∀ k, (xs.filter (classOf · = k)).Perm (ys.filter (classOf · = k)) := by
  classical
  refine ⟨fun perm k => perm.filter _, fun byClass => List.perm_iff_count.mpr fun a => ?_⟩
  have ofClass := List.perm_iff_count.mp (byClass (classOf a)) a
  rwa [List.count_filter (by simp), List.count_filter (by simp)] at ofClass

theorem perm_of_filter_eq [DecidableEq κ] (classOf : α → κ) {xs ys : List α}
    (same : ∀ k, xs.filter (classOf · = k) = ys.filter (classOf · = k)) : xs.Perm ys :=
  (perm_iff_filter_perm classOf).mpr fun k => .of_eq (same k)

theorem filter_concat (p : α → Prop) [DecidablePred p] (xs : List α) (x : α) :
    (xs ++ [x]).filter p = xs.filter p ++ if p x then [x] else [] := by
  rw [List.filter_append]
  by_cases here : p x
  · rw [if_pos here]
    simp [here]
  · rw [if_neg here]
    simp [here]

theorem toList_getElem?_concat (xs : List α) (x : α) (i : Nat) :
    (xs ++ [x])[i]?.toList = xs[i]?.toList ++ if i = xs.length then [x] else [] := by
  rcases Nat.lt_trichotomy i xs.length with less | same | more
  · rw [List.getElem?_append_left less, if_neg (Nat.ne_of_lt less), List.append_nil]
  · subst same
    rw [List.getElem?_concat_length, List.getElem?_eq_none (Nat.le_refl _), if_pos rfl]
    rfl
  · rw [List.getElem?_eq_none (by rw [List.length_append]; exact more),
      List.getElem?_eq_none (Nat.le_of_lt more), if_neg (Nat.ne_of_gt more)]
    rfl

/-- The elements that a table of options has at a list of places, of which the first ones hold
the elements of a list and the others nothing. -/
theorem filterMap_range {xs : List α} {table : Nat → Option α} {n : Nat}
    (long : xs.length ≤ n) (same : ∀ i, table i = xs[i]?) :
    (List.range n).filterMap table = xs := by
  have upTo : ∀ m, (List.range m).filterMap table = xs.take m := by
    intro m
    induction m with
    | zero => rfl
    | succ m ih =>
      rw [List.range_succ, List.filterMap_append, ih, List.take_add_one, ← same m]
      cases here : table m with
      | none => rw [List.filterMap_cons_none here]; rfl
      | some a => rw [List.filterMap_cons_some here]; rfl
  rw [upTo, List.take_of_length_le long]

/-- One class of a list that is made of at most one element of each class. -/
theorem filter_filterMap_of_class [DecidableEq κ] {classOf : α → κ} {pick : κ → Option α}
    (faithful : ∀ k a, pick k = some a → classOf a = k) {ks : List κ} (distinct : ks.Nodup)
    (k : κ) :
    (ks.filterMap pick).filter (classOf · = k) = if k ∈ ks then (pick k).toList else [] := by
  induction ks with
  | nil => rfl
  | cons j rest ih =>
    obtain ⟨fresh, distinct⟩ := List.nodup_cons.mp distinct
    have picked : ((pick j).toList).filter (classOf · = k) =
        if k = j then (pick k).toList else [] := by
      cases at_j : pick j with
      | none =>
        split
        · rename_i here
          rw [here, at_j]
          rfl
        · rfl
      | some a =>
        have ofClass := faithful j a at_j
        by_cases here : k = j
        · rw [if_pos here, here, at_j]
          simp [ofClass]
        · rw [if_neg here]
          simp [ofClass, Ne.symm here]
    have split : (j :: rest).filterMap pick = (pick j).toList ++ rest.filterMap pick := by
      cases at_j : pick j with
      | none => rw [List.filterMap_cons_none at_j]; rfl
      | some a => rw [List.filterMap_cons_some at_j]; rfl
    rw [split, List.filter_append, picked, ih distinct]
    by_cases here : k = j
    · subst here
      simp [fresh]
    · simp [here]

/-- Two lists that hold the same elements are equal when these are all equal. -/
theorem eq_of_perm_of_all_eq {xs ys : List α} (perm : xs.Perm ys)
    (same : ∀ a ∈ xs, ∀ b ∈ xs, a = b) : xs = ys := by
  have related : ∀ zs : List α, zs.Pairwise fun _ _ => True := fun zs =>
    List.pairwise_of_forall fun _ _ => trivial
  refine perm.eq_of_pairwise (fun a b ofXs ofYs _ _ => ?_) (related xs) (related ys)
  exact same a ofXs b (perm.mem_iff.mpr ofYs)

/-- When at most one element contributes anything, the order of the elements is of no
importance. -/
theorem flatMap_eq_of_perm {f : α → List β} {xs ys : List α} (perm : xs.Perm ys)
    (alone : xs.Pairwise fun x y => f x = [] ∨ f y = []) : xs.flatMap f = ys.flatMap f := by
  induction perm with
  | nil => rfl
  | cons x _ ih =>
    rw [List.flatMap_cons, List.flatMap_cons, ih (List.pairwise_cons.mp alone).2]
  | swap x y rest =>
    have apart := (List.pairwise_cons.mp alone).1 x List.mem_cons_self
    simp only [List.flatMap_cons]
    rcases apart with empty | empty <;> rw [empty] <;> rfl
  | trans first _ ih ih' =>
    exact (ih alone).trans (ih' (first.pairwise alone fun apart => apart.symm))

/-! ## Ascending lists -/

section Ascending

variable {cmp : α → α → Ordering} [Std.TransCmp cmp]

theorem mem_filter_tied {a : α} {xs : List α} (member : a ∈ xs) :
    a ∈ xs.filter (cmp a · = .eq) :=
  List.mem_filter.mpr ⟨member, decide_eq_true Std.ReflCmp.compare_self⟩

theorem head_le {a b : α} {xs : List α} (ascending : (a :: xs).Pairwise fun a b => (cmp a b).isLE)
    (member : b ∈ a :: xs) : (cmp a b).isLE = true := by
  rcases List.mem_cons.mp member with rfl | later
  · exact Std.ReflCmp.isLE_rfl
  · exact (List.pairwise_cons.mp ascending).1 b later

/-- In an ascending list whose classes of tied elements are in an order of their own, of any two
elements the first one is smaller, or they are tied and in that order. -/
theorem ascending_then {R : α → α → Prop} {xs : List α}
    (ascending : xs.Pairwise fun a b => (cmp a b).isLE)
    (classes : ∀ a, (xs.filter (cmp a · = .eq)).Pairwise R) :
    xs.Pairwise fun a b => cmp a b = .lt ∨ cmp a b = .eq ∧ R a b := by
  induction xs with
  | nil => exact .nil
  | cons x xs ih =>
    obtain ⟨first, ascending⟩ := List.pairwise_cons.mp ascending
    have classesOfRest := fun a =>
      (classes a).sublist ((List.sublist_cons_self x xs).filter (cmp a · = .eq))
    refine List.pairwise_cons.mpr ⟨fun b later => ?_, ih ascending classesOfRest⟩
    cases order : cmp x b with
    | lt => exact .inl rfl
    | eq =>
      have self : cmp x x = .eq := Std.ReflCmp.compare_self
      have ofClass := classes x
      simp only [List.filter_cons, self, decide_true, if_true] at ofClass
      have tie : b ∈ xs.filter (cmp x · = .eq) :=
        List.mem_filter.mpr ⟨later, decide_eq_true order⟩
      exact .inr ⟨rfl, (List.pairwise_cons.mp ofClass).1 b tie⟩
    | gt =>
      have le := first b later
      rw [order] at le
      cases le

variable (cmp) in
/-- Two lists in ascending order are equal when every class of tied elements comes in the same
order in both. -/
theorem eq_of_ascending {xs ys : List α} (ascending : xs.Pairwise fun a b => (cmp a b).isLE)
    (ascending' : ys.Pairwise fun a b => (cmp a b).isLE)
    (same : ∀ a, xs.filter (cmp a · = .eq) = ys.filter (cmp a · = .eq)) : xs = ys := by
  have sameMembers : ∀ a, a ∈ xs ↔ a ∈ ys := fun a =>
    ⟨fun member => List.mem_of_mem_filter (same a ▸ mem_filter_tied member),
      fun member => List.mem_of_mem_filter (same a ▸ mem_filter_tied member)⟩
  induction xs generalizing ys with
  | nil =>
    exact (List.eq_nil_iff_forall_not_mem.mpr fun y member =>
      List.not_mem_nil ((sameMembers y).mpr member)).symm
  | cons x xs ih =>
    cases ys with
    | nil => exact absurd ((sameMembers x).mp List.mem_cons_self) List.not_mem_nil
    | cons y ys =>
      have tie : cmp x y = .eq := Std.OrientedCmp.isLE_antisymm
        (head_le ascending ((sameMembers y).mpr List.mem_cons_self))
        (head_le ascending' ((sameMembers x).mp List.mem_cons_self))
      -- The class of the first head starts with it in one list and with the other head in the
      -- other list.
      have heads := same x
      have self : cmp x x = .eq := Std.ReflCmp.compare_self
      simp only [List.filter_cons, tie, self, decide_true, if_true] at heads
      obtain ⟨rfl, -⟩ := List.cons.inj heads
      have sameTails : ∀ a, xs.filter (cmp a · = .eq) = ys.filter (cmp a · = .eq) := by
        intro a
        have ofLists := same a
        rw [List.filter_cons, List.filter_cons] at ofLists
        split at ofLists
        · exact (List.cons.inj ofLists).2
        · exact ofLists
      refine congrArg (x :: ·) (ih (List.pairwise_cons.mp ascending).2
        (List.pairwise_cons.mp ascending').2 sameTails fun a => ?_)
      exact ⟨fun member => List.mem_of_mem_filter (sameTails a ▸ mem_filter_tied member),
        fun member => List.mem_of_mem_filter (sameTails a ▸ mem_filter_tied member)⟩

theorem isLE_trans (a b c : α) (first : (cmp a b).isLE = true) (second : (cmp b c).isLE = true) :
    (cmp a c).isLE = true :=
  Std.TransCmp.isLE_trans first second

variable (cmp) in
theorem isLE_total (a b : α) : ((cmp a b).isLE || (cmp b a).isLE) = true := by
  have swapped : cmp b a = (cmp a b).swap := Std.OrientedCmp.eq_swap
  rw [swapped]
  cases cmp a b <;> rfl

variable (cmp) in
/-- Sorting gives a list in ascending order. -/
theorem ascending_mergeSort (xs : List α) :
    (xs.mergeSort fun a b => (cmp a b).isLE).Pairwise fun a b => (cmp a b).isLE = true :=
  List.pairwise_mergeSort isLE_trans (isLE_total cmp) xs

end Ascending

/-! ## Strictly ascending lists -/

/-- A list without its later repetitions has none left. -/
theorem nodup_eraseDups [BEq α] [LawfulBEq α] (xs : List α) : xs.eraseDups.Nodup := by
  induction size : xs.length using Nat.strongRecOn generalizing xs with
  | _ n ih =>
    cases xs with
    | nil => exact List.nodup_nil
    | cons x xs =>
      have fewer := List.length_filter_le (fun y => !y == x) xs
      rw [List.eraseDups_cons, List.nodup_cons]
      refine ⟨fun member => ?_, ih _ (by rw [List.length_cons] at size; omega) _ rfl⟩
      have other := (List.mem_filter.mp (List.mem_eraseDups.mp member)).2
      rw [beq_self_eq_true] at other
      cases other

section StrictlyAscending

variable {cmp : α → α → Ordering} [Std.TransCmp cmp]

theorem nodup_of_strictly_ascending {xs : List α}
    (ascending : xs.Pairwise fun a b => cmp a b = .lt) : xs.Nodup := by
  refine ascending.imp fun {a b} less same => ?_
  have self : cmp b b = .eq := Std.ReflCmp.compare_self
  rw [same, self] at less
  cases less

variable (cmp) in
/-- Different elements come into strictly ascending order when they are sorted. -/
theorem strictly_ascending_mergeSort [Std.LawfulEqCmp cmp] {xs : List α} (distinct : xs.Nodup) :
    (xs.mergeSort fun a b => (cmp a b).isLE).Pairwise fun a b => cmp a b = .lt := by
  have apart : (xs.mergeSort fun a b => (cmp a b).isLE).Pairwise (· ≠ ·) :=
    (List.mergeSort_perm xs _).nodup_iff.mpr distinct
  refine ((ascending_mergeSort cmp xs).and apart).imp fun {a b} ⟨le, differ⟩ => ?_
  cases order : cmp a b with
  | lt => rfl
  | eq => exact absurd (Std.LawfulEqCmp.eq_of_compare order) differ
  | gt =>
    rw [order] at le
    cases le

/-- Two lists in strictly ascending order are equal when they have the same members. -/
theorem eq_of_strictly_ascending {xs ys : List α}
    (ascending : xs.Pairwise fun a b => cmp a b = .lt)
    (ascending' : ys.Pairwise fun a b => cmp a b = .lt) (same : ∀ a, a ∈ xs ↔ a ∈ ys) :
    xs = ys := by
  have perm : xs.Perm ys :=
    (List.perm_ext_iff_of_nodup (nodup_of_strictly_ascending ascending)
      (nodup_of_strictly_ascending ascending')).mpr same
  refine perm.eq_of_pairwise (fun a b _ _ less more => ?_) ascending ascending'
  have swapped : cmp a b = (cmp b a).swap := Std.OrientedCmp.eq_swap
  rw [swapped, more] at less
  cases less

end StrictlyAscending

end LintRun.Lists
