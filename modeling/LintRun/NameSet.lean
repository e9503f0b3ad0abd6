/-!
# Sets of names

A set of names is the list of its members in ascending order, by code points.  The order is
part of the type, so two sets with the same members are equal, and the members come back in
the order in which they are shown.
-/

set_option autoImplicit false

namespace LintRun

/-- A finite set of names. -/
structure NameSet where
  /-- The members in ascending order. -/
  names : List String
  ascending : names.Pairwise (· < ·) := by simp
deriving DecidableEq

namespace NameSet

theorem lt_of_not_lt_of_ne {a b : String} (h : ¬ a < b) (ne : a ≠ b) : b < a :=
  Std.lt_of_le_of_ne (Std.not_lt.mp h) (Ne.symm ne)

/-- Puts a name into an ascending list, unless it is there. -/
def insertName (name : String) : List String → List String
  | [] => [name]
  | x :: rest =>
    if name < x then name :: x :: rest
    else if name = x then x :: rest
    else x :: insertName name rest

@[simp] theorem mem_insertName (name x : String) (xs : List String) :
    x ∈ insertName name xs ↔ x = name ∨ x ∈ xs := by
  induction xs with
  | nil => simp [insertName]
  | cons y ys ih =>
    simp only [insertName]
    split
    · simp
    · split
      next eq => subst eq; simp
      next => simp only [List.mem_cons, ih]; grind

theorem pairwise_insertName (name : String) {xs : List String} (h : xs.Pairwise (· < ·)) :
    (insertName name xs).Pairwise (· < ·) := by
  induction xs with
  | nil => simp [insertName]
  | cons y ys ih =>
    have tail := (List.pairwise_cons.mp h).2
    have head := (List.pairwise_cons.mp h).1
    simp only [insertName]
    split
    next lt =>
      refine List.pairwise_cons.mpr ⟨fun z hz => ?_, h⟩
      rcases List.mem_cons.mp hz with rfl | hz
      · exact lt
      · exact String.lt_trans lt (head z hz)
    next nlt =>
      split
      · exact h
      next ne =>
        refine List.pairwise_cons.mpr ⟨fun z hz => ?_, ih tail⟩
        rcases (mem_insertName name z ys).mp hz with rfl | hz
        · exact lt_of_not_lt_of_ne nlt ne
        · exact head z hz

/-- The set without members. -/
def empty : NameSet := ⟨[], List.Pairwise.nil⟩

instance : EmptyCollection NameSet := ⟨empty⟩
instance : Inhabited NameSet := ⟨empty⟩

/-- The set with one more member. -/
def insert (s : NameSet) (name : String) : NameSet :=
  ⟨insertName name s.names, pairwise_insertName name s.ascending⟩

/-- The set of the names in a list. -/
def ofList (names : List String) : NameSet :=
  names.foldl insert empty

instance : Membership String NameSet := ⟨fun s name => name ∈ s.names⟩

instance (s : NameSet) (name : String) : Decidable (name ∈ s) :=
  inferInstanceAs (Decidable (name ∈ s.names))

/-- Whether a name is a member. -/
def contains (s : NameSet) (name : String) : Bool :=
  s.names.contains name

/-- Whether the set has no members. -/
def isEmpty (s : NameSet) : Bool :=
  s.names.isEmpty

/-- The members that satisfy a test. -/
def filter (p : String → Bool) (s : NameSet) : NameSet :=
  ⟨s.names.filter p, s.ascending.filter p⟩

/-- Whether every member is a member of another set. -/
def isSubsetOf (s t : NameSet) : Bool :=
  s.names.all t.contains

@[simp] theorem mem_names (s : NameSet) (name : String) : name ∈ s.names ↔ name ∈ s :=
  Iff.rfl

@[simp] theorem mem_insert (s : NameSet) (name x : String) :
    x ∈ s.insert name ↔ x = name ∨ x ∈ s :=
  mem_insertName name x s.names

@[simp] theorem contains_iff (s : NameSet) (name : String) :
    s.contains name = true ↔ name ∈ s := by
  simp only [contains, List.contains_iff_mem, mem_names]

@[simp] theorem mem_filter (p : String → Bool) (s : NameSet) (name : String) :
    name ∈ s.filter p ↔ name ∈ s ∧ p name = true :=
  List.mem_filter

theorem isSubsetOf_iff (s t : NameSet) : s.isSubsetOf t = true ↔ ∀ name ∈ s, name ∈ t := by
  simp only [isSubsetOf, List.all_eq_true, mem_names, contains_iff]

theorem mem_foldl_insert (name : String) (names : List String) (s : NameSet) :
    name ∈ names.foldl insert s ↔ name ∈ s ∨ name ∈ names := by
  induction names generalizing s with
  | nil => simp
  | cons x rest ih =>
    rw [List.foldl_cons, ih, mem_insert, List.mem_cons, or_comm (a := name = x), or_assoc]

@[simp] theorem not_mem_empty (name : String) : name ∉ (∅ : NameSet) :=
  List.not_mem_nil

@[simp] theorem mem_ofList (name : String) (names : List String) :
    name ∈ ofList names ↔ name ∈ names := by
  rw [ofList, mem_foldl_insert]
  exact or_iff_right (not_mem_empty name)

/-- A set is determined by its members. -/
theorem ext {s t : NameSet} (same : ∀ name, name ∈ s ↔ name ∈ t) : s = t := by
  obtain ⟨names, ascending⟩ := s
  obtain ⟨others, othersAscending⟩ := t
  have perm : names.Perm others :=
    (List.perm_ext_iff_of_nodup (ascending.imp String.ne_of_lt)
      (othersAscending.imp String.ne_of_lt)).mpr same
  have equal : names = others :=
    perm.eq_of_pairwise (fun a b _ _ less greater => absurd less (String.lt_asymm greater))
      ascending othersAscending
  subst equal
  rfl

/-- A set without members is empty. -/
theorem isEmpty_iff (s : NameSet) : s.isEmpty = true ↔ s = ∅ := by
  refine ⟨fun empty => ext fun name => ?_, fun empty => by subst empty; rfl⟩
  have none : s.names = [] := List.isEmpty_iff.mp empty
  rw [← mem_names, none]
  exact iff_of_false List.not_mem_nil (not_mem_empty name)

end NameSet

end LintRun
