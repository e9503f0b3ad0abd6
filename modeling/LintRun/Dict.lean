import LintRun.NameSet

/-!
# Dictionaries

A dictionary from names to values is the list of its entries in ascending order of the names.
As the order is part of the type, two dictionaries with the same entries are equal, and the
entries are visited in the order of their names.
-/

set_option autoImplicit false

namespace LintRun

/-- A finite map from names to values. -/
structure Dict (α : Type) where
  /-- The entries in ascending order of their names. -/
  entries : List (String × α)
  ascending : entries.Pairwise (·.1 < ·.1) := by simp
deriving DecidableEq

namespace Dict

variable {α β : Type}

/-- Sets the value of a name in an ascending list of entries. -/
def insertEntry (name : String) (value : α) : List (String × α) → List (String × α)
  | [] => [(name, value)]
  | e :: rest =>
    if name < e.1 then (name, value) :: e :: rest
    else if name = e.1 then (name, value) :: rest
    else e :: insertEntry name value rest

theorem name_of_mem_insertEntry {name : String} {value : α} {e : String × α}
    {es : List (String × α)} (h : e ∈ insertEntry name value es) :
    e.1 = name ∨ e ∈ es := by
  induction es with
  | nil =>
    simp only [insertEntry, List.mem_singleton] at h
    exact .inl (by rw [h])
  | cons d ds ih =>
    simp only [insertEntry] at h
    split at h
    · rcases List.mem_cons.mp h with rfl | h
      · exact .inl rfl
      · exact .inr h
    · split at h
      · rcases List.mem_cons.mp h with rfl | h
        · exact .inl rfl
        · exact .inr (List.mem_cons_of_mem _ h)
      · rcases List.mem_cons.mp h with rfl | h
        · exact .inr (List.mem_cons_self ..)
        · exact (ih h).imp id (List.mem_cons_of_mem _)

theorem pairwise_insertEntry (name : String) (value : α) {es : List (String × α)}
    (h : es.Pairwise (·.1 < ·.1)) : (insertEntry name value es).Pairwise (·.1 < ·.1) := by
  induction es with
  | nil => simp [insertEntry]
  | cons d ds ih =>
    have head := (List.pairwise_cons.mp h).1
    have tail := (List.pairwise_cons.mp h).2
    simp only [insertEntry]
    split
    next lt =>
      refine List.pairwise_cons.mpr ⟨fun e he => ?_, h⟩
      rcases List.mem_cons.mp he with rfl | he
      · exact lt
      · exact String.lt_trans lt (head e he)
    next nlt =>
      split
      next eq =>
        exact List.pairwise_cons.mpr ⟨fun e he => by simpa only [eq] using head e he, tail⟩
      next ne =>
        refine List.pairwise_cons.mpr ⟨fun e he => ?_, ih tail⟩
        rcases name_of_mem_insertEntry he with eq | he
        · rw [eq]; exact NameSet.lt_of_not_lt_of_ne nlt ne
        · exact head e he

/-- The dictionary without entries. -/
def empty : Dict α := ⟨[], List.Pairwise.nil⟩

instance : EmptyCollection (Dict α) := ⟨empty⟩
instance : Inhabited (Dict α) := ⟨empty⟩

/-- The dictionary in which a name has a new value. -/
def insert (d : Dict α) (name : String) (value : α) : Dict α :=
  ⟨insertEntry name value d.entries, pairwise_insertEntry name value d.ascending⟩

/-- The dictionary of a list of entries, of which a later one replaces an earlier one. -/
def ofList (entries : List (String × α)) : Dict α :=
  entries.foldl (fun d e => d.insert e.1 e.2) empty

/-- The value of a name. -/
def get? (d : Dict α) (name : String) : Option α :=
  (d.entries.find? (·.1 == name)).map (·.2)

/-- Whether a name has a value. -/
def contains (d : Dict α) (name : String) : Bool :=
  (d.get? name).isSome

/-- The names that have values, in ascending order. -/
def names (d : Dict α) : List String :=
  d.entries.map (·.1)

/-- The values in ascending order of their names. -/
def values (d : Dict α) : List α :=
  d.entries.map (·.2)

/-- The set of the names that have values. -/
def nameSet (d : Dict α) : NameSet :=
  ⟨d.names, List.pairwise_map.mpr d.ascending⟩

theorem find?_insertEntry (name x : String) (value : α) (es : List (String × α)) :
    (insertEntry name value es).find? (·.1 == x) =
      if x = name then some (name, value) else es.find? (·.1 == x) := by
  induction es with
  | nil =>
    by_cases here : x = name
    · simp [insertEntry, here]
    · simp [insertEntry, here, Ne.symm here]
  | cons e rest ih =>
    by_cases here : x = name
    · subst here
      simp only [insertEntry, if_true]
      split
      · simp
      · split
        · simp
        · rename_i ne
          rw [List.find?_cons, beq_false_of_ne (Ne.symm ne), ih, if_pos rfl]
    · simp only [insertEntry, if_neg here]
      split
      · simp [Ne.symm here]
      · split
        · rename_i eq
          simp [Ne.symm here, ← eq]
        · rw [List.find?_cons, List.find?_cons, ih, if_neg here]

@[simp] theorem get?_insert (d : Dict α) (name x : String) (value : α) :
    (d.insert name value).get? x = if x = name then some value else d.get? x := by
  rw [get?, insert, find?_insertEntry]
  split <;> rfl

@[simp] theorem contains_insert (d : Dict α) (name x : String) (value : α) :
    (d.insert name value).contains x = true ↔ x = name ∨ d.contains x = true := by
  rw [contains, get?_insert, contains]
  split
  · rename_i here
    exact iff_of_true rfl (.inl here)
  · rename_i elsewhere
    exact (or_iff_right elsewhere).symm

/-- A name has the value of its entry. -/
theorem get?_of_mem {d : Dict α} {e : String × α} (member : e ∈ d.entries) :
    d.get? e.1 = some e.2 := by
  obtain ⟨entries, ascending⟩ := d
  simp only [get?] at member ⊢
  induction entries with
  | nil => exact absurd member List.not_mem_nil
  | cons first rest ih =>
    obtain ⟨below, ascending⟩ := List.pairwise_cons.mp ascending
    rcases List.mem_cons.mp member with rfl | later
    · simp
    · rw [List.find?_cons, beq_false_of_ne (String.ne_of_lt (below e later))]
      exact ih ascending later

theorem mem_nameSet (d : Dict α) (name : String) :
    name ∈ d.nameSet ↔ d.contains name = true := by
  show name ∈ d.entries.map (·.1) ↔ _
  rw [List.mem_map, contains, get?, Option.isSome_map, List.find?_isSome]
  simp only [beq_iff_eq]

/-- The dictionary with every value replaced by its image. -/
def map (f : α → β) (d : Dict α) : Dict β :=
  ⟨d.entries.map fun e => (e.1, f e.2), List.pairwise_map.mpr d.ascending⟩

/-- The entries of one dictionary, then those of another, which replace entries of the first. -/
def overlay (d other : Dict α) : Dict α :=
  other.entries.foldl (fun d e => d.insert e.1 e.2) d

end Dict

end LintRun
