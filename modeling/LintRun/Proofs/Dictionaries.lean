import LintRun.Policy
import LintRun.Proofs.Results

/-!
# Dictionaries put over one another

Entries are put into a dictionary one by one, and a later one replaces an earlier one of its name.
So a name has the last of the values that the entries have for it, and without one the value that
it had before (`get?_insertAll`). Entries whose names are distinct have at most one value for each
(`getLast?_valuesOf`), and so do those of a dictionary (`get?_overlay`).

A dictionary whose values are checked one by one has the checked value of each name
(`get?_checkAll`).
-/

set_option autoImplicit false

namespace LintRun

variable {α β : Type}

/-- The values that entries have for a name, in their order. -/
def valuesOf (name : String) (entries : List (String × α)) : List α :=
  entries.filterMap fun e => if e.1 = name then some e.2 else none

theorem valuesOf_cons (name : String) (e : String × α) (entries : List (String × α)) :
    valuesOf name (e :: entries) =
      if e.1 = name then e.2 :: valuesOf name entries else valuesOf name entries := by
  rw [valuesOf, List.filterMap_cons]
  by_cases here : e.1 = name
  · rw [if_pos here, if_pos here]
    rfl
  · rw [if_neg here, if_neg here]
    rfl

theorem valuesOf_eq_nil {name : String} {entries : List (String × α)}
    (absent : name ∉ entries.map (·.1)) : valuesOf name entries = [] := by
  refine List.filterMap_eq_nil_iff.mpr fun e member => if_neg fun here => ?_
  exact absent (here ▸ List.mem_map_of_mem member)

/-- Where names are distinct the only value of a name is the one that is looked up. -/
theorem getLast?_valuesOf {entries : List (String × α)} (distinct : (entries.map (·.1)).Nodup)
    (name : String) : (valuesOf name entries).getLast? = entries.lookup name := by
  induction entries with
  | nil => rfl
  | cons e rest ih =>
    obtain ⟨fresh, distinct⟩ := List.nodup_cons.mp distinct
    rw [valuesOf_cons, List.lookup_cons]
    by_cases here : e.1 = name
    · rw [if_pos here, valuesOf_eq_nil (here ▸ fresh), beq_iff_eq.mpr here.symm]
      rfl
    · rw [if_neg here, ih distinct, beq_false_of_ne (Ne.symm here)]

namespace Dict

theorem nodup_names (d : Dict α) : (d.entries.map (·.1)).Nodup :=
  List.pairwise_map.mpr (d.ascending.imp String.ne_of_lt)

theorem get?_eq_lookup (d : Dict α) (name : String) : d.get? name = d.entries.lookup name := by
  rw [get?]
  induction d.entries with
  | nil => rfl
  | cons e rest ih =>
    rw [List.find?_cons, List.lookup_cons, Bool.beq_comm]
    cases name == e.1 with
    | true => rfl
    | false => exact ih

/-- The dictionary with some entries put into it one by one. -/
def insertAll (d : Dict α) (entries : List (String × α)) : Dict α :=
  entries.foldl (fun d e => d.insert e.1 e.2) d

/-- A name has the last value that entries have for it, or else the value that it had before. -/
theorem get?_insertAll (d : Dict α) (entries : List (String × α)) (name : String) :
    (d.insertAll entries).get? name = (valuesOf name entries).getLast?.or (d.get? name) := by
  induction entries generalizing d with
  | nil => rfl
  | cons e rest ih =>
    show ((d.insert e.1 e.2).insertAll rest).get? name = _
    rw [ih, get?_insert, valuesOf_cons]
    by_cases here : e.1 = name
    · rw [if_pos here, if_pos here.symm, List.getLast?_cons]
      cases (valuesOf name rest).getLast? <;> rfl
    · rw [if_neg here, if_neg (Ne.symm here)]

theorem get?_overlay (d other : Dict α) (name : String) :
    (d.overlay other).get? name = (other.get? name).or (d.get? name) := by
  have put : d.overlay other = d.insertAll other.entries := rfl
  rw [put, get?_insertAll, getLast?_valuesOf other.nodup_names, ← get?_eq_lookup]

theorem get?_ofList {entries : List (String × α)} (distinct : (entries.map (·.1)).Nodup)
    (name : String) : (ofList entries).get? name = entries.lookup name := by
  have put : ofList entries = empty.insertAll entries := rfl
  rw [put, get?_insertAll, getLast?_valuesOf distinct]
  exact Option.or_none

end Dict

/-! ## Dictionaries of checked values -/

variable {check : α → Except ConfigError β}

theorem lookup_of_mapM {entries : List (String × α)} {checked : List (String × β)}
    (result : (entries.mapM fun e => do return (e.1, ← check e.2)) = .ok checked) :
    checked.map (·.1) = entries.map (·.1) ∧
      ∀ name, (entries.lookup name).map check = (checked.lookup name).map .ok := by
  induction entries generalizing checked with
  | nil =>
    cases result
    exact ⟨rfl, fun _ => rfl⟩
  | cons e rest ih =>
    rw [List.mapM_cons] at result
    obtain ⟨first, firstOk, result⟩ := exists_ok_of_bind result
    obtain ⟨value, valueOk, pair⟩ := exists_ok_of_bind firstOk
    obtain ⟨others, othersOk, result⟩ := exists_ok_of_bind result
    obtain ⟨names, values⟩ := ih othersOk
    cases pair
    cases result
    refine ⟨congrArg (e.1 :: ·) names, fun name => ?_⟩
    rw [List.lookup_cons, List.lookup_cons]
    cases name == e.1 with
    | true => exact congrArg some valueOk
    | false => exact values name

/-- Each name has the checked value. -/
theorem get?_checkAll {d : Dict α} {checked : Dict β}
    (result : PolicyBuilder.checkAll check d = .ok checked) (name : String) :
    (d.get? name).map check = (checked.get? name).map .ok := by
  rw [PolicyBuilder.checkAll] at result
  obtain ⟨entries, entriesOk, result⟩ := exists_ok_of_bind result
  obtain ⟨names, values⟩ := lookup_of_mapM entriesOk
  cases result
  rw [Dict.get?_ofList (names ▸ d.nodup_names), Dict.get?_eq_lookup]
  exact values name

end LintRun
