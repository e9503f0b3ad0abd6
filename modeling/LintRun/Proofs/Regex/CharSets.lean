import LintRun.Regex.CharSet
import Mathlib.Order.Nat

/-!
# What sets of characters hold

A set is a list of ranges that are apart from each other and in ascending order (`Ascending`), so a
search in it can stop at the first range that starts beyond the code point. Inserting a range keeps
this form and adds exactly the code points of the range (`has_insertRange`). Hence a set made of
ranges holds the code points that are in any of them, however they overlap (`has_ofRanges`), and two
such sets hold together what either of them holds (`has_union`).
-/

set_option autoImplicit false

namespace LintRun.Regex.CharSet

open Unicode (Ranges)

variable {least less lo hi c : Nat} {set : CharSet}

/-- Whether ranges ascend from a code point on, each apart from the next. -/
def Ascending (least : Nat) : CharSet → Prop
  | [] => True
  | (lo, hi) :: rest => least ≤ lo ∧ lo ≤ hi ∧ Ascending (hi + 1) rest

namespace Ascending

theorem mono (ascending : Ascending least set) (le : less ≤ least) : Ascending less set := by
  cases set with
  | nil => trivial
  | cons range rest => exact ⟨le.trans ascending.1, ascending.2⟩

theorem has_of_lt (ascending : Ascending least set) (below : c < least) : set.has c = false := by
  cases set with
  | nil => rfl
  | cons range rest =>
    have before : c < range.1 := below.trans_le ascending.1
    rw [Ranges.has, if_pos before]

/-- Stopping early misses nothing. -/
theorem has_cons (ascending : Ascending least ((lo, hi) :: set)) (c : Nat) :
    Ranges.has ((lo, hi) :: set) c = (decide (lo ≤ c ∧ c ≤ hi) || set.has c) := by
  obtain ⟨-, ordered, later⟩ := ascending
  rw [Ranges.has]
  split
  · rename_i before
    rw [later.has_of_lt (by omega), decide_eq_false (by omega)]
    rfl
  · split
    · rw [decide_eq_true (by omega), Bool.true_or]
    · rw [decide_eq_false (by omega), Bool.false_or]

theorem insertRange (ascending : Ascending least set) (after : least ≤ lo) (ordered : lo ≤ hi) :
    Ascending least (insertRange lo hi set) := by
  induction set generalizing least lo hi with
  | nil => exact ⟨after, ordered, trivial⟩
  | cons range rest ih =>
    obtain ⟨lo', hi'⟩ := range
    obtain ⟨after', ordered', later⟩ := ascending
    rw [CharSet.insertRange]
    split
    · rename_i apart
      exact ⟨after, ordered, by omega, ordered', later⟩
    · split
      · rename_i apart
        exact ⟨after', ordered', ih later (by omega) ordered⟩
      · exact ih (later.mono (by omega)) (by omega) (by omega)

end Ascending

/-- A range that is inserted adds its code points and no others. -/
theorem has_insertRange (ascending : Ascending least set) (ordered : lo ≤ hi) (c : Nat) :
    (insertRange lo hi set).has c = (decide (lo ≤ c ∧ c ≤ hi) || set.has c) := by
  induction set generalizing least lo hi with
  | nil =>
    have alone : Ascending lo [(lo, hi)] := ⟨le_rfl, ordered, trivial⟩
    exact alone.has_cons c
  | cons range rest ih =>
    obtain ⟨lo', hi'⟩ := range
    have whole := ascending
    obtain ⟨-, ordered', later⟩ := ascending
    rw [insertRange]
    split
    · rename_i apart
      have inserted : Ascending lo ((lo, hi) :: (lo', hi') :: rest) :=
        ⟨le_rfl, ordered, apart.le, ordered', later⟩
      exact inserted.has_cons c
    · split
      · rename_i apart
        have inserted : Ascending lo' ((lo', hi') :: insertRange lo hi rest) :=
          ⟨le_rfl, ordered', later.insertRange apart.le ordered⟩
        rw [inserted.has_cons, whole.has_cons, ih later ordered, Bool.or_left_comm]
      · -- the two ranges overlap or touch, so there is nothing between them
        have joined : decide (min lo lo' ≤ c ∧ c ≤ max hi hi') =
            (decide (lo ≤ c ∧ c ≤ hi) || decide (lo' ≤ c ∧ c ≤ hi')) := by
          rw [← Bool.decide_or]
          exact decide_eq_decide.mpr (by omega)
        rw [ih later (by omega), joined, whole.has_cons, Bool.or_assoc]

/-- A set holds nothing outside of its ranges. -/
theorem exists_of_has (has : set.has c = true) : ∃ range ∈ set, range.1 ≤ c ∧ c ≤ range.2 := by
  induction set with
  | nil => cases has
  | cons range rest ih =>
    obtain ⟨lo, hi⟩ := range
    rw [Ranges.has] at has
    split at has
    · cases has
    · split at has
      · rename_i from_lo to_hi
        exact ⟨(lo, hi), List.mem_cons_self, Nat.not_lt.mp from_lo, to_hi⟩
      · obtain ⟨range, member, inside⟩ := ih has
        exact ⟨range, List.mem_cons_of_mem _ member, inside⟩

theorem Ascending.has_eq_any (ascending : Ascending least set) (c : Nat) :
    set.has c = set.any fun range => decide (range.1 ≤ c ∧ c ≤ range.2) := by
  induction set generalizing least with
  | nil => rfl
  | cons range rest ih => rw [ascending.has_cons, List.any_cons, ih ascending.2.2]

theorem Ascending.ordered (ascending : Ascending least set) :
    ∀ range ∈ set, range.1 ≤ range.2 := by
  induction set generalizing least with
  | nil => exact nofun
  | cons range rest ih => exact List.forall_mem_cons.mpr ⟨ascending.2.1, ih ascending.2.2⟩

section Ranges

variable {ranges : List (Nat × Nat)}

theorem ascending_ofRanges (ordered : ∀ range ∈ ranges, range.1 ≤ range.2) :
    Ascending 0 (ofRanges ranges) := by
  induction ranges with
  | nil => trivial
  | cons range ranges ih =>
    obtain ⟨first, ordered⟩ := List.forall_mem_cons.mp ordered
    exact (ih ordered).insertRange (Nat.zero_le _) first

/-- **A set made of ranges holds the code points in any of them.** -/
theorem has_ofRanges (ordered : ∀ range ∈ ranges, range.1 ≤ range.2) (c : Nat) :
    (ofRanges ranges).has c = ranges.any fun range => decide (range.1 ≤ c ∧ c ≤ range.2) := by
  induction ranges with
  | nil => rfl
  | cons range ranges ih =>
    obtain ⟨first, ordered⟩ := List.forall_mem_cons.mp ordered
    rw [List.any_cons, ← ih ordered]
    exact has_insertRange (ascending_ofRanges ordered) first c

/-- Two sets made of ranges hold together what either of them holds. -/
theorem has_union {others : List (Nat × Nat)} (ordered : ∀ range ∈ ranges, range.1 ≤ range.2)
    (ordered' : ∀ range ∈ others, range.1 ≤ range.2) (c : Nat) :
    ((ofRanges ranges).union (ofRanges others)).has c =
      ((ofRanges ranges).has c || (ofRanges others).has c) := by
  have ascending := ascending_ofRanges ordered
  have ascending' := ascending_ofRanges ordered'
  have both := List.forall_mem_append.mpr ⟨ascending.ordered, ascending'.ordered⟩
  rw [union, has_ofRanges both, List.any_append, ← ascending.has_eq_any, ← ascending'.has_eq_any]

/-- Ranges that are apart from all ranges of a set have no code point in it. -/
theorem not_any_of_apart
    (apart : (ranges.all fun range => set.all fun other =>
      Nat.blt range.2 other.1 || Nat.blt other.2 range.1) = true)
    (has : set.has c = true) :
    (ranges.any fun range => decide (range.1 ≤ c ∧ c ≤ range.2)) = false := by
  obtain ⟨other, member', from_lo, to_hi⟩ := exists_of_has has
  refine List.any_eq_false.mpr fun range member inside => ?_
  have between := of_decide_eq_true inside
  have outside := List.all_eq_true.mp (List.all_eq_true.mp apart range member) other member'
  rw [Bool.or_eq_true, Nat.blt_eq, Nat.blt_eq] at outside
  omega

/-- Ranges that enclose all ranges of a set have its code points in them. -/
theorem any_of_enclosed
    (enclosed : (set.all fun range => ranges.any fun other =>
      Nat.ble other.1 range.1 && Nat.ble range.2 other.2) = true)
    (has : set.has c = true) :
    (ranges.any fun range => decide (range.1 ≤ c ∧ c ≤ range.2)) = true := by
  obtain ⟨range, member, from_lo, to_hi⟩ := exists_of_has has
  obtain ⟨other, member', within⟩ :=
    List.any_eq_true.mp (List.all_eq_true.mp enclosed range member)
  rw [Bool.and_eq_true, Nat.ble_eq, Nat.ble_eq] at within
  exact List.any_eq_true.mpr ⟨other, member', decide_eq_true (by omega)⟩

end Ranges

/-! ## The characters of words -/

/-- The ranges of which the characters of words are made. -/
def wordRanges : List (Nat × Nat) :=
  Unicode.uppercaseLetter ++ Unicode.lowercaseLetter ++ Unicode.titlecaseLetter ++
    Unicode.modifierLetter ++ Unicode.otherLetter ++ Unicode.letterNumber ++
    Unicode.otherAlphabetic ++ Unicode.nonspacingMark ++ Unicode.spacingMark ++
    Unicode.enclosingMark ++ Unicode.decimalNumber ++ Unicode.connectorPunctuation ++
    [(0x200C, 0x200D)]

theorem ordered_wordRanges : ∀ range ∈ wordRanges, range.1 ≤ range.2 := by
  decide +kernel

theorem has_word (c : Nat) :
    word.has c = wordRanges.any fun range => decide (range.1 ≤ c ∧ c ≤ range.2) :=
  has_ofRanges ordered_wordRanges c

/-- The characters of words that are in ASCII. The set of all of them is too large to be evaluated,
but its ranges can be compared with those of another set. -/
theorem has_word_of_ascii (ascii : c < 0x80) : word.has c = asciiWord.has c := by
  have either : ∀ c < 0x80, (complement 0x7F asciiWord).has c = !asciiWord.has c := by decide
  have outside := either c ascii
  rw [has_word]
  cases inside : asciiWord.has c with
  | true => exact any_of_enclosed (by decide +kernel) inside
  | false =>
    rw [inside, Bool.not_false] at outside
    exact not_any_of_apart (by decide +kernel) outside

/-- White space does not belong to words. -/
theorem not_has_word_of_blank (blank : Unicode.blank.has c = true) : word.has c = false := by
  rw [has_word]
  exact not_any_of_apart (by decide +kernel) blank

end LintRun.Regex.CharSet
