import LintRun.Text.Blank
import LintRun.Text.Lower

/-!
# Lower case once and twice

A character is **settled** when lower case leaves it as it is, wherever it stands. Lower case of a
text gives settled characters alone (`settled_of_mem_lowerChars`), so it is its own lower case
(`lowerChars_lowerChars`).

It goes character by character: each one becomes one or more others, which are white space only if
it is, and white space stays as it is (`lowersTo_lowerChars`). What stands around a character
decides no more than which of its two small forms a sigma takes.

All this comes down to the table of single characters, whose images are neither in the table nor
white space. It would take long to look for each image among all these code points; as sets of bits
the lists are compared in one step (`not_mem_of_bits`).
-/

set_option autoImplicit false

namespace LintRun

namespace Unicode

/-! ## The table of single characters -/

/-- Some code points as the bits of a number. -/
def bits : List Nat → Nat
  | [] => 0
  | n :: rest => 1 <<< n ||| bits rest

theorem testBit_bits (ns : List Nat) (n : Nat) : (bits ns).testBit n = true ↔ n ∈ ns := by
  induction ns with
  | nil => simp [bits]
  | cons m rest ih =>
    have single : (1 <<< m).testBit n = true ↔ n = m := by
      rw [Nat.testBit_shiftLeft, Bool.and_eq_true, decide_eq_true_iff,
        Nat.testBit_one_eq_true_iff_self_eq_zero]
      omega
    rw [bits, Nat.testBit_or, Bool.or_eq_true, single, ih, List.mem_cons]

theorem not_mem_of_bits {ns ms : List Nat} (apart : bits ns &&& bits ms = 0) {n : Nat}
    (member : n ∈ ns) : n ∉ ms := by
  intro inBoth
  have both : (bits ns &&& bits ms).testBit n = true := by
    rw [Nat.testBit_and, Bool.and_eq_true]
    exact ⟨(testBit_bits ns n).mpr member, (testBit_bits ms n).mpr inBoth⟩
  rw [apart, Nat.zero_testBit] at both
  cases both

/-- The code points in some ranges. -/
def Ranges.points (ranges : Ranges) : List Nat :=
  ranges.flatMap fun range => (List.range (range.2 - range.1 + 1)).map (range.1 + ·)

theorem Ranges.mem_points_of_has {ranges : Ranges} {n : Nat} (inside : ranges.has n = true) :
    n ∈ ranges.points := by
  induction ranges with
  | nil => cases inside
  | cons range rest ih =>
    rw [Ranges.has] at inside
    rw [points, List.flatMap_cons, List.mem_append]
    split at inside
    · cases inside
    · rename_i notBelow
      split at inside
      · rename_i notAbove
        exact .inl (List.mem_map.mpr ⟨n - range.1, List.mem_range.mpr (by omega), by omega⟩)
      · exact .inr (ih inside)

theorem mem_pairs {run : CaseRun} {n image : Nat} (found : run.find? n = some image) :
    (n, image) ∈ run.pairs := by
  rw [CaseRun.find?] at found
  split at found
  · rename_i inside
    obtain ⟨least, greatest, stepped⟩ := inside
    cases found
    have count : (n - run.first) / run.step * run.step = n - run.first :=
      Nat.div_mul_cancel (Nat.dvd_of_mod_eq_zero stepped)
    refine List.mem_map.mpr ⟨(n - run.first) / run.step, List.mem_range.mpr ?_, ?_⟩
    · exact Nat.lt_succ_of_le (Nat.div_le_div_right (Nat.sub_le_sub_right greatest run.first))
    · rw [count, Nat.add_sub_cancel' least]
  · cases found

/-- The code points that lower case changes. The first one is not in the table, as its lower case
is more than one character. -/
def changedPoints : List Nat :=
  0x130 :: lowercaseRuns.flatMap fun run => run.pairs.map (·.1)

/-- The images in the table. -/
def loweredPoints : List Nat :=
  lowercaseRuns.flatMap fun run => run.pairs.map (·.2)

theorem mapCase_of_not_changed {n : Nat} (unchanged : n ∉ changedPoints) :
    mapCase lowercaseRuns n = n := by
  have none : lowercaseRuns.findSome? (·.find? n) = none := by
    refine List.findSome?_eq_none_iff.mpr fun run member => ?_
    cases found : run.find? n with
    | none => rfl
    | some image =>
      refine absurd (List.mem_cons_of_mem _ (List.mem_flatMap.mpr ⟨run, member, ?_⟩)) unchanged
      exact List.mem_map_of_mem (mem_pairs found)
  rw [mapCase, none]
  rfl

theorem mapCase_eq_or_lowered (n : Nat) :
    mapCase lowercaseRuns n = n ∨ mapCase lowercaseRuns n ∈ loweredPoints := by
  rw [mapCase]
  cases found : lowercaseRuns.findSome? (·.find? n) with
  | none => exact .inl rfl
  | some image =>
    obtain ⟨run, member, inRun⟩ := List.exists_of_findSome?_eq_some found
    refine .inr (List.mem_flatMap.mpr ⟨run, member, ?_⟩)
    exact List.mem_map_of_mem (mem_pairs inRun)

theorem lowered_apart : bits loweredPoints &&& bits (changedPoints ++ blank.points) = 0 := by
  decide +kernel

theorem blank_apart : bits blank.points &&& bits changedPoints = 0 := by
  decide +kernel

theorem lowered_valid : ∀ n ∈ loweredPoints, n.isValidChar := by
  decide +kernel

end Unicode

namespace Text

open Unicode

/-! ## Lower case of a character -/

theorem mem_points_of_isBlank {c : Char} (space : isBlank c = true) : c.toNat ∈ blank.points :=
  Ranges.mem_points_of_has space

/-- Whether lower case leaves a character as it is, wherever it stands. -/
def Settled (c : Char) : Prop :=
  c ≠ 'Σ' ∧ lowerChar c = [c]

instance (c : Char) : Decidable (Settled c) :=
  inferInstanceAs (Decidable (_ ∧ _))

theorem settled_of_not_changed {c : Char} (unchanged : c.toNat ∉ changedPoints) : Settled c := by
  have changes : 'İ'.toNat ∈ changedPoints ∧ 'Σ'.toNat ∈ changedPoints := by
    decide
  refine ⟨fun sigma => unchanged (sigma ▸ changes.2), ?_⟩
  have notDotted : c ≠ 'İ' := fun dotted => unchanged (dotted ▸ changes.1)
  rw [lowerChar, if_neg notDotted, mapCase_of_not_changed unchanged, Char.ofNat_toNat]

/-- Whether a character becomes some others in lower case. -/
structure Lowers (c : Char) (image : List Char) : Prop where
  nonempty : image ≠ []
  settled : ∀ d ∈ image, Settled d
  blank : isBlank c = true → image = [c]
  plain : isBlank c = false → ∀ d ∈ image, isBlank d = false

/-- A character that is not white space may become others that are settled and not white space
either. -/
theorem Lowers.of_plain {c : Char} {image : List Char} (plain : isBlank c = false)
    (nonempty : image ≠ []) (all : ∀ d ∈ image, Settled d ∧ isBlank d = false) :
    Lowers c image where
  nonempty := nonempty
  settled d member := (all d member).1
  blank space := by
    rw [plain] at space
    cases space
  plain _ d member := (all d member).2

/-- That characters are settled and not white space is checked one by one. -/
theorem Lowers.of_all {c : Char} {image : List Char} (plain : isBlank c = false)
    (nonempty : image ≠ []) (all : (image.all fun d => Settled d ∧ isBlank d = false) = true) :
    Lowers c image :=
  .of_plain plain nonempty fun d member => of_decide_eq_true (List.all_eq_true.mp all d member)

theorem lowers_lowerChar {c : Char} (other : c ≠ 'Σ') : Lowers c (lowerChar c) := by
  by_cases dotted : c = 'İ'
  · subst dotted
    exact .of_all (by decide) (by decide) (by decide)
  · have single : lowerChar c = [Char.ofNat (mapCase lowercaseRuns c.toNat)] := if_neg dotted
    rcases mapCase_eq_or_lowered c.toNat with same | lowered
    · rw [same, Char.ofNat_toNat] at single
      rw [single]
      refine ⟨List.cons_ne_nil _ _, fun d member => ?_, fun _ => rfl, fun plain d member => ?_⟩
      · rw [List.mem_singleton.mp member]
        exact ⟨other, single⟩
      · rwa [List.mem_singleton.mp member]
    · -- White space is not in the table, so neither is it mapped nor can it be an image.
      have image : (Char.ofNat (mapCase lowercaseRuns c.toNat)).toNat =
          mapCase lowercaseRuns c.toNat := by
        rw [Char.ofNat, dif_pos (lowered_valid _ lowered)]
        rfl
      have apart := not_mem_of_bits lowered_apart lowered
      rw [List.mem_append, not_or] at apart
      obtain ⟨unchanged, notBlank⟩ := apart
      rw [single]
      refine .of_plain ?_ (List.cons_ne_nil _ _) fun d member => ?_
      · refine Bool.eq_false_iff.mpr fun space => ?_
        have inPoints := mem_points_of_isBlank space
        rw [mapCase_of_not_changed (not_mem_of_bits blank_apart inPoints)] at notBlank
        exact notBlank inPoints
      · rw [List.mem_singleton.mp member]
        refine ⟨settled_of_not_changed (image.symm ▸ unchanged), ?_⟩
        refine Bool.eq_false_iff.mpr fun space => notBlank ?_
        have inPoints := mem_points_of_isBlank space
        rwa [image] at inPoints

theorem lowers_sigma {image : List Char} (small : image = ['ς'] ∨ image = ['σ']) :
    Lowers 'Σ' image := by
  rcases small with rfl | rfl <;> exact .of_all (by decide) (by decide) (by decide)

/-! ## Lower case of a text -/

/-- Whether characters become others in lower case, each for itself. -/
inductive LowersTo : List Char → List Char → Prop where
  | nil : LowersTo [] []
  | cons {c : Char} {image cs ds : List Char} (first : Lowers c image) (rest : LowersTo cs ds) :
      LowersTo (c :: cs) (image ++ ds)

/-- **Lower case goes character by character.** -/
theorem lowersTo_lowerAfter (before cs : List Char) : LowersTo cs (lowerAfter before cs) := by
  induction cs generalizing before with
  | nil => exact .nil
  | cons c rest ih =>
    rw [lowerAfter]
    refine .cons ?_ (ih (c :: before))
    by_cases sigma : c = 'Σ'
    · subst sigma
      rw [if_pos rfl]
      refine lowers_sigma ?_
      split
      · exact .inl rfl
      · exact .inr rfl
    · rw [if_neg sigma]
      exact lowers_lowerChar sigma

theorem lowersTo_lowerChars (cs : List Char) : LowersTo cs (lowerChars cs) :=
  lowersTo_lowerAfter [] cs

namespace LowersTo

variable {cs cs' ds : List Char}

theorem settled (lowers : LowersTo cs ds) : ∀ d ∈ ds, Settled d := by
  induction lowers with
  | nil => exact fun _ member => absurd member List.not_mem_nil
  | cons first _ ih =>
    intro d member
    rcases List.mem_append.mp member with ofFirst | ofRest
    · exact first.settled d ofFirst
    · exact ih d ofRest

theorem plain (lowers : LowersTo cs ds) (plain : ∀ c ∈ cs, isBlank c = false) :
    ∀ d ∈ ds, isBlank d = false := by
  induction lowers with
  | nil => exact fun _ member => absurd member List.not_mem_nil
  | cons first _ ih =>
    intro d member
    rcases List.mem_append.mp member with ofFirst | ofRest
    · exact first.plain (plain _ List.mem_cons_self) d ofFirst
    · exact ih (fun c later => plain c (List.mem_cons_of_mem _ later)) d ofRest

theorem ne_nil (lowers : LowersTo cs ds) (nonempty : cs ≠ []) : ds ≠ [] := by
  cases lowers with
  | nil => exact nonempty
  | cons first _ => exact List.append_ne_nil_of_left_ne_nil first.nonempty _

theorem exists_of_append (lowers : LowersTo (cs ++ cs') ds) :
    ∃ es es', ds = es ++ es' ∧ LowersTo cs es ∧ LowersTo cs' es' := by
  induction cs generalizing ds with
  | nil => exact ⟨[], ds, rfl, .nil, lowers⟩
  | cons c rest ih =>
    cases lowers with
    | cons first others =>
      obtain ⟨es, es', rfl, ofRest, ofNext⟩ := ih others
      exact ⟨_, es', (List.append_assoc ..).symm, .cons first ofRest, ofNext⟩

end LowersTo

theorem settled_of_mem_lowerChars {cs : List Char} {d : Char} (member : d ∈ lowerChars cs) :
    Settled d :=
  (lowersTo_lowerChars cs).settled d member

/-- Lower case leaves settled characters as they are. -/
theorem lowerChars_of_settled {cs : List Char} (settled : ∀ c ∈ cs, Settled c) :
    lowerChars cs = cs := by
  have anywhere : ∀ before, lowerAfter before cs = cs := by
    induction cs with
    | nil => exact fun _ => rfl
    | cons c rest ih =>
      intro before
      obtain ⟨other, same⟩ := settled c List.mem_cons_self
      rw [lowerAfter, if_neg other, same,
        ih (fun d later => settled d (List.mem_cons_of_mem c later)), List.singleton_append]
  exact anywhere []

/-- **Lower case is its own lower case.** -/
theorem lowerChars_lowerChars (cs : List Char) : lowerChars (lowerChars cs) = lowerChars cs :=
  lowerChars_of_settled fun _ => settled_of_mem_lowerChars

/-- Capitals that have their small letters since version 16.0 only. -/
example :
    let small := ['\u1C8A', '\u0264', '\u019B', Char.ofNat 0x10D70]
    lowerChars ['\u1C89', '\uA7CB', '\uA7DC', Char.ofNat 0x10D50] = small ∧
      lowerChars small = small := by
  decide

end Text

end LintRun
