import LintRun.Nolint.Directive
import LintRun.Proofs.Regex.CharSets
import LintRun.Proofs.Regex.Following
import LintRun.Proofs.Text.Blanks
import Mathlib.Data.List.Infix

/-!
# Lists of linter names

The scope of a directive is a **list**: names with commas between them, and perhaps white space
around the commas (`Listing`). A text that begins with a name begins with a longest list
(`exists_longest`), and there is only one (`IsLongest.text_eq`). A list that is the longest one ends
where no name goes on and where no comma with a name behind it follows (`IsLongest.single_iff`,
`IsLongest.tail`); nothing else is needed to find it from left to right.

From the text of a list its names are read back by cutting it at the commas (`readNames_eq`).
-/

set_option autoImplicit false

namespace LintRun.Directive

open Regex (CharSet)

/-! ## Names and what stands between them -/

/-- Whether a character may stand in the name of a linter. -/
def isNameChar (c : Char) : Bool :=
  nameChars.has c.toNat

/-- Whether a text can be written as a name. -/
structure IsName (name : List Char) : Prop where
  nonempty : name ≠ []
  inside : ∀ c ∈ name, isNameChar c = true

/-- Whether a text begins with a name. -/
def StartsName (cs : List Char) : Prop :=
  ∃ c ∈ cs.head?, isNameChar c = true

/-- Whether a text is a mark, perhaps with white space around it. -/
def IsSeparator (mark : Char) (cs : List Char) : Prop :=
  ∃ ahead behind, cs = ahead ++ mark :: behind ∧
    (∀ c ∈ ahead, Text.isBlank c = true) ∧ ∀ c ∈ behind, Text.isBlank c = true

/-- Texts that are lists, with the names in them. -/
inductive Listing : List Char → List (List Char) → Prop
  | single {name : List Char} : IsName name → Listing name [name]
  | cons {name separator text : List Char} {names : List (List Char)} :
      IsName name → IsSeparator ',' separator → Listing text names →
      Listing (name ++ (separator ++ text)) (name :: names)

/-- Whether a text is the longest list with which another one begins. -/
structure IsLongest (cs text : List Char) (names : List (List Char)) : Prop where
  listing : Listing text names
  begins : text <+: cs
  longest : ∀ other others, Listing other others → other <+: cs → other.length ≤ text.length

variable {mark c : Char} {cs name separator text rest : List Char} {names : List (List Char)}

/-! ## The characters of names -/

theorem isNameChar_eq (c : Char) : isNameChar c =
    (CharSet.word.has c.toNat || (CharSet.single '-'.toNat).has c.toNat) := by
  have ordered : ∀ range ∈ [('-'.toNat, '-'.toNat)], range.1 ≤ range.2 :=
    List.forall_mem_singleton.mpr le_rfl
  exact CharSet.has_union CharSet.ordered_wordRanges ordered c.toNat

/-- White space does not stand in names. -/
theorem isNameChar_of_isBlank (blank : Text.isBlank c = true) : isNameChar c = false := by
  have hyphen : (CharSet.single '-'.toNat).has c.toNat = false := by
    refine Bool.eq_false_iff.mpr fun same => ?_
    rw [Regex.has_single_iff.mp same] at blank
    exact absurd blank (by decide)
  rw [isNameChar_eq, CharSet.not_has_word_of_blank blank, hyphen, Bool.or_self]

theorem isBlank_of_isNameChar (inName : isNameChar c = true) : Text.isBlank c = false :=
  Bool.eq_false_iff.mpr fun blank =>
    Bool.false_ne_true ((isNameChar_of_isBlank blank).symm.trans inName)

/-- The characters of names that are in ASCII. -/
theorem isNameChar_of_ascii (ascii : c.toNat < 0x80) : isNameChar c =
    (CharSet.asciiWord.has c.toNat || (CharSet.single '-'.toNat).has c.toNat) := by
  rw [isNameChar_eq, CharSet.has_word_of_ascii ascii]

theorem isNameChar_comma : isNameChar ',' = false := by
  rw [isNameChar_of_ascii (by decide)]
  decide

theorem StartsName.isBlank_head (starts : StartsName cs) :
    ∀ c ∈ cs.head?, Text.isBlank c = false := by
  obtain ⟨c, first, inName⟩ := starts
  intro d first'
  obtain rfl := Option.some.inj (first.symm.trans first')
  exact isBlank_of_isNameChar inName

theorem StartsName.exists_cons (starts : StartsName cs) :
    ∃ c rest, cs = c :: rest ∧ IsName [c] := by
  obtain ⟨c, first, inName⟩ := starts
  obtain ⟨rest, rfl⟩ := List.head?_eq_some_iff.mp first
  exact ⟨c, rest, rfl, List.cons_ne_nil c [], List.forall_mem_singleton.mpr inName⟩

theorem IsName.startsName (isName : IsName name) (rest : List Char) :
    StartsName (name ++ rest) := by
  obtain ⟨c, others, rfl⟩ := List.exists_cons_of_ne_nil isName.nonempty
  exact ⟨c, rfl, isName.inside c List.mem_cons_self⟩

/-- The characters between two names do not belong to them. -/
theorem IsSeparator.isNameChar_of_mem (separates : IsSeparator ',' separator) :
    ∀ c ∈ separator, isNameChar c = false := by
  obtain ⟨ahead, behind, rfl, blank, blank'⟩ := separates
  intro c member
  rcases List.mem_append.mp member with member | member
  · exact isNameChar_of_isBlank (blank c member)
  · rcases List.mem_cons.mp member with rfl | member
    · exact isNameChar_comma
    · exact isNameChar_of_isBlank (blank' c member)

theorem IsSeparator.ne_nil (separates : IsSeparator mark separator) : separator ≠ [] := by
  obtain ⟨ahead, behind, rfl, -, -⟩ := separates
  exact List.append_ne_nil_of_right_ne_nil ahead (List.cons_ne_nil mark behind)

/-- What stands behind a mark is found by passing the white space and the mark. -/
theorem IsSeparator.dropWhile_eq (separates : IsSeparator mark separator)
    (other : Text.isBlank mark = false) (starts : StartsName rest) :
    (((separator ++ rest).dropWhile Text.isBlank).drop 1).dropWhile Text.isBlank = rest := by
  obtain ⟨ahead, behind, rfl, blank, blank'⟩ := separates
  rw [List.append_assoc, List.cons_append, List.dropWhile_append_of_pos blank,
    List.dropWhile_cons_of_neg (Bool.eq_false_iff.mp other), List.drop_one, List.tail_cons,
    List.dropWhile_append_of_pos blank']
  obtain ⟨c, after, rfl, -⟩ := starts.exists_cons
  exact List.dropWhile_cons_of_neg (Bool.eq_false_iff.mp (starts.isBlank_head c rfl))

/-! ## Longest lists -/

theorem Listing.startsName (listing : Listing text names) (rest : List Char) :
    StartsName (text ++ rest) := by
  cases listing with
  | single isName => exact isName.startsName rest
  | cons isName _ _ => exact (List.append_assoc ..).symm ▸ isName.startsName _

/-- A text that begins with a name begins with a longest list. -/
theorem exists_longest (starts : StartsName cs) : ∃ text names, IsLongest cs text names := by
  obtain ⟨c, rest, rfl, isName⟩ := starts.exists_cons
  -- Any list is the longest one or there is a longer one, but none is longer than the text.
  have from_list : ∀ text names, Listing text names → text <+: c :: rest →
      ∃ text names, IsLongest (c :: rest) text names := by
    intro text
    induction left : (c :: rest).length - text.length using Nat.strongRecOn generalizing text with
    | ind left ih =>
      intro names listing begins
      by_cases longest : ∀ other others, Listing other others → other <+: c :: rest →
          other.length ≤ text.length
      · exact ⟨text, names, listing, begins, longest⟩
      · push Not at longest
        obtain ⟨other, others, listing', begins', longer⟩ := longest
        have within := begins'.length_le
        exact ih _ (by omega) other rfl others listing' begins'
  exact from_list [c] [[c]] (.single isName) (List.prefix_append [c] rest)

theorem IsLongest.startsName (longest : IsLongest cs text names) : StartsName cs := by
  obtain ⟨rest, rfl⟩ := longest.begins
  exact longest.listing.startsName rest

/-- There is only one longest list. -/
theorem IsLongest.text_eq {text' : List Char} {names' : List (List Char)}
    (longest : IsLongest cs text names) (longest' : IsLongest cs text' names') : text = text' := by
  have shorter := longest'.longest text names longest.listing longest.begins
  have longer := longest.longest text' names' longest'.listing longest'.begins
  exact (List.prefix_of_prefix_length_le longest.begins longest'.begins shorter).eq_of_length
    (shorter.antisymm longer)

/-- A longest list does not go on. -/
theorem IsLongest.eq_nil_of_longer {more : List Char} {others : List (List Char)}
    (longest : IsLongest (text ++ rest) text names) (listing : Listing (text ++ more) others)
    (begins : more <+: rest) : more = [] := by
  have fits : text ++ more <+: text ++ rest := (List.prefix_append_right_inj text).mpr begins
  have length := longest.longest _ _ listing fits
  rw [List.length_append] at length
  exact List.eq_nil_of_length_eq_zero (by omega)

/-- Behind a longest list that is one name the name does not go on, and no other name follows. -/
theorem IsLongest.stops (longest : IsLongest (name ++ rest) name [name]) (isName : IsName name) :
    (∀ c ∈ rest.head?, isNameChar c = false) ∧
      ∀ separator list, rest = separator ++ list → IsSeparator ',' separator →
        ¬ StartsName list := by
  constructor
  · intro c first
    obtain ⟨rest, rfl⟩ := List.head?_eq_some_iff.mp first
    refine Bool.eq_false_iff.mpr fun inName => ?_
    have goesOn : IsName (name ++ [c]) := ⟨List.append_ne_nil_of_left_ne_nil isName.nonempty [c],
      List.forall_mem_append.mpr ⟨isName.inside, List.forall_mem_singleton.mpr inName⟩⟩
    exact List.cons_ne_nil c []
      (longest.eq_nil_of_longer (.single goesOn) (List.prefix_append [c] rest))
  · rintro separator list rfl separates starts
    obtain ⟨c, rest, rfl, isName'⟩ := starts.exists_cons
    have begins : separator ++ [c] <+: separator ++ c :: rest :=
      (List.prefix_append_right_inj separator).mpr (List.prefix_append [c] rest)
    exact separates.ne_nil (List.append_eq_nil_iff.mp
      (longest.eq_nil_of_longer (.cons isName separates (.single isName')) begins)).1

/-- Of a longest list the names after the first one are a longest list. -/
theorem IsLongest.tail (isName : IsName name) (separates : IsSeparator ',' separator)
    (listing : Listing text names)
    (longest : IsLongest (name ++ (separator ++ (text ++ rest))) (name ++ (separator ++ text))
      (name :: names)) : IsLongest (text ++ rest) text names where
  listing := listing
  begins := List.prefix_append text rest
  longest other others listing' begins := by
    have fits : name ++ (separator ++ other) <+: name ++ (separator ++ (text ++ rest)) := by
      rw [← List.append_assoc, ← List.append_assoc]
      exact (List.prefix_append_right_inj _).mpr begins
    have length := longest.longest _ _ (.cons isName separates listing') fits
    simp only [List.length_append] at length
    omega

/-- The characters of a list are in names or between them. -/
theorem Listing.of_mem (listing : Listing text names) :
    ∀ c ∈ text, isNameChar c = true ∨ Text.isBlank c = true ∨ c = ',' := by
  induction listing with
  | single isName => exact fun c member => .inl (isName.inside c member)
  | cons isName separates _ ih =>
    obtain ⟨ahead, behind, rfl, blank, blank'⟩ := separates
    intro c member
    rcases List.mem_append.mp member with inName | member
    · exact .inl (isName.inside c inName)
    · rcases List.mem_append.mp member with between | later
      · rcases List.mem_append.mp between with first | second
        · exact .inr (.inl (blank c first))
        · exact .inr ((List.mem_cons.mp second).symm.imp_left (blank' c))
      · exact ih c later

/-- A name is the longest list if what follows it cannot be in a list. -/
theorem IsName.isLongest (isName : IsName name) (ended : ∀ c ∈ rest.head?,
    ¬ (isNameChar c = true ∨ Text.isBlank c = true ∨ c = ',')) :
    IsLongest (name ++ rest) name [name] where
  listing := .single isName
  begins := List.prefix_append name rest
  longest other others listing begins := by
    refine Nat.le_of_not_lt fun longer => ?_
    obtain ⟨more, rfl⟩ :=
      List.prefix_of_prefix_length_le (List.prefix_append name rest) begins longer.le
    cases more with
    | nil => exact Nat.lt_irrefl _ (List.append_nil name ▸ longer)
    | cons c more =>
      obtain ⟨after, rfl⟩ := (List.prefix_append_right_inj name).mp begins
      have inList : c ∈ name ++ c :: more := List.mem_append_right name List.mem_cons_self
      exact ended c rfl (listing.of_mem c inList)

/-! ## Reading the names back -/

theorem exists_splitNames (cs : List Char) : ∃ first more, splitNames cs = first :: more := by
  cases cs with
  | nil => exact ⟨[], [], rfl⟩
  | cons c rest =>
    rw [splitNames]
    split
    · exact ⟨_, _, rfl⟩
    · split
      · exact ⟨_, _, rfl⟩
      · exact ⟨_, _, rfl⟩

/-- Characters that are no commas go to the first part. -/
theorem splitNames_append {first : List Char} {more : List (List Char)} (uncut : ',' ∉ name)
    (split : splitNames cs = first :: more) :
    splitNames (name ++ cs) = (name ++ first) :: more := by
  induction name with
  | nil => exact split
  | cons c name ih =>
    obtain ⟨other, uncut⟩ := List.ne_and_not_mem_of_not_mem_cons uncut
    rw [List.cons_append, splitNames, if_neg other.symm, ih uncut]
    rfl

theorem not_mem_of_blank (blank : ∀ c ∈ cs, Text.isBlank c = true) : ',' ∉ cs :=
  fun member => absurd (blank ',' member) (by decide)

theorem IsName.not_mem (isName : IsName name) : ',' ∉ name := fun member =>
  Bool.false_ne_true (isNameChar_comma.symm.trans (isName.inside ',' member))

theorem IsName.isBlank_of_mem (isName : IsName name) : ∀ c ∈ name, Text.isBlank c = false :=
  fun c member => isBlank_of_isNameChar (isName.inside c member)

/-- White space before a text does not change its parts when they are trimmed. -/
theorem map_trimChars_splitNames (blank : ∀ c ∈ cs, Text.isBlank c = true) (text : List Char) :
    (splitNames (cs ++ text)).map Text.trimChars = (splitNames text).map Text.trimChars := by
  obtain ⟨first, more, split⟩ := exists_splitNames text
  rw [splitNames_append (not_mem_of_blank blank) split, split, List.map_cons, List.map_cons,
    Text.trimChars_blank_append blank]

/-- The parts of a list between its commas are its names. -/
theorem Listing.map_trimChars_splitNames (listing : Listing text names) :
    (splitNames text).map Text.trimChars = names := by
  induction listing with
  | @single name isName =>
    have whole : splitNames (name ++ []) = [name ++ []] := splitNames_append isName.not_mem rfl
    rw [List.append_nil] at whole
    rw [whole, List.map_singleton, Text.trimChars_of_forall isName.isBlank_of_mem]
  | @cons name separator text names isName separates _ ih =>
    obtain ⟨ahead, behind, rfl, blank, blank'⟩ := separates
    have cut : splitNames (',' :: (behind ++ text)) = [] :: splitNames (behind ++ text) := rfl
    rw [List.append_assoc, List.cons_append, ← List.append_assoc,
      splitNames_append (List.not_mem_append isName.not_mem (not_mem_of_blank blank)) cut,
      List.append_nil, List.map_cons, Text.trimChars_append_of_forall isName.isBlank_of_mem blank,
      Directive.map_trimChars_splitNames blank', ih]

theorem Listing.isName_of_mem (listing : Listing text names) : ∀ name ∈ names, IsName name := by
  induction listing with
  | single isName => exact List.forall_mem_singleton.mpr isName
  | cons isName _ _ ih => exact List.forall_mem_cons.mpr ⟨isName, ih⟩

theorem Listing.ne_nil (listing : Listing text names) : names ≠ [] := by
  cases listing with
  | single => exact List.cons_ne_nil _ _
  | cons => exact List.cons_ne_nil _ _

/-- **The names of a list are read back from its text.** -/
theorem Listing.readNames_eq (listing : Listing text names) :
    readNames text = .ofList (names.map .ofList) := by
  rw [readNames, listing.map_trimChars_splitNames, List.filter_eq_self.mpr]
  intro name member
  exact decide_eq_true (listing.isName_of_mem name member).nonempty

end LintRun.Directive
