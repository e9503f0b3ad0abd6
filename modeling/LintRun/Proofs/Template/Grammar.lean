import LintRun.Proofs.Results
import LintRun.Proofs.Text.Cutting
import LintRun.Template.Parser

/-!
# The grammar of templates

A text is **of the grammar** of templates when it is a concatenation of literal text without braces
and of placeholders. A closing brace is **stray** when it closes no opening one, so that some start
of the text closes more braces than it opens.

The reader looks for a closing brace only in a placeholder and after the last one. So it accepts
placeholders that come after literal text without an opening brace, and at the end literal text
without braces (`readSegments_eq_ok_iff`, `parse_accepts_iff`). A text is of the grammar exactly if
it is accepted and has no stray brace; but one that stands before a placeholder is accepted, as in
`stray_accepted`.
-/

set_option autoImplicit false

namespace LintRun

/-- Whether some characters have no brace among them. -/
def Text.Braceless (cs : List Char) : Prop :=
  '{' ∉ cs ∧ '}' ∉ cs

instance (cs : List Char) : Decidable (Text.Braceless cs) :=
  inferInstanceAs (Decidable (_ ∧ _))

namespace Template

/-- Whether a character is a letter or a digit of ASCII or the underscore. -/
def IsNameLetter (c : Char) : Prop :=
  ('a' ≤ c ∧ c ≤ 'z') ∨ ('A' ≤ c ∧ c ≤ 'Z') ∨ ('0' ≤ c ∧ c ≤ '9') ∨ c = '_'

instance (c : Char) : Decidable (IsNameLetter c) :=
  inferInstanceAs (Decidable (_ ∨ _))

/-- Whether a text is the name of a placeholder. -/
def IsPlaceholderName (name : String) : Prop :=
  name ≠ "" ∧ ∀ c ∈ name.toList, IsNameLetter c

instance (name : String) : Decidable (IsPlaceholderName name) :=
  haveI := List.decidableBAll IsNameLetter name.toList
  inferInstanceAs (Decidable (_ ∧ _))

end Template

namespace Segment

open Text Template

/-- Whether a part is a placeholder that can be written in a template. -/
def IsPlaceholder : Segment → Prop
  | .literal _ => False
  | .value name => IsPlaceholderName name
  | .conditional name text => IsPlaceholderName name ∧ Braceless text.toList

instance : DecidablePred IsPlaceholder
  | .literal _ => inferInstanceAs (Decidable False)
  | .value name => inferInstanceAs (Decidable (IsPlaceholderName name))
  | .conditional _ _ => inferInstanceAs (Decidable (_ ∧ _))

/-- Whether a part is literal text without braces or a placeholder. -/
def IsWellFormed : Segment → Prop
  | .literal text => Braceless text.toList
  | s => s.IsPlaceholder

end Segment

namespace Template

open Text

/-- Whether a text is a concatenation of literal text without braces and placeholders. -/
def InGrammar (source : String) : Prop :=
  ∃ segments : List Segment, (∀ s ∈ segments, s.IsWellFormed) ∧ write segments = source

/-- Whether a closing brace closes no opening one: some start of the text closes more than it
opens. -/
def HasStray (cs : List Char) : Prop :=
  ∃ start, start <+: cs ∧ start.count '{' < start.count '}'

/-! ## Names and placeholders -/

theorem isNameChar_iff (c : Char) : isNameChar c = true ↔ IsNameLetter c := by
  have spelled : isNameChar c =
      (((decide (c.val ≥ 'A'.val ∧ c.val ≤ 'Z'.val) ||
        decide (c.val ≥ 'a'.val) && decide (c.val ≤ 'z'.val)) ||
        decide (c.val ≥ '0'.val) && decide (c.val ≤ '9'.val)) || c == '_') := rfl
  simp only [spelled, IsNameLetter, ge_iff_le, Bool.or_eq_true, Bool.and_eq_true,
    decide_eq_true_eq, beq_iff_eq, Char.le_def]
  constructor
  · rintro (((upper | lower) | digit) | underscore)
    · exact .inr (.inl upper)
    · exact .inl lower
    · exact .inr (.inr (.inl digit))
    · exact .inr (.inr (.inr underscore))
  · rintro (lower | upper | digit | underscore)
    · exact .inl (.inl (.inr lower))
    · exact .inl (.inl (.inl upper))
    · exact .inl (.inr digit)
    · exact .inr underscore

theorem isName_iff {name : String} : isName name.toList = true ↔ IsPlaceholderName name := by
  rw [isName, IsPlaceholderName, Bool.and_eq_true, List.all_eq_true]
  simp only [isNameChar_iff, Bool.not_eq_true', List.isEmpty_eq_false_iff, ne_eq,
    String.toList_eq_nil_iff]

theorem IsPlaceholderName.not_mem {name : String} (valid : IsPlaceholderName name) {c : Char}
    (other : ¬ IsNameLetter c) : c ∉ name.toList :=
  fun member => other (valid.2 c member)

theorem readPlaceholder_of_not_mem {inner : List Char} (uncut : '=' ∉ inner) :
    readPlaceholder inner =
      if isName inner then .ok (.value (.ofList inner))
      else .error (.invalidName (.ofList inner)) := by
  rw [readPlaceholder, takeWhile_of_not_mem uncut, dropWhile_eq_nil_iff_not_mem.mpr uncut]

theorem readPlaceholder_cut {name : List Char} (uncut : '=' ∉ name) (text : List Char) :
    readPlaceholder (name ++ '=' :: text) =
      if isName name then .ok (.conditional (.ofList name) (.ofList text))
      else .error (.invalidName (.ofList name)) := by
  rw [readPlaceholder, takeWhile_cut uncut, dropWhile_cut uncut]

theorem toList_write_value (name : String) :
    (Segment.value name).write.toList = '{' :: (name.toList ++ ['}']) := by
  rw [Segment.write, String.toList_append, String.toList_append]
  rfl

theorem toList_write_conditional (name text : String) :
    (Segment.conditional name text).write.toList =
      '{' :: ((name.toList ++ '=' :: text.toList) ++ ['}']) := by
  simp only [Segment.write, String.toList_append, List.append_assoc]
  rfl

/-- A placeholder is what is read of the characters between its braces. -/
theorem readPlaceholder_eq_ok_iff {inner : List Char} (braceless : Braceless inner)
    {s : Segment} : readPlaceholder inner = .ok s ↔
      s.IsPlaceholder ∧ s.write.toList = '{' :: (inner ++ ['}']) := by
  constructor
  · intro read
    by_cases cut : '=' ∈ inner
    · obtain ⟨name, text, rfl, uncut⟩ := List.eq_append_cons_of_mem cut
      rw [readPlaceholder_cut uncut] at read
      split at read
      · rename_i valid
        obtain rfl := Except.ok.inj read
        rw [← String.toList_ofList (l := name), isName_iff] at valid
        have plain : Braceless text :=
          ⟨fun member => braceless.1 (List.mem_append_right _ (List.mem_cons_of_mem _ member)),
            fun member => braceless.2 (List.mem_append_right _ (List.mem_cons_of_mem _ member))⟩
        refine ⟨⟨valid, by rwa [String.toList_ofList]⟩, ?_⟩
        rw [toList_write_conditional, String.toList_ofList, String.toList_ofList]
      · cases read
    · rw [readPlaceholder_of_not_mem cut] at read
      split at read
      · rename_i valid
        obtain rfl := Except.ok.inj read
        rw [← String.toList_ofList (l := inner), isName_iff] at valid
        refine ⟨valid, ?_⟩
        rw [toList_write_value, String.toList_ofList]
      · cases read
  · rintro ⟨placeholder, written⟩
    cases s with
    | literal text => exact absurd placeholder id
    | value name =>
      rw [toList_write_value] at written
      obtain rfl := List.append_cancel_right (List.cons.inj written).2
      rw [readPlaceholder_of_not_mem (placeholder.not_mem (by decide)),
        if_pos (isName_iff.mpr placeholder), String.ofList_toList]
    | conditional name text =>
      rw [toList_write_conditional] at written
      obtain rfl := List.append_cancel_right (List.cons.inj written).2
      rw [readPlaceholder_cut (placeholder.1.not_mem (by decide)),
        if_pos (isName_iff.mpr placeholder.1), String.ofList_toList, String.ofList_toList]

theorem braces_append (inner rest : List Char) :
    '{' :: (inner ++ ['}']) ++ rest = '{' :: (inner ++ '}' :: rest) := by
  rw [List.cons_append, List.append_assoc]
  rfl

/-- A placeholder is written as braceless text between braces. -/
theorem exists_inner {s : Segment} (placeholder : s.IsPlaceholder) :
    ∃ inner, Braceless inner ∧ s.write.toList = '{' :: (inner ++ ['}']) := by
  cases s with
  | literal text => exact absurd placeholder id
  | value name =>
    exact ⟨_, ⟨placeholder.not_mem (by decide), placeholder.not_mem (by decide)⟩,
      toList_write_value name⟩
  | conditional name text =>
    obtain ⟨valid, plain⟩ := placeholder
    refine ⟨_, ⟨?_, ?_⟩, toList_write_conditional name text⟩
    · simpa using ⟨valid.not_mem (by decide), plain.1⟩
    · simpa using ⟨valid.not_mem (by decide), plain.2⟩

/-! ## Lists of parts -/

/-- The lists of parts that can be read: placeholders, each after literal text without an opening
brace, and at the end literal text without braces. -/
inductive Reads : List Segment → Prop
  | last {text : List Char} : Braceless text → Reads (literalSegments text)
  | placeholder {before : List Char} {s : Segment} {rest : List Segment} :
      '{' ∉ before → s.IsPlaceholder → Reads rest → Reads (literalSegments before ++ s :: rest)

theorem toList_write (segments : List Segment) :
    (write segments).toList = segments.flatMap (·.write.toList) := by
  rw [write, String.toList_join, List.flatMap_map]

theorem toList_write_append (first second : List Segment) :
    (write (first ++ second)).toList = (write first).toList ++ (write second).toList := by
  rw [toList_write, toList_write, toList_write, List.flatMap_append]

theorem toList_write_cons (s : Segment) (rest : List Segment) :
    (write (s :: rest)).toList = s.write.toList ++ (write rest).toList := by
  rw [toList_write, toList_write, List.flatMap_cons]

theorem toList_write_literalSegments (cs : List Char) :
    (write (literalSegments cs)).toList = cs := by
  rw [literalSegments]
  split
  · rename_i empty
    rw [empty]
    rfl
  · rw [toList_write_cons, Segment.write, String.toList_ofList]
    exact List.append_nil cs

/-- Without an opening brace there is literal text or a fault. -/
theorem readSegments_of_not_mem {cs : List Char} (unopened : '{' ∉ cs) :
    readSegments cs =
      if cs.contains '}' then .error .unmatched else .ok (literalSegments cs) := by
  rw [readSegments]
  split
  · rfl
  · rename_i opened
    rw [dropWhile_eq_nil_iff_not_mem.mpr unopened] at opened
    cases opened

/-- A placeholder is read as such, and what follows it on its own. -/
theorem readSegments_placeholder {before inner : List Char} (unopened : '{' ∉ before)
    (braceless : Braceless inner) (rest : List Char) :
    readSegments (before ++ '{' :: (inner ++ '}' :: rest)) = do
      let s ← readPlaceholder inner
      let more ← readSegments rest
      return literalSegments before ++ s :: more := by
  rw [readSegments, takeWhile_cut unopened]
  split
  · rename_i opened
    rw [dropWhile_cut unopened] at opened
    cases opened
  · rename_i after opened
    rw [dropWhile_cut unopened] at opened
    obtain rfl := (List.cons.inj opened).2
    split
    · rename_i closed
      rw [dropWhile_cut braceless.2] at closed
      cases closed
    · rename_i others closed
      rw [dropWhile_cut braceless.2] at closed
      obtain rfl := (List.cons.inj closed).2
      rw [takeWhile_cut braceless.2, if_neg (by simpa using braceless.1)]

theorem readSegments_of_reads {segments : List Segment} (reads : Reads segments) :
    readSegments (write segments).toList = .ok segments := by
  induction reads with
  | @last text braceless =>
    rw [toList_write_literalSegments, readSegments_of_not_mem braceless.1,
      if_neg (by simpa using braceless.2)]
  | @placeholder before s rest unopened placeholder _ ih =>
    obtain ⟨inner, braceless, written⟩ := exists_inner placeholder
    have read := (readPlaceholder_eq_ok_iff braceless).mpr ⟨placeholder, written⟩
    rw [toList_write_append, toList_write_literalSegments, toList_write_cons, written,
      braces_append, readSegments_placeholder unopened braceless, read, ih]
    rfl

theorem reads_of_readSegments {cs : List Char} {segments : List Segment}
    (read : readSegments cs = .ok segments) :
    Reads segments ∧ (write segments).toList = cs := by
  fun_induction readSegments cs generalizing segments with
  | case1 cs => cases read
  | case2 cs opened unmatched =>
    obtain rfl := Except.ok.inj read
    refine ⟨.last ⟨dropWhile_eq_nil_iff_not_mem.mp opened, by simpa using unmatched⟩, ?_⟩
    exact toList_write_literalSegments cs
  | case3 => cases read
  | case4 => cases read
  | case5 cs c after opened c' rest closed inner nested =>
    rename_i ih
    obtain ⟨s, readInner, read⟩ := exists_ok_of_bind read
    obtain ⟨more, readRest, read⟩ := exists_ok_of_bind read
    obtain rfl := Except.ok.inj read
    obtain ⟨-, split⟩ := cut_iff.mp opened
    obtain ⟨-, splitAfter⟩ := cut_iff.mp closed
    have braceless : Braceless inner :=
      ⟨by simpa using nested, not_mem_takeWhile_cut '}' after⟩
    obtain ⟨placeholder, written⟩ := (readPlaceholder_eq_ok_iff braceless).mp readInner
    obtain ⟨reads, writtenRest⟩ := ih readRest
    refine ⟨.placeholder (not_mem_takeWhile_cut '{' cs) placeholder reads, ?_⟩
    rw [toList_write_append, toList_write_literalSegments, toList_write_cons, written, writtenRest,
      braces_append, ← splitAfter]
    exact split.symm

/-- **What is read as parts of a template**: the list of parts that can be read and is written
that way. -/
theorem readSegments_eq_ok_iff {cs : List Char} {segments : List Segment} :
    readSegments cs = .ok segments ↔ Reads segments ∧ (write segments).toList = cs := by
  refine ⟨reads_of_readSegments, ?_⟩
  rintro ⟨reads, rfl⟩
  exact readSegments_of_reads reads

/-- A text is accepted when some list of parts that can be read is written that way. -/
theorem exists_parse_iff {source : String} :
    (∃ t, parse source = .ok t) ↔ ∃ segments, Reads segments ∧ write segments = source := by
  constructor
  · rintro ⟨t, read⟩
    obtain ⟨segments, read, -⟩ := exists_ok_of_bind read
    obtain ⟨reads, written⟩ := readSegments_eq_ok_iff.mp read
    exact ⟨segments, reads, String.toList_injective written⟩
  · rintro ⟨segments, reads, rfl⟩
    refine ⟨⟨write segments, segments⟩, ?_⟩
    rw [parse, readSegments_of_reads reads]
    rfl

/-- Whether a text consists of placeholders, each after literal text without an opening brace, and
of literal text without braces at the end. -/
def IsLenient (source : String) : Prop :=
  ∃ (parts : List (String × Segment)) (last : String),
    (∀ part ∈ parts, '{' ∉ part.1.toList ∧ part.2.IsPlaceholder) ∧ Braceless last.toList ∧
    source = .join (parts.map fun part => part.1 ++ part.2.write) ++ last

theorem isLenient_iff {source : String} :
    IsLenient source ↔ ∃ segments, Reads segments ∧ write segments = source := by
  constructor
  · rintro ⟨parts, last, valid, braceless, rfl⟩
    induction parts with
    | nil =>
      refine ⟨literalSegments last.toList, .last braceless, String.toList_injective ?_⟩
      rw [toList_write_literalSegments, String.toList_append]
      rfl
    | cons part parts ih =>
      obtain ⟨unopened, placeholder⟩ := valid part List.mem_cons_self
      obtain ⟨rest, reads, written⟩ :=
        ih fun other later => valid other (List.mem_cons_of_mem _ later)
      refine ⟨_, .placeholder unopened placeholder reads, String.toList_injective ?_⟩
      rw [toList_write_append, toList_write_literalSegments, toList_write_cons, written,
        List.map_cons, String.join_cons]
      simp only [String.toList_append, List.append_assoc]
  · rintro ⟨segments, reads, rfl⟩
    induction reads with
    | @last text braceless =>
      refine ⟨[], .ofList text, nofun, by rwa [String.toList_ofList], String.toList_injective ?_⟩
      rw [toList_write_literalSegments, String.toList_append, String.toList_ofList]
      rfl
    | @placeholder before s rest unopened placeholder _ ih =>
      obtain ⟨parts, last, valid, braceless, written⟩ := ih
      refine ⟨(.ofList before, s) :: parts, last, ?_, braceless, String.toList_injective ?_⟩
      · intro part member
        rcases List.mem_cons.mp member with rfl | later
        · exact ⟨by rwa [String.toList_ofList], placeholder⟩
        · exact valid part later
      · rw [toList_write_append, toList_write_literalSegments, toList_write_cons, written,
          List.map_cons, String.join_cons]
        simp only [String.toList_append, String.toList_ofList, List.append_assoc]

/-! ## Texts of the grammar -/

/-- Adjacent literal parts can be joined: what well-formed parts write can be read, also with
literal text before it. -/
theorem exists_reads_of_isWellFormed {segments : List Segment}
    (wellFormed : ∀ s ∈ segments, s.IsWellFormed) {before : List Char}
    (braceless : Braceless before) :
    ∃ others, Reads others ∧ (write others).toList = before ++ (write segments).toList := by
  induction segments generalizing before with
  | nil =>
    refine ⟨literalSegments before, .last braceless, ?_⟩
    rw [toList_write_literalSegments]
    exact (List.append_nil before).symm
  | cons s rest ih =>
    have ofHead := wellFormed s List.mem_cons_self
    have ofRest := fun other later => wellFormed other (List.mem_cons_of_mem s later)
    have isPlaceholder : s.IsPlaceholder → ∃ others, Reads others ∧
        (write others).toList = before ++ (write (s :: rest)).toList := by
      intro placeholder
      obtain ⟨others, reads, written⟩ := @ih ofRest [] (by decide)
      refine ⟨_, .placeholder braceless.1 placeholder reads, ?_⟩
      rw [toList_write_append, toList_write_literalSegments, toList_write_cons, written,
        toList_write_cons]
      rfl
    cases s with
    | literal text =>
      have joined : Braceless (before ++ text.toList) :=
        ⟨by simpa using ⟨braceless.1, ofHead.1⟩, by simpa using ⟨braceless.2, ofHead.2⟩⟩
      obtain ⟨others, reads, written⟩ := ih ofRest joined
      refine ⟨others, reads, ?_⟩
      rw [written, toList_write_cons, List.append_assoc]
      rfl
    | value name => exact isPlaceholder ofHead
    | conditional name text => exact isPlaceholder ofHead

/-! ## Stray braces -/

/-- What comes after text that closes the braces it opens, and no others, has a stray brace on its
own or not at all. -/
theorem hasStray_append_iff {first second : List Char} (clean : ¬ HasStray first)
    (balanced : first.count '{' = first.count '}') :
    HasStray (first ++ second) ↔ HasStray second := by
  constructor
  · rintro ⟨start, inside, more⟩
    rcases List.prefix_or_prefix_of_prefix inside (List.prefix_append first second) with
      within | ⟨rest, rfl⟩
    · exact absurd ⟨start, within, more⟩ clean
    · refine ⟨rest, (List.prefix_append_right_inj first).mp inside, ?_⟩
      rw [List.count_append, List.count_append] at more
      omega
  · rintro ⟨start, inside, more⟩
    refine ⟨first ++ start, (List.prefix_append_right_inj first).mpr inside, ?_⟩
    rw [List.count_append, List.count_append]
    omega

theorem not_hasStray_of_not_mem {cs : List Char} (unclosed : '}' ∉ cs) : ¬ HasStray cs := by
  rintro ⟨start, inside, more⟩
  have none : start.count '}' = 0 := List.count_eq_zero.mpr fun member =>
    unclosed (inside.subset member)
  omega

theorem hasStray_braceless_append_iff {text : List Char} (braceless : Braceless text)
    (rest : List Char) : HasStray (text ++ rest) ↔ HasStray rest := by
  refine hasStray_append_iff (not_hasStray_of_not_mem braceless.2) ?_
  rw [List.count_eq_zero.mpr braceless.1, List.count_eq_zero.mpr braceless.2]

theorem hasStray_placeholder_append_iff {s : Segment} (placeholder : s.IsPlaceholder)
    (rest : List Char) : HasStray (s.write.toList ++ rest) ↔ HasStray rest := by
  obtain ⟨inner, braceless, written⟩ := exists_inner placeholder
  have opened : s.write.toList.count '{' = 1 := by
    simp [written, List.count_eq_zero.mpr braceless.1]
  have closed : s.write.toList.count '}' = 1 := by
    simp [written, List.count_eq_zero.mpr braceless.2]
  refine hasStray_append_iff ?_ (opened.trans closed.symm)
  rintro ⟨start, inside, more⟩
  have atMost : start.count '}' ≤ 1 := closed ▸ inside.sublist.count_le '}'
  rw [written] at inside
  rcases List.prefix_cons_iff.mp inside with rfl | ⟨others, rfl, -⟩
  · exact Nat.lt_irrefl _ more
  · rw [List.count_cons_self] at more
    omega

theorem not_hasStray_of_inGrammar {source : String} (inGrammar : InGrammar source) :
    ¬ HasStray source.toList := by
  obtain ⟨segments, wellFormed, rfl⟩ := inGrammar
  induction segments with
  | nil => exact not_hasStray_of_not_mem List.not_mem_nil
  | cons s rest ih =>
    have ofHead := wellFormed s List.mem_cons_self
    have ofRest := ih fun other later => wellFormed other (List.mem_cons_of_mem s later)
    rw [toList_write_cons]
    cases s with
    | literal text => exact mt (hasStray_braceless_append_iff ofHead _).mp ofRest
    | value name =>
      have placeholder : (Segment.value name).IsPlaceholder := ofHead
      exact mt (hasStray_placeholder_append_iff placeholder _).mp ofRest
    | conditional name text =>
      have placeholder : (Segment.conditional name text).IsPlaceholder := ofHead
      exact mt (hasStray_placeholder_append_iff placeholder _).mp ofRest

theorem isWellFormed_of_isPlaceholder {s : Segment} (placeholder : s.IsPlaceholder) :
    s.IsWellFormed := by
  cases s with
  | literal text => exact absurd placeholder id
  | value name => exact placeholder
  | conditional name text => exact placeholder

theorem isWellFormed_of_mem_literalSegments {text : List Char} (braceless : Braceless text) :
    ∀ s ∈ literalSegments text, s.IsWellFormed := by
  intro s member
  rw [literalSegments] at member
  split at member
  · exact absurd member List.not_mem_nil
  · obtain rfl := List.mem_singleton.mp member
    show Braceless (String.ofList text).toList
    rwa [String.toList_ofList]

/-- Parts that can be read are well-formed unless they write a stray brace. -/
theorem isWellFormed_of_reads {segments : List Segment} (reads : Reads segments)
    (clean : ¬ HasStray (write segments).toList) : ∀ s ∈ segments, s.IsWellFormed := by
  induction reads with
  | last braceless => exact isWellFormed_of_mem_literalSegments braceless
  | @placeholder before s rest unopened placeholder _ ih =>
    rw [toList_write_append, toList_write_literalSegments, toList_write_cons] at clean
    have unclosed : '}' ∉ before := by
      intro member
      refine clean ⟨before, List.prefix_append before _, ?_⟩
      rw [List.count_eq_zero.mpr unopened]
      exact List.count_pos_iff.mpr member
    have braceless : Braceless before := ⟨unopened, unclosed⟩
    rw [hasStray_braceless_append_iff braceless, hasStray_placeholder_append_iff placeholder]
      at clean
    intro other member
    rcases List.mem_append.mp member with ofText | later
    · exact isWellFormed_of_mem_literalSegments braceless other ofText
    · rcases List.mem_cons.mp later with rfl | inRest
      · exact isWellFormed_of_isPlaceholder placeholder
      · exact ih clean other inRest

/-- **Which texts are accepted as templates.** They are those that consist of placeholders, each
after literal text without an opening brace, and of literal text without braces at the end. Among
them, those of the grammar are the ones without a stray brace. -/
theorem parse_accepts_iff (source : String) :
    ((∃ t, parse source = .ok t) ↔ IsLenient source) ∧
    (InGrammar source ↔ (∃ t, parse source = .ok t) ∧ ¬ HasStray source.toList) := by
  refine ⟨exists_parse_iff.trans isLenient_iff.symm, fun inGrammar => ?_, ?_⟩
  · refine ⟨exists_parse_iff.mpr ?_, not_hasStray_of_inGrammar inGrammar⟩
    obtain ⟨segments, wellFormed, written⟩ := inGrammar
    obtain ⟨others, reads, same⟩ := @exists_reads_of_isWellFormed segments wellFormed [] (by decide)
    exact ⟨others, reads, String.toList_injective (written ▸ same)⟩
  · rintro ⟨accepted, clean⟩
    obtain ⟨segments, reads, rfl⟩ := exists_parse_iff.mp accepted
    exact ⟨segments, isWellFormed_of_reads reads clean, rfl⟩

/-- A stray brace before a placeholder is accepted as text. -/
theorem stray_accepted :
    HasStray "\x7d\x7ba\x7d".toList ∧ (∃ t, parse "\x7d\x7ba\x7d" = .ok t) ∧
      ¬ InGrammar "\x7d\x7ba\x7d" := by
  have stray : HasStray "\x7d\x7ba\x7d".toList := ⟨['}'], by decide, by decide⟩
  refine ⟨stray, exists_parse_iff.mpr ⟨[.literal "\x7d", .value "a"], ?_, by decide⟩,
    fun inGrammar => not_hasStray_of_inGrammar inGrammar stray⟩
  have ending : Reads (literalSegments []) := .last (by decide)
  exact @Reads.placeholder ['}'] (.value "a") [] (by decide) (by decide) ending

end Template

end LintRun
