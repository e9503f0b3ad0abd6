import LintRun.Proofs.Regex.Reading.Escapes

/-!
# Classes before a bar

A class in brackets ends with a bracket, so what is in it is read without a look at what follows
the pattern (`readsClass_of_readClass`). A class of ASCII within is told from characters by its
name, which cannot go on past a bar (`readAsciiClass?_bar`).
-/

set_option autoImplicit false

namespace LintRun.Regex

variable {flags : Flags} {cs rest : List Char}

/-! ## The start of a class -/

/-- A text without a hyphen at its start has none to take. -/
theorem takeHyphens_of_ne {fuel : Nat} {c : OpenClass} (other : ∀ rest, cs ≠ '-' :: rest) :
    takeHyphens flags fuel c cs = (c, cs) := by
  unfold takeHyphens
  split
  · rename_i rest
    exact absurd rfl (other rest)
  · rfl

theorem takeHyphens_spec {fuel : Nat} {c c' : OpenClass} (enough : cs.length ≤ fuel)
    (taken : takeHyphens flags fuel c cs = (c', rest)) :
    rest.length ≤ cs.length ∧ (rest ≠ [] → ∀ more fuel', fuel ≤ fuel' →
      takeHyphens flags fuel' c (cs ++ '|' :: more) = (c', rest ++ '|' :: more)) := by
  induction fuel generalizing cs c with
  | zero =>
    obtain rfl := List.length_eq_zero_iff.mp (Nat.le_zero.mp enough)
    cases taken
    exact ⟨le_rfl, fun left => absurd rfl left⟩
  | succ fuel ih =>
    by_cases hyphen : ∃ after, cs = '-' :: after
    · obtain ⟨after, rfl⟩ := hyphen
      have less := length_skipBlanks_le flags after
      obtain ⟨shorter, steady⟩ := ih (less.trans (Nat.le_of_succ_le_succ enough)) taken
      refine ⟨(shorter.trans less).trans (Nat.le_succ _), fun left more fuel' more_fuel => ?_⟩
      obtain ⟨fuel', rfl⟩ := Nat.exists_eq_succ_of_ne_zero (Nat.ne_zero_of_lt more_fuel)
      have skipped := skipBlanks_append (ne_nil_of_length_le shorter left) ('|' :: more)
      rw [List.cons_append, takeHyphens, skipped]
      exact steady left more fuel' (Nat.le_of_succ_le_succ more_fuel)
    · have other : ∀ after, cs ≠ '-' :: after := fun after same => hyphen ⟨after, same⟩
      rw [takeHyphens_of_ne other] at taken
      cases taken
      refine ⟨le_rfl, fun left more fuel' _ => takeHyphens_of_ne ?_⟩
      exact append_bar_ne_cons (by decide) other more

/-- A caret at the start of a class, and what follows it. -/
def takeCaret (flags : Flags) : List Char → Bool × List Char
  | '^' :: rest => (true, skipBlanks flags rest)
  | cs => (false, cs)

/-- The class after carets and hyphens, with a closing bracket that stands for itself. -/
def takeBracket (flags : Flags) (c : OpenClass) : List Char → Except Fault (OpenClass × List Char)
  | [] => .error .classUnclosed
  | ']' :: rest =>
    if c.ranges.isEmpty then
      match skipBlanks flags rest with
      | [] => .error .classUnclosed
      | rest => .ok (c.add (CharSet.single ']'.toNat), rest)
    else .ok (c, ']' :: rest)
  | cs => .ok (c, cs)

theorem openClass_eq (flags : Flags) (cs : List Char) :
    openClass flags cs =
      let begun := takeCaret flags (skipBlanks flags cs)
      let hyphens := takeHyphens flags begun.2.length { negated := begun.1 } begun.2
      takeBracket flags hyphens.1 hyphens.2 := by
  unfold openClass takeCaret
  dsimp only
  generalize takeHyphens flags _ _ _ = hyphens
  obtain ⟨c, rest⟩ := hyphens
  dsimp only
  split
  · rfl
  · rfl
  · rename_i nonempty unclosed
    rw [takeBracket]
    · exact nonempty
    · exact unclosed

theorem steady_takeBracket (flags : Flags) (c : OpenClass) :
    Steady True (takeBracket flags c) .ok := by
  intro cs begun rest read
  unfold takeBracket at read ⊢
  split at read
  · cases read
  · rename_i after
    have less := length_skipBlanks_le flags after
    split at read
    · rename_i first
      split at read
      · cases read
      · rename_i nonempty
        cases read
        refine ⟨less.trans (Nat.le_succ _), fun _ more => ?_⟩
        simp only [List.cons_append, if_pos first, skipBlanks_append nonempty]
        split
        · rename_i ended
          exact absurd ended (List.append_ne_nil_of_left_ne_nil nonempty _)
        · rfl
    · rename_i later
      cases read
      refine ⟨le_rfl, fun _ more => ?_⟩
      simp only [List.cons_append, if_neg later]
  · rename_i nonempty unclosed
    cases read
    refine ⟨le_rfl, fun _ more => ?_⟩
    split
    · rename_i ended
      exact absurd ended (List.append_ne_nil_of_right_ne_nil _ (List.cons_ne_nil _ _))
    · rename_i after closed
      exact absurd closed (append_bar_ne_cons (by decide) unclosed more after)
    · rfl

theorem takeBracket_ne_nil {c begun : OpenClass}
    (read : takeBracket flags c cs = .ok (begun, rest)) : cs ≠ [] ∧ rest ≠ [] := by
  unfold takeBracket at read
  split at read
  · cases read
  · split at read
    · split at read
      · cases read
      · rename_i nonempty
        cases read
        exact ⟨List.cons_ne_nil _ _, nonempty⟩
    · cases read
      exact ⟨List.cons_ne_nil _ _, List.cons_ne_nil _ _⟩
  · rename_i nonempty _
    cases read
    exact ⟨nonempty, nonempty⟩

theorem takeCaret_spec (flags : Flags) (cs : List Char) :
    (takeCaret flags cs).2.length ≤ cs.length ∧ ((takeCaret flags cs).2 ≠ [] → ∀ more,
      takeCaret flags (cs ++ '|' :: more) =
        ((takeCaret flags cs).1, (takeCaret flags cs).2 ++ '|' :: more)) := by
  unfold takeCaret
  split
  · rename_i after
    refine ⟨(length_skipBlanks_le flags after).trans (Nat.le_succ _), fun left more => ?_⟩
    simp only [List.cons_append, skipBlanks_append left]
  · rename_i other
    refine ⟨le_rfl, fun left more => ?_⟩
    split
    · rename_i after caret
      exact absurd caret (append_bar_ne_cons (by decide) other more after)
    · rfl

theorem steady_openClass (flags : Flags) :
    Steady True (openClass flags) .ok := by
  intro cs begun rest read
  rw [openClass_eq] at read
  dsimp only at read
  set caret := takeCaret flags (skipBlanks flags cs) with caretIs
  set hyphens := takeHyphens flags caret.2.length { negated := caret.1 } caret.2 with hyphensAre
  obtain ⟨shorter, steady⟩ := steady_takeBracket flags hyphens.1 read
  obtain ⟨hyphensLeft, -⟩ := takeBracket_ne_nil read
  obtain ⟨shorterHyphens, steadyHyphens⟩ := takeHyphens_spec le_rfl hyphensAre.symm
  have caretLeft := ne_nil_of_length_le shorterHyphens hyphensLeft
  obtain ⟨shorterCaret, steadyCaret⟩ := takeCaret_spec flags (skipBlanks flags cs)
  have begunLeft := ne_nil_of_length_le shorterCaret caretLeft
  refine ⟨((shorter.trans shorterHyphens).trans shorterCaret).trans
    (length_skipBlanks_le flags cs), fun _ more => ?_⟩
  rw [openClass_eq, skipBlanks_append begunLeft, steadyCaret caretLeft more]
  dsimp only
  rw [steadyHyphens hyphensLeft more]
  · exact steady (.inr trivial) more
  · rw [List.length_append]
    exact Nat.le_add_right _ _

/-! ## Classes of ASCII -/

/-- No class of ASCII has a bar in its name. -/
theorem asciiClass?_of_bar {name : List Char} (bar : '|' ∈ name) :
    CharSet.asciiClass? (.ofList name) = none := by
  have spelled : ∀ known : String, '|' ∉ known.toList → String.ofList name ≠ known := by
    rintro _ absent rfl
    exact absent (String.toList_ofList ▸ bar)
  unfold CharSet.asciiClass?
  split
  any_goals exact absurd ‹_› (spelled _ (by decide))
  rfl

/-- The class of ASCII whose name stands before a colon and a closing bracket. -/
def namedClass? (flags : Flags) (negated : Bool) (cs : List Char) : Option (CharSet × List Char) :=
  match cs.dropWhile (· != ':') with
  | ':' :: ']' :: after =>
    (CharSet.asciiClass? (.ofList (cs.takeWhile (· != ':')))).map fun chars =>
      (if negated then chars.complement (lastFor flags) else chars, after)
  | _ => none

theorem namedClass?_bar (flags : Flags) (negated : Bool) (cs more : List Char) :
    namedClass? flags negated (cs ++ '|' :: more) =
      (namedClass? flags negated cs).map fun r => (r.1, r.2 ++ '|' :: more) := by
  unfold namedClass?
  cases named : cs.dropWhile (· != ':') with
  | nil =>
    -- The name would go on past the bar.
    have inside : ∀ c ∈ cs, (c != ':') = true := List.dropWhile_eq_nil_iff.mp named
    have bar : '|' ∈ (cs ++ '|' :: more).takeWhile (· != ':') := by
      rw [List.takeWhile_append_of_pos inside, List.takeWhile_cons_of_pos (by decide)]
      exact List.mem_append_right cs List.mem_cons_self
    rw [asciiClass?_of_bar bar]
    split <;> rfl
  | cons c after =>
    have left : cs.dropWhile (· != ':') ≠ [] := named ▸ List.cons_ne_nil c after
    rw [dropWhile_append_of_ne_nil left, takeWhile_append_of_ne_nil left, named]
    obtain ⟨rfl, -⟩ := Text.cut_iff.mp named
    cases after with
    | nil => rfl
    | cons d after =>
      by_cases closing : d = ']'
      · subst closing
        simp only [List.cons_append, Option.map_map]
        rfl
      · dsimp only [List.cons_append]
        split
        · rename_i same
          exact absurd (List.cons.inj (List.cons.inj same).2).1 closing
        · split
          · rename_i same
            exact absurd (List.cons.inj (List.cons.inj same).2).1 closing
          · rfl

theorem length_namedClass?_le {negated : Bool} {chars : CharSet}
    (found : namedClass? flags negated cs = some (chars, rest)) : rest.length ≤ cs.length := by
  have shorter := Text.length_dropWhile_le (· != ':') cs
  unfold namedClass? at found
  split at found
  · rename_i after named
    obtain ⟨_, _, same⟩ := Option.map_eq_some_iff.mp found
    cases same
    rw [named] at shorter
    exact (Nat.le_add_right _ 2).trans shorter
  · cases found

/-- A class of ASCII is there by its name, or it is not there, with a bar behind it or not. -/
theorem readAsciiClass?_cases (flags : Flags) (cs : List Char) :
    (∃ negated inner, inner.length ≤ cs.length ∧
      readAsciiClass? flags cs = namedClass? flags negated inner ∧
        ∀ more, readAsciiClass? flags (cs ++ '|' :: more) =
          namedClass? flags negated (inner ++ '|' :: more)) ∨
      readAsciiClass? flags cs = none ∧
        ∀ more, readAsciiClass? flags (cs ++ '|' :: more) = none := by
  cases cs with
  | nil => exact .inr ⟨rfl, fun _ => rfl⟩
  | cons c cs =>
    by_cases colon : c = ':'
    · subst colon
      refine .inl ?_
      cases cs with
      | nil => exact ⟨false, [], Nat.zero_le _, rfl, fun _ => rfl⟩
      | cons d cs =>
        by_cases caret : d = '^'
        · subst caret
          exact ⟨true, cs, Nat.le_add_right _ 2, rfl, fun _ => rfl⟩
        · have plain : ∀ after, readAsciiClass? flags (':' :: d :: after) =
              namedClass? flags false (d :: after) := by
            intro after
            rw [readAsciiClass?]
            · rfl
            · exact fun _ same => caret (List.cons.inj same).1
          exact ⟨false, d :: cs, Nat.le_succ _, plain cs, fun more => plain (cs ++ '|' :: more)⟩
    · have none : ∀ after, readAsciiClass? flags (c :: after) = none := by
        intro after
        rw [readAsciiClass?]
        exact fun _ same => colon (List.cons.inj same).1
      exact .inr ⟨none cs, fun more => none (cs ++ '|' :: more)⟩

/-- A class of ASCII is or is not there, whatever follows a bar: none of their names has a bar. -/
theorem readAsciiClass?_bar (flags : Flags) (cs more : List Char) :
    readAsciiClass? flags (cs ++ '|' :: more) =
      (readAsciiClass? flags cs).map fun r => (r.1, r.2 ++ '|' :: more) := by
  rcases readAsciiClass?_cases flags cs with ⟨negated, inner, -, alone, before⟩ | ⟨alone, before⟩
  · rw [alone, before, namedClass?_bar]
  · rw [alone, before, Option.map_none]

theorem length_readAsciiClass?_le {chars : CharSet}
    (found : readAsciiClass? flags cs = some (chars, rest)) : rest.length ≤ cs.length := by
  rcases readAsciiClass?_cases flags cs with ⟨negated, inner, shorter, alone, -⟩ | ⟨alone, -⟩
  · exact (length_namedClass?_le (alone.symm.trans found)).trans shorter
  · rw [alone] at found
    cases found

/-! ## Items and ranges -/

theorem steady_readClassItem (flags : Flags) :
    Steady (flags.spaced = false) (readClassItem flags) .ok := by
  intro cs item rest read
  unfold readClassItem at read ⊢
  split at read
  · cases read
  · rename_i after
    obtain ⟨⟨escape, after'⟩, escaped, read⟩ := exists_ok_of_bind read
    obtain ⟨shorter, steady⟩ := steady_readEscape flags escaped
    have onward : ∀ more, rest ≠ [] ∨ flags.spaced = false → rest = after' →
        readEscape flags (after ++ '|' :: more) = .ok (escape, after' ++ '|' :: more) := by
      rintro more left rfl
      exact steady left more
    dsimp only at read
    split at read
    · split at read
      · rename_i allowed
        cases read
        refine ⟨Nat.le_succ_of_le shorter, fun left more => ?_⟩
        simp only [List.cons_append, onward more left rfl]
        exact if_pos allowed
      · cases read
    · cases read
      refine ⟨Nat.le_succ_of_le shorter, fun left more => ?_⟩
      simp only [List.cons_append, onward more left rfl]
      rfl
    · cases read
  · rename_i c after unescaped
    split at read
    · rename_i allowed
      cases read
      refine ⟨Nat.le_succ _, fun _ more => ?_⟩
      simp only [List.cons_append, if_pos allowed]
    · cases read

/-- The character after a hyphen is the same before a bar, if there is one. -/
theorem afterHyphen_bar {c : Char} (left : skipBlanks flags cs ≠ []) (more : List Char) :
    afterHyphen flags (c :: (cs ++ '|' :: more)) = afterHyphen flags (c :: cs) := by
  obtain ⟨d, rest, start⟩ := List.exists_cons_of_ne_nil left
  rw [afterHyphen, afterHyphen, skipBlanks_append left, start]
  rfl

/-- An item as a class of its own. -/
def ClassItem.alone : ClassItem → CharSet
  | .literal n => CharSet.single n
  | .set chars => chars

/-- The range between two items. -/
def ClassItem.upTo : ClassItem → ClassItem → Except Fault CharSet
  | .literal lo, .literal hi =>
    if lo ≤ hi then .ok [(lo, hi)] else .error .classRangeReversed
  | _, _ => .error .classRangeEnd

/-- Reads what follows an item: the other end of a range, unless the item stands alone. -/
def finishRange (flags : Flags) (first : ClassItem) :
    List Char → Except Fault (CharSet × List Char)
  | [] => .error .classUnclosed
  | '-' :: rest =>
    if afterHyphen flags ('-' :: rest) = some ']' ∨ afterHyphen flags ('-' :: rest) = some '-' then
      .ok (first.alone, '-' :: rest)
    else do
      let (last, rest) ← readClassItem flags (skipBlanks flags rest)
      return (← first.upTo last, rest)
  | cs => .ok (first.alone, cs)

theorem readClassRange_eq (flags : Flags) (cs : List Char) :
    readClassRange flags cs = (do
      let (first, rest) ← readClassItem flags cs
      finishRange flags first (skipBlanks flags rest)) := by
  unfold readClassRange
  refine bind_congr fun r => ?_
  obtain ⟨first, rest⟩ := r
  dsimp only
  generalize skipBlanks flags rest = after
  split
  · rfl
  · rw [finishRange]
    split
    · rfl
    · refine bind_congr fun r => ?_
      obtain ⟨last, rest⟩ := r
      cases first with
      | literal lo =>
        cases last with
        | literal hi =>
          dsimp only [ClassItem.upTo]
          split <;> rfl
        | set chars => rfl
      | set chars => rfl
  · rw [finishRange]
    · rfl
    all_goals assumption

theorem steady_finishRange (flags : Flags) (first : ClassItem) :
    Steady (flags.spaced = false) (finishRange flags first) .ok := by
  intro cs chars rest read
  by_cases hyphen : ∃ after, cs = '-' :: after
  · obtain ⟨after, rfl⟩ := hyphen
    have less := length_skipBlanks_le flags after
    rw [finishRange] at read
    split at read
    · rename_i alone
      have left : skipBlanks flags after ≠ [] := by
        intro ended
        rw [afterHyphen, ended] at alone
        exact alone.elim nofun nofun
      cases read
      refine ⟨le_rfl, fun _ more => ?_⟩
      rw [List.cons_append, finishRange, afterHyphen_bar left, if_pos alone]
    · rename_i ranged
      obtain ⟨⟨last, afterLast⟩, item, read⟩ := exists_ok_of_bind read
      obtain ⟨chars, range, rfl, rfl⟩ := exists_ok_of_return (f := id) read
      have left : skipBlanks flags after ≠ [] := by
        intro ended
        rw [ended] at item
        cases item
      obtain ⟨shorter, steady⟩ := steady_readClassItem flags item
      refine ⟨(shorter.trans less).trans (Nat.le_succ _), fun some_left more => ?_⟩
      rw [List.cons_append, finishRange, afterHyphen_bar left, if_neg ranged,
        skipBlanks_append left, steady some_left more]
      dsimp only [bind, Except.bind]
      rw [range]
      rfl
  · have other : ∀ after, cs ≠ '-' :: after := fun after same => hyphen ⟨after, same⟩
    cases cs with
    | nil => cases read
    | cons c cs =>
      have alone : ∀ after,
          finishRange flags first (c :: after) = .ok (first.alone, c :: after) := by
        intro after
        rw [finishRange]
        · exact List.cons_ne_nil c after
        · exact fun _ same => other cs (congrArg (· :: cs) (List.cons.inj same).1)
      rw [alone] at read
      cases read
      exact ⟨le_rfl, fun _ more => alone (cs ++ '|' :: more)⟩

theorem steady_readClassRange (flags : Flags) :
    Steady (flags.spaced = false) (readClassRange flags) .ok := by
  intro cs chars rest read
  rw [readClassRange_eq] at read
  obtain ⟨⟨first, after⟩, item, read⟩ := exists_ok_of_bind read
  obtain ⟨shorterItem, steadyItem⟩ := steady_readClassItem flags item
  obtain ⟨shorter, steady⟩ := steady_finishRange flags first read
  have less := length_skipBlanks_le flags after
  have begun : skipBlanks flags after ≠ [] := by
    intro ended
    dsimp only at read
    rw [ended] at read
    cases read
  refine ⟨(shorter.trans less).trans shorterItem, fun left more => ?_⟩
  rw [readClassRange_eq, steadyItem (.inl (ne_nil_of_length_le less begun)) more]
  dsimp only [bind, Except.bind]
  rw [skipBlanks_append begun]
  exact steady left more

/-! ## Whole classes -/

theorem readClass_nil (flags : Flags) (fuel : Nat) (c : OpenClass) (outer : List OpenClass) :
    readClass flags fuel c outer [] = .error .classUnclosed := by
  cases fuel with
  | zero => rfl
  | succ fuel => rw [readClass, skipBlanks]

/-- Whether a text in a class begins with an item, and not with a bracket or an operator. -/
structure StartsItem (cs : List Char) : Prop where
  nonempty : cs ≠ []
  noOpen : ∀ rest, cs ≠ '[' :: rest
  noClose : ∀ rest, cs ≠ ']' :: rest
  noInter : ∀ rest, cs ≠ '&' :: '&' :: rest
  noDiff : ∀ rest, cs ≠ '-' :: '-' :: rest
  noSymmDiff : ∀ rest, cs ≠ '~' :: '~' :: rest

theorem StartsItem.bar (starts : StartsItem cs) (more : List Char) :
    StartsItem (cs ++ '|' :: more) where
  nonempty := List.append_ne_nil_of_left_ne_nil starts.nonempty _
  noOpen := append_bar_ne_cons (by decide) starts.noOpen more
  noClose := append_bar_ne_cons (by decide) starts.noClose more
  noInter := append_bar_ne_pair (by decide) starts.noInter more
  noDiff := append_bar_ne_pair (by decide) starts.noDiff more
  noSymmDiff := append_bar_ne_pair (by decide) starts.noSymmDiff more

theorem readClass_of_startsItem {fuel : Nat} {c : OpenClass} {outer : List OpenClass}
    (starts : StartsItem (skipBlanks flags cs)) :
    readClass flags (fuel + 1) c outer cs = (do
      let (chars, rest) ← readClassRange flags (skipBlanks flags cs)
      readClass flags fuel (c.add chars) outer rest) := by
  rw [readClass]
  split
  · exact absurd ‹_› starts.nonempty
  · exact absurd ‹_› (starts.noOpen _)
  · exact absurd ‹_› (starts.noClose _)
  · exact absurd ‹_› (starts.noInter _)
  · exact absurd ‹_› (starts.noDiff _)
  · exact absurd ‹_› (starts.noSymmDiff _)
  · rfl

section ReadsClass

variable {fuel : Nat} {c inner : OpenClass} {outer : List OpenClass} {chars : CharSet} {depth : Nat}
  {after : List Char}

/-- Whether a class is read to its end before a bar as well, and with more fuel than it takes. -/
structure ReadsClass (flags : Flags) (fuel : Nat) (c : OpenClass) (outer : List OpenClass)
    (cs : List Char) (chars : CharSet) (depth : Nat) (rest : List Char) : Prop where
  shorter : rest.length ≤ cs.length
  bar : ∀ more fuel', fuel ≤ fuel' →
    readClass flags fuel' c outer (cs ++ '|' :: more) = .ok (chars, depth, rest ++ '|' :: more)

/-- One step in a class, after which it is read to its end. -/
theorem ReadsClass.step {c' : OpenClass} {outer' : List OpenClass}
    (reads : ReadsClass flags fuel c' outer' after chars depth rest)
    (less : after.length ≤ (skipBlanks flags cs).length)
    (moved : ∀ more fuel', readClass flags (fuel' + 1) c outer (cs ++ '|' :: more) =
      readClass flags fuel' c' outer' (after ++ '|' :: more)) :
    ReadsClass flags (fuel + 1) c outer cs chars depth rest where
  shorter := (reads.shorter.trans less).trans (length_skipBlanks_le flags cs)
  bar more fuel' enough := by
    obtain ⟨fuel', rfl⟩ := Nat.exists_eq_succ_of_ne_zero (Nat.ne_zero_of_lt enough)
    exact (moved more fuel').trans (reads.bar more fuel' (Nat.le_of_succ_le_succ enough))

theorem skipBlanks_cons_bar {first : Char} (start : skipBlanks flags cs = first :: after)
    (more : List Char) :
    skipBlanks flags (cs ++ '|' :: more) = first :: (after ++ '|' :: more) := by
  have begun : skipBlanks flags cs ≠ [] := start ▸ List.cons_ne_nil first after
  rw [skipBlanks_append begun, start, List.cons_append]

theorem ReadsClass.ascii {rest' : List Char} {extra : CharSet}
    (start : skipBlanks flags cs = '[' :: after)
    (named : readAsciiClass? flags after = some (extra, rest'))
    (reads : ReadsClass flags fuel (c.add extra) outer rest' chars depth rest) :
    ReadsClass flags (fuel + 1) c outer cs chars depth rest := by
  refine reads.step ?_ fun more fuel' => ?_
  · rw [start]
    exact (length_readAsciiClass?_le named).trans (Nat.le_succ _)
  · rw [readClass, skipBlanks_cons_bar start]
    simp only [readAsciiClass?_bar, named, Option.map_some]

theorem ReadsClass.nested {rest' : List Char} (start : skipBlanks flags cs = '[' :: after)
    (unnamed : readAsciiClass? flags after = none)
    (opened : openClass flags after = .ok (inner, rest'))
    (reads : ReadsClass flags fuel inner (c :: outer) rest' chars depth rest) :
    ReadsClass flags (fuel + 1) c outer cs chars depth rest := by
  obtain ⟨shorter, steady⟩ := steady_openClass flags opened
  refine reads.step ?_ fun more fuel' => ?_
  · rw [start]
    exact shorter.trans (Nat.le_succ _)
  · rw [readClass, skipBlanks_cons_bar start]
    simp only [readAsciiClass?_bar, unnamed, Option.map_none, steady (.inr trivial) more]
    rfl

theorem ReadsClass.closed {o : OpenClass} {closed : CharSet}
    (start : skipBlanks flags cs = ']' :: after) (closes : c.close flags = .ok closed)
    (reads : ReadsClass flags fuel
      { o.add closed with depth := max (o.add closed).depth (c.depth + 1) } outer after chars depth
      rest) :
    ReadsClass flags (fuel + 1) c (o :: outer) cs chars depth rest := by
  refine reads.step ?_ fun more fuel' => ?_
  · rw [start]
    exact Nat.le_succ _
  · rw [readClass, skipBlanks_cons_bar start]
    simp only [closes]
    rfl

theorem ReadsClass.last (start : skipBlanks flags cs = ']' :: after)
    (closes : c.close flags = .ok chars) :
    ReadsClass flags (fuel + 1) c [] cs chars (c.depth + 1) after where
  shorter := by
    have less := length_skipBlanks_le flags cs
    rw [start] at less
    exact (Nat.le_succ _).trans less
  bar more fuel' enough := by
    obtain ⟨fuel', rfl⟩ := Nat.exists_eq_succ_of_ne_zero (Nat.ne_zero_of_lt enough)
    rw [readClass, skipBlanks_cons_bar start]
    simp only [closes]
    rfl

theorem ReadsClass.range {rest' : List Char} {extra : CharSet}
    (starts : StartsItem (skipBlanks flags cs))
    (ranged : readClassRange flags (skipBlanks flags cs) = .ok (extra, rest'))
    (left : rest' ≠ []) (reads : ReadsClass flags fuel (c.add extra) outer rest' chars depth rest) :
    ReadsClass flags (fuel + 1) c outer cs chars depth rest := by
  obtain ⟨shorter, steady⟩ := steady_readClassRange flags ranged
  refine reads.step shorter fun more fuel' => ?_
  have skipped := skipBlanks_append starts.nonempty ('|' :: more)
  rw [readClass_of_startsItem (skipped ▸ starts.bar more), skipped, steady (.inl left) more]
  rfl

/-- A class is the same before a bar, because its closing bracket has been found, and with more fuel
than it takes. -/
theorem readsClass_of_readClass
    (read : readClass flags fuel c outer cs = .ok (chars, depth, rest)) :
    ReadsClass flags fuel c outer cs chars depth rest := by
  induction fuel generalizing c outer cs with
  | zero => cases read
  | succ fuel ih =>
    have begun : skipBlanks flags cs ≠ [] := by
      intro ended
      rw [readClass, ended] at read
      cases read
    rw [readClass] at read
    split at read
    · cases read
    · rename_i after start
      cases named : readAsciiClass? flags after with
      | some found =>
        simp only [named] at read
        exact .ascii start named (ih read)
      | none =>
        simp only [named] at read
        obtain ⟨_, opened, read⟩ := exists_ok_of_bind read
        exact .nested start named opened (ih read)
    · rename_i after start
      obtain ⟨_, closes, read⟩ := exists_ok_of_bind read
      cases outer with
      | nil =>
        cases read
        exact .last start closes
      | cons o outer => exact .closed start closes (ih read)
    -- the three operators between classes
    iterate 3
      · rename_i after start
        refine (ih read).step (start ▸ Nat.le_add_right _ 2) fun more fuel' => ?_
        rw [readClass, skipBlanks_cons_bar start]
        rfl
    · rename_i noOpen noClose noInter noDiff noSymmDiff
      obtain ⟨⟨extra, rest'⟩, ranged, read⟩ := exists_ok_of_bind read
      have left : rest' ≠ [] := by
        rintro rfl
        cases (readClass_nil flags fuel (c.add extra) outer).symm.trans read
      exact .range ⟨begun, noOpen, noClose, noInter, noDiff, noSymmDiff⟩ ranged left (ih read)

end ReadsClass

end LintRun.Regex
