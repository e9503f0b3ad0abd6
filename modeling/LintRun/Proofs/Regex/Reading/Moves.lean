import LintRun.Proofs.Results
import LintRun.Regex.Parser

/-!
# Moves

A step of reading takes a part of the text and changes the state. Which part, and how, depends on
the flags alone: `readMove` reads a `Move` by them, and `ReadState.move?` makes it, where only the
end of a group, a repetition and the name of a group can still be refused. Both together are a step
(`toOption_readStep`), up to the fault that is named when a pattern has several.
-/

set_option autoImplicit false

namespace LintRun.Regex

variable {flags : Flags} {cs after rest : List Char} {low : Nat}

/-- The state after the start of a group that has a name. -/
def ReadState.openNamed (s : ReadState) (name : List Char) : ReadState :=
  { s.openGroup (some (s.nextGroup, some (.ofList name))) s.flags with
    nextGroup := s.nextGroup + 1, names := .ofList name :: s.names }

/-- What a step does to the state of reading. -/
inductive Move where
  | set (chars : CharSet) (depth : Nat)
  | look (condition : Look)
  | alternate
  | setFlags (flags : Flags)
  | openPlain (flags : Flags)
  | openNumbered
  | openNamed (name : List Char)
  | close
  | repeatLast (low : Nat) (high : Option Nat) (lazy : Bool)

/-- The state after a move, unless it is refused. -/
def ReadState.move? (s : ReadState) : Move → Option ReadState
  | .set chars depth => some (s.push { Item.ofSet chars with depth })
  | .look condition => some (s.push (Item.ofLook condition))
  | .alternate => some s.alternate
  | .setFlags flags => some { s.push .ofFlags with flags }
  | .openPlain flags => some (s.openGroup none flags)
  | .openNumbered =>
    some { s.openGroup (some (s.nextGroup, none)) s.flags with nextGroup := s.nextGroup + 1 }
  | .openNamed name => if String.ofList name ∈ s.names then none else some (s.openNamed name)
  | .close => s.closeGroup.toOption
  | .repeatLast low high lazy => (s.repeatLast low high lazy).toOption

/-- A group starts under a name that is new. -/
theorem ReadState.openNamed_eq_some_iff {s next : ReadState} {name : List Char} :
    s.move? (.openNamed name) = some next ↔ .ofList name ∉ s.names ∧ s.openNamed name = next := by
  rw [move?]
  by_cases known : String.ofList name ∈ s.names
  · rw [if_pos known]
    exact iff_of_false nofun fun new => new.1 known
  · rw [if_neg known, Option.some.injEq]
    exact (and_iff_right known).symm

/-- What a group leaves unchanged at its end. -/
theorem ReadState.closeGroup_eq_ok {s next : ReadState} (closes : s.closeGroup = .ok next) :
    ∃ flags frame stack, next = { s with flags, frame, stack } := by
  unfold closeGroup at closes
  split at closes
  · cases closes
  · cases closes
    exact ⟨_, _, _, rfl⟩

/-- What a repetition leaves unchanged. -/
theorem ReadState.repeatLast_eq_ok {s next : ReadState} {high : Option Nat} {lazy : Bool}
    (repeats : s.repeatLast low high lazy = .ok next) : ∃ frame, next = { s with frame } := by
  unfold repeatLast at repeats
  split at repeats
  · cases repeats
    exact ⟨_, rfl⟩
  · cases repeats

/-- Makes a move that has been read. -/
def ReadState.follow (s : ReadState) (r : Except Fault (Move × List Char)) :
    Option (ReadState × List Char) :=
  r.toOption.bind fun r => (s.move? r.1).map (·, r.2)

/-! ## Groups -/

/-- Whether a text is the name of a group. -/
def isGroupName : List Char → Bool
  | [] => false
  | c :: rest => isGroupNameChar true c && rest.all (isGroupNameChar false)

/-- Reads the name of a group and its closing angle bracket. -/
def readName (cs : List Char) : Except Fault (Move × List Char) :=
  match cs.dropWhile (· != '>') with
  | [] => .error .groupNameUnclosed
  | _ :: rest =>
    if isGroupName (cs.takeWhile (· != '>')) then .ok (.openNamed (cs.takeWhile (· != '>')), rest)
    else .error .groupNameInvalid

theorem toOption_readGroupName (s : ReadState) (cs : List Char) :
    (readGroupName s cs).toOption = s.follow (readName cs) := by
  unfold readGroupName readName
  by_cases ended : cs = []
  · subst ended
    rfl
  rw [if_neg ended]
  generalize cs.takeWhile (· != '>') = name
  cases name with
  | nil => cases cs.dropWhile (· != '>') <;> rfl
  | cons c name =>
    dsimp only
    cases valid : isGroupName (c :: name) with
    | false =>
      refine (congrArg Except.toOption (if_pos (congrArg not valid))).trans ?_
      cases cs.dropWhile (· != '>') <;> rfl
    | true =>
      have accepted := Bool.eq_false_iff.mp (congrArg not valid)
      refine (congrArg Except.toOption (if_neg accepted)).trans ?_
      cases cs.dropWhile (· != '>') with
      | nil => rfl
      | cons d rest =>
        have named : String.ofList (c :: name) ≠ "" := fun empty =>
          List.cons_ne_nil c name (String.ofList_eq_empty_iff.mp empty)
        refine (congrArg Except.toOption (if_neg named)).trans ?_
        change _ = Option.map (·, rest)
          (if String.ofList (c :: name) ∈ s.names then none else some (s.openNamed (c :: name)))
        by_cases known : String.ofList (c :: name) ∈ s.names
        · rw [if_pos (List.contains_iff_mem.mpr known), if_pos known]
          rfl
        · rw [if_neg (mt List.contains_iff_mem.mp known), if_neg known]
          rfl

/-- Reads what ends flags. -/
def finishFlags (flags : Flags) (letters : List Char) :
    List Char → Except Fault (Move × List Char)
  | ')' :: rest => if letters = [] then .error .repetitionMissing else .ok (.setFlags flags, rest)
  | rest => .ok (.openPlain flags, rest.drop 1)

/-- Reads flags, and whether they are for a group or for what follows. -/
def readFlagged (flags : Flags) (cs : List Char) : Except Fault (Move × List Char) := do
  let (flags, letters, rest) ← readFlags flags true [] cs
  finishFlags flags letters rest

/-- How a group starts. -/
inductive Opening where
  | lookAround
  | named
  | flagged
  | numbered

/-- Tells how a group starts, and what is left then. -/
def takeOpening : List Char → Opening × List Char
  | '?' :: '=' :: rest | '?' :: '!' :: rest
  | '?' :: '<' :: '=' :: rest | '?' :: '<' :: '!' :: rest => (.lookAround, rest)
  | '?' :: 'P' :: '<' :: rest => (.named, rest)
  | '?' :: '<' :: rest => (.named, rest)
  | '?' :: rest => (.flagged, rest)
  | rest => (.numbered, rest)

/-- Reads what follows an opening parenthesis. -/
def readOpening (flags : Flags) (cs : List Char) : Except Fault (Move × List Char) :=
  match takeOpening (skipBlanks flags cs) with
  | (.lookAround, _) => .error .lookAround
  | (.named, rest) => readName rest
  | (.flagged, rest) => readFlagged flags rest
  | (.numbered, rest) => .ok (.openNumbered, rest)

theorem toOption_readGroup (s : ReadState) (cs : List Char) :
    (readGroup s cs).toOption = s.follow (readOpening s.flags cs) := by
  unfold readGroup readOpening
  generalize skipBlanks s.flags cs = start
  split
  iterate 4
    · rw [takeOpening]
      rfl
  · rw [takeOpening]
    exact toOption_readGroupName ..
  · rw [takeOpening]
    · exact toOption_readGroupName ..
    · assumption
    · assumption
  · rename_i rest _ _ _ _ _ _
    rw [takeOpening]
    · split
      · rename_i ended
        subst ended
        rfl
      · dsimp only
        unfold readFlagged
        cases readFlags s.flags true [] rest with
        | error fault => rfl
        | ok r =>
          obtain ⟨flags, letters, after⟩ := r
          dsimp only [bind, Except.bind]
          split
          · rw [finishFlags]
            split <;> rfl
          · rename_i open_
            rw [finishFlags]
            · rfl
            · exact open_
    all_goals assumption
  · rw [takeOpening]
    · rfl
    all_goals assumption

/-! ## Repetitions -/

/-- Reads what may follow a repetition. -/
def readRepetition (low : Nat) (high : Option Nat) (cs : List Char) :
    Except Fault (Move × List Char) :=
  .ok (.repeatLast low high (takeLazy cs).1, (takeLazy cs).2)

theorem follow_repeatLast (s : ReadState) (low : Nat) (high : Option Nat) (lazy : Bool)
    (rest : List Char) : s.follow (.ok (.repeatLast low high lazy, rest)) =
      (do return (← s.repeatLast low high lazy, rest) : Except Fault _).toOption := by
  change (s.repeatLast low high lazy).toOption.map (·, rest) = _
  cases s.repeatLast low high lazy <;> rfl

/-- Reads the greatest count after the least one. -/
def readHigh (flags : Flags) (low : Nat) : List Char → Except Fault (Option Nat × List Char)
  | ',' :: rest =>
    match skipBlanks flags rest with
    | [] => .error .countUnclosed
    | '}' :: rest => .ok (none, '}' :: rest)
    | rest => do
      let (high, rest) ← readCount flags rest
      return (some high, rest)
  | cs => .ok (some low, cs)

theorem readHigh_of_nil (start : skipBlanks flags after = []) :
    readHigh flags low (',' :: after) = .error .countUnclosed := by
  rw [readHigh, start]

theorem readHigh_of_brace (start : skipBlanks flags after = '}' :: rest) :
    readHigh flags low (',' :: after) = .ok (none, '}' :: rest) := by
  rw [readHigh, start]
  rfl

theorem readHigh_of_count (begun : skipBlanks flags after ≠ [])
    (counted : ∀ rest, skipBlanks flags after ≠ '}' :: rest) :
    readHigh flags low (',' :: after) = (do
      let (high, rest) ← readCount flags (skipBlanks flags after)
      return (some high, rest)) := by
  rw [readHigh]
  split
  · exact absurd ‹_› begun
  · exact absurd ‹_› (counted _)
  · rfl

/-- Reads the end of counts after the closing brace. -/
def readLast (flags : Flags) (low : Nat) (high : Option Nat) :
    List Char → Except Fault (Move × List Char)
  | '}' :: rest =>
    let (lazy, rest) := takeLazy (skipBlanks flags rest)
    if low ≤ high.getD low then .ok (.repeatLast low high lazy, rest) else .error .countReversed
  | _ => .error .countUnclosed

/-- Reads a count in braces after the opening one. -/
def readRange (flags : Flags) (cs : List Char) : Except Fault (Move × List Char) :=
  let cs := skipBlanks flags cs
  if cs = [] then .error .countUnclosed
  else do
    let (low, cs) ← readCount flags cs
    let (high, cs) ← readHigh flags low cs
    readLast flags low high cs

/-- Making a move that repeats is what is left to do after the counts. -/
theorem follow_readLast (s : ReadState) (low : Nat) (high : Option Nat) (cs : List Char) :
    Except.toOption (ε := Fault) (match cs with
        | '}' :: rest =>
          if low ≤ high.getD low then do
            return (← s.repeatLast low high (takeLazy (skipBlanks s.flags rest)).1,
              (takeLazy (skipBlanks s.flags rest)).2)
          else throw .countReversed
        | _ => throw .countUnclosed) =
      s.follow (readLast s.flags low high cs) := by
  unfold readLast
  split
  · dsimp only
    split
    · exact (follow_repeatLast s low high _ _).symm
    · rfl
  · rfl

theorem exists_of_readRange {r : Move × List Char} (read : readRange flags cs = .ok r) :
    ∃ low high lazy, r.1 = .repeatLast low high lazy := by
  unfold readRange at read
  dsimp only at read
  split at read
  · cases read
  obtain ⟨⟨low, after⟩, -, read⟩ := exists_ok_of_bind read
  obtain ⟨⟨high, after⟩, -, read⟩ := exists_ok_of_bind read
  unfold readLast at read
  split at read
  · dsimp only at read
    split at read
    · cases read
      exact ⟨low, high, _, rfl⟩
    · cases read
  · cases read

/-- Nothing is repeated where the last part is none. -/
theorem ReadState.repeatLast_refused {s : ReadState} {high : Option Nat} {lazy : Bool}
    (none_last : ∀ node depth shape items, s.frame.items ≠ ⟨some node, depth, shape⟩ :: items) :
    (s.repeatLast low high lazy).toOption = none := by
  unfold repeatLast
  split
  · rename_i last
    exact absurd last (none_last _ _ _ _)
  · rfl

/-- Counts for the last part. -/
theorem toOption_readCounts_of_last {s : ReadState} {node : Node} {depth : Nat} {shape : Shape}
    {items : List Item} (last : s.frame.items = ⟨some node, depth, shape⟩ :: items)
    (cs : List Char) : (readCounts s cs).toOption = s.follow (readRange s.flags cs) := by
  unfold readCounts readRange
  rw [last]
  dsimp only
  by_cases ended : skipBlanks s.flags cs = []
  · rw [if_pos ended, if_pos ended]
    rfl
  rw [if_neg ended, if_neg ended]
  cases readCount s.flags (skipBlanks s.flags cs) with
  | error fault => rfl
  | ok r =>
    obtain ⟨low, after⟩ := r
    dsimp only [bind, Except.bind]
    split
    · rename_i tail
      split
      · rename_i start
        rw [readHigh_of_nil start]
        rfl
      · rename_i rest start
        rw [readHigh_of_brace start]
        exact follow_readLast s low none ('}' :: rest)
      · rename_i nonempty unclosed
        rw [readHigh_of_count nonempty unclosed]
        cases readCount s.flags (skipBlanks s.flags tail) with
        | error fault => rfl
        | ok r => exact follow_readLast s low (some r.1) r.2
    · rename_i single
      rw [readHigh]
      · exact follow_readLast s low (some low) after
      · exact single

/-- Counts are for the last part, and without one they are refused. -/
theorem toOption_readCounts (s : ReadState) (cs : List Char) :
    (readCounts s cs).toOption = s.follow (readRange s.flags cs) := by
  by_cases repeatable : ∃ node depth shape items, s.frame.items = ⟨some node, depth, shape⟩ :: items
  · obtain ⟨node, depth, shape, items, last⟩ := repeatable
    exact toOption_readCounts_of_last last cs
  have none_last : ∀ node depth shape items, s.frame.items ≠ ⟨some node, depth, shape⟩ :: items :=
    fun _ _ _ _ last => repeatable ⟨_, _, _, _, last⟩
  have refused : (readCounts s cs).toOption = none := by
    unfold readCounts
    split
    · rename_i last
      exact absurd last (none_last _ _ _ _)
    · rfl
  rw [refused]
  cases ranged : readRange s.flags cs with
  | error fault => rfl
  | ok r =>
    obtain ⟨low, high, lazy, same⟩ := exists_of_readRange ranged
    change none = (s.move? r.1).map (·, r.2)
    rw [same]
    exact (congrArg (Option.map (·, r.2)) (ReadState.repeatLast_refused none_last)).symm

/-! ## Steps -/

/-- What an escape outside of a class does. -/
def Escape.move (flags : Flags) : Escape → Except Fault Move
  | .literal c byte =>
    if byte && !flags.unicode && 0x80 ≤ c.toNat then .error .notText
    else .ok (.set (literalSet flags c) 0)
  | .set chars => .ok (.set chars 0)
  | .look condition => .ok (.look condition)

/-- Reads the class after a bracket. -/
def readBracket (flags : Flags) (cs : List Char) : Except Fault (Move × List Char) := do
  let (first, rest) ← openClass flags cs
  let (chars, depth, rest) ← readClass flags (rest.length + 1) first [] rest
  return (.set chars depth, rest)

/-- Reads what follows a backslash, outside of a class. -/
def readEscaped (flags : Flags) (cs : List Char) : Except Fault (Move × List Char) := do
  let (escape, rest) ← readEscape flags cs
  return (← escape.move flags, rest)

/-- Reads a move. -/
def readMove (flags : Flags) (c : Char) (cs : List Char) : Except Fault (Move × List Char) :=
  match c with
  | '(' => readOpening flags cs
  | ')' => .ok (.close, cs)
  | '|' => .ok (.alternate, cs)
  | '[' => readBracket flags cs
  | '?' => readRepetition 0 (some 1) cs
  | '*' => readRepetition 0 none cs
  | '+' => readRepetition 1 none cs
  | '{' => readRange flags cs
  | '\\' => readEscaped flags cs
  | '.' => do return (.set (← dotSet flags) 0, cs)
  | '^' => .ok (.look (startLook flags), cs)
  | '$' => .ok (.look (endLook flags), cs)
  | c => .ok (.set (literalSet flags c) 0, cs)

/-- A step is a move that the flags tell. -/
theorem toOption_readStep (s : ReadState) (c : Char) (cs : List Char) :
    (readStep s (c :: cs)).toOption = s.follow (readMove s.flags c cs) := by
  unfold readStep
  dsimp only
  split
  · exact toOption_readGroup s cs
  · change _ = s.closeGroup.toOption.map (·, cs)
    cases s.closeGroup <;> rfl
  · rfl
  · change _ = s.follow (readBracket s.flags cs)
    unfold readBracket
    cases openClass s.flags cs with
    | error fault => rfl
    | ok r =>
      dsimp only [bind, Except.bind]
      cases readClass s.flags _ r.1 [] r.2 <;> rfl
  iterate 3
    · exact (follow_repeatLast ..).symm
  · exact toOption_readCounts s cs
  · change _ = s.follow (readEscaped s.flags cs)
    unfold readEscaped
    cases readEscape s.flags cs with
    | error fault => rfl
    | ok r =>
      obtain ⟨escape, rest⟩ := r
      dsimp only [bind, Except.bind]
      cases escape with
      | literal c byte =>
        unfold Escape.item Escape.move
        dsimp only
        cases byte && !s.flags.unicode && decide (0x80 ≤ c.toNat) <;> rfl
      | set chars => rfl
      | look condition => rfl
  · change _ = s.follow (do return (.set (← dotSet s.flags) 0, cs))
    cases dotSet s.flags <;> rfl
  · rfl
  · rfl
  · rw [readMove]
    · rfl
    all_goals assumption

end LintRun.Regex
