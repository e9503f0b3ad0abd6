import LintRun.Proofs.Regex.Choices
import LintRun.Proofs.Regex.Machine
import LintRun.Proofs.Regex.Reading.Behind
import LintRun.Regex

/-!
# Patterns joined by bars

When patterns are joined by bars and read as one, each can change how the next is read: by a group
that it leaves open, by flags, among them the one that makes a comment go on past the bar, and by
the names that it takes. A pattern is `Complete` if it leaves no group open and no flag set, and
`Broken` if nothing that follows it after a bar makes it a pattern. If all but the last are one of
these (`Separable`), the joined text is a pattern exactly if each of them is one and together they
are within what is asked of one pattern (`Joinable`: the names are different, and the limits on
depth and size are kept); and it matches exactly where one of them does
(`matches_intercalate_iff`).
-/

set_option autoImplicit false

namespace LintRun.Regex

variable {source next : String} {sources : List String} {s t u : ReadState}

/-! ## Reading -/

/-- What a pattern is read to. -/
def read (source : String) : Except Fault ReadState :=
  readAll (source.toList.length + 1) {} source.toList

/-- The names of the groups of a pattern, the last one first. -/
def groupNames (source : String) : List String :=
  match read source with
  | .ok s => s.names
  | .error _ => []

/-- The alternatives of a pattern. -/
def alternatives (source : String) : List Item :=
  match read source with
  | .ok s => s.frame.alternatives
  | .error _ => []

theorem read_iff : read source = .ok s ↔ Reads {} source.toList s :=
  readAll_iff (Nat.lt_succ_self _)

theorem groupNames_of_read (reads : read source = .ok s) : groupNames source = s.names := by
  rw [groupNames, reads]

theorem alternatives_of_read (reads : read source = .ok s) :
    alternatives source = s.frame.alternatives := by
  rw [alternatives, reads]

/-- Whether a pattern can be read, closes its groups, and leaves no flag set. -/
def Complete (source : String) : Prop :=
  ∃ s, read source = .ok s ∧ s.stack = [] ∧ s.flags = {}

theorem toList_join (source more : String) :
    (source ++ "|" ++ more).toList = source.toList ++ '|' :: more.toList := by
  rw [String.toList_append, String.toList_append, List.append_assoc]
  rfl

/-- What a complete pattern and another are read to. -/
theorem read_join_iff (reads : read source = .ok t) (closed : t.stack = []) (clear : t.flags = {}) :
    read (source ++ "|" ++ next) = .ok u ↔
      ∃ s, read next = .ok s ∧ s.names.Disjoint t.names ∧ t.behind s = u := by
  rw [read_iff, toList_join, reads_join_iff (read_iff.mp reads) closed clear]
  simp only [read_iff]

/-- A complete pattern and another have the names and alternatives of both. -/
theorem parts_join (complete : Complete source) (reads : read (source ++ "|" ++ next) = .ok u)
    (closed : u.stack = []) :
    (∃ s, read next = .ok s ∧ s.stack = []) ∧
      (groupNames next).Disjoint (groupNames source) ∧
        groupNames (source ++ "|" ++ next) = groupNames next ++ groupNames source ∧
          Item.Alike (alternatives (source ++ "|" ++ next))
            (alternatives source ++ alternatives next) := by
  obtain ⟨t, first, around, clear⟩ := complete
  obtain ⟨s, second, apart, rfl⟩ := (read_join_iff first around clear).mp reads
  have inside := ReadState.stack_behind_eq_nil_iff.mp closed
  refine ⟨⟨s, second, inside⟩, ?_⟩
  rw [groupNames_of_read first, groupNames_of_read second, groupNames_of_read reads,
    alternatives_of_read first, alternatives_of_read second, alternatives_of_read reads,
    ReadState.alternatives_behind inside]
  exact ⟨apart, rfl, (Item.Alike.refl _).append (Item.Alike.shift _ _)⟩

/-- What joined patterns have of all. -/
structure JoinedOf (sources : List String) (joined : String) : Prop where
  names : ∀ name, name ∈ groupNames joined ↔ ∃ p ∈ sources, name ∈ groupNames p
  alternatives : Item.Alike (alternatives joined) (sources.flatMap alternatives)

theorem JoinedOf.single (source : String) : JoinedOf [source] source where
  names name := by simp only [List.mem_singleton, exists_eq_left]
  alternatives := by
    rw [List.flatMap_singleton]
    exact .refl _

/-! ## A pattern alone -/

variable [SizeRule]

/-- Whether a pattern is one of the language. -/
def Compiles (source : String) : Prop :=
  ∃ r, compile source = .ok r

/-- Whether a pattern is one of the language and occurs in a text. -/
def Matches (source text : String) : Prop :=
  ∃ r, compile source = .ok r ∧ r.isMatch text = true

/-- What has been read is a pattern if all groups are closed and it is within the limits. -/
theorem Node.parse_eq_ok_iff {cs : List Char} {node : Node}
    (reads : readAll (cs.length + 1) {} cs = .ok s) :
    Node.parse cs = .ok node ↔
      s.stack = [] ∧ s.frame.contents.Fits ∧ s.frame.contents.node.getD .empty = node := by
  unfold parse Item.Fits
  rw [reads]
  dsimp only [bind, Except.bind]
  by_cases unclosed : (!s.stack.isEmpty) = true
  · rw [if_pos unclosed]
    refine iff_of_false nofun fun ⟨closed, _⟩ => ?_
    rw [closed] at unclosed
    cases unclosed
  have closed : s.stack = [] := by
    rwa [Bool.not_eq_true', Bool.not_eq_false, List.isEmpty_iff] at unclosed
  rw [if_neg unclosed, and_iff_right closed]
  by_cases deep : nestLimit < s.frame.contents.depth
  · rw [if_pos deep]
    exact iff_of_false nofun fun ⟨⟨shallow, _⟩, _⟩ => shallow.not_gt deep
  rw [if_neg deep, and_iff_right (Nat.le_of_not_lt deep)]
  by_cases large : SizeRule.isTooLarge s.frame.contents.shape = true
  · rw [if_pos large]
    exact iff_of_false nofun fun ⟨room, _⟩ => Bool.eq_false_iff.mp room large
  rw [if_neg large, and_iff_right (Bool.eq_false_iff.mpr large)]
  exact ⟨Except.ok.inj, congrArg Except.ok⟩

/-- A pattern is one of the language if it can be read, closes its groups and is within the
limits. -/
theorem compile_eq_ok_iff {r : Regex} :
    compile source = .ok r ↔
      ∃ s, read source = .ok s ∧ s.stack = [] ∧ s.frame.contents.Fits ∧
        r = ⟨source, s.frame.contents.node.getD .empty⟩ := by
  constructor
  · intro compiled
    obtain ⟨node, parsed, same⟩ := exists_ok_of_bind compiled
    cases same
    obtain ⟨s, reads, -⟩ := exists_ok_of_bind parsed
    obtain ⟨closed, fits, rfl⟩ := (Node.parse_eq_ok_iff reads).mp parsed
    exact ⟨s, reads, closed, fits, rfl⟩
  · rintro ⟨s, reads, closed, fits, rfl⟩
    have parsed := (Node.parse_eq_ok_iff reads).mpr ⟨closed, fits, rfl⟩
    rw [compile, parsed]
    rfl

/-- What the strictest rule does not refuse, no rule does. -/
theorem compile_of_strictest {r : Regex}
    (compiled : @compile SizeRule.strictest source = .ok r) : compile source = .ok r := by
  obtain ⟨s, reads, closed, ⟨shallow, room⟩, same⟩ :=
    (@compile_eq_ok_iff _ SizeRule.strictest _).mp compiled
  have small : s.frame.contents.shape.estimate ≤ 0x10000 :=
    Nat.le_of_not_lt (of_decide_eq_false room)
  exact compile_eq_ok_iff.mpr
    ⟨s, reads, closed, ⟨shallow, SizeRule.not_isTooLarge_of_small small⟩, same⟩

theorem compiles_iff :
    Compiles source ↔
      ∃ s, read source = .ok s ∧ s.stack = [] ∧ (Item.choice (alternatives source)).Fits := by
  unfold Compiles
  simp only [compile_eq_ok_iff]
  constructor
  · rintro ⟨r, s, reads, closed, fits, -⟩
    rw [Frame.contents_eq_choice, ← alternatives_of_read reads] at fits
    exact ⟨s, reads, closed, fits⟩
  · rintro ⟨s, reads, closed, fits⟩
    rw [alternatives_of_read reads, ← Frame.contents_eq_choice] at fits
    exact ⟨_, s, reads, closed, fits, rfl⟩

/-- Whether a pattern is not one of the language, and is none however it goes on after a bar. -/
structure Broken (source : String) : Prop where
  alone : ¬ Compiles source
  continued : ∀ more, ¬ Compiles (source ++ "|" ++ more)

/-- Whether no pattern changes how what follows it is read: all but the last are complete, or cannot
be continued to a pattern at all. -/
def Separable (sources : List String) : Prop :=
  ∀ source ∈ sources.dropLast, Complete source ∨ Broken source

theorem Separable.tail (separable : Separable (source :: next :: sources)) :
    Separable (next :: sources) := by
  intro p member
  exact separable p (List.mem_cons_of_mem source member)

theorem JoinedOf.cons {joined : String} (of : JoinedOf sources joined) (complete : Complete source)
    (compiles : Compiles (source ++ "|" ++ joined)) :
    JoinedOf (source :: sources) (source ++ "|" ++ joined) := by
  obtain ⟨u, reads, closed, -⟩ := compiles_iff.mp compiles
  obtain ⟨-, -, names, alike⟩ := parts_join complete reads closed
  refine ⟨fun name => ?_, ?_⟩
  · rw [names, List.mem_append, of.names, List.exists_mem_cons_iff, or_comm]
  · rw [List.flatMap_cons]
    exact alike.trans ((Item.Alike.refl _).append of.alternatives)

end LintRun.Regex
