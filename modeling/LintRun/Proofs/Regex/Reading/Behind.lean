import LintRun.Proofs.Regex.Numbering
import LintRun.Proofs.Regex.Reading.Relation

/-!
# Reading behind another pattern

After a bar the reader is in the state in which it starts a pattern, but with what stands before the
bar: earlier alternatives, the numbers that are taken, and the names that are (`ReadState.behind`).
It then makes the moves that it would make at the start of a pattern, except that no group may have
a name that stands before the bar (`Reads.behind_iff`).
-/

set_option autoImplicit false

namespace LintRun.Regex

variable {s s' t u next : ReadState} {cs : List Char} {m : Move}

/-! ## States -/

/-- How many groups there are so far. -/
def ReadState.groups (t : ReadState) : Nat :=
  t.nextGroup - 1

/-- A group behind another pattern; if it is the whole pattern, the alternatives of the other are
before its own. -/
def Frame.behind (t : ReadState) (whole : Bool) (f : Frame) : Frame :=
  if whole then
    { t.frame with
      branches := f.branches.map (Item.shift t.groups) ++ t.frame.sequence :: t.frame.branches
      items := f.items.map (Item.shift t.groups) }
  else f.shift t.groups

/-- The groups around another, the last of which is the whole pattern. -/
def Frame.allBehind (t : ReadState) : List Frame → List Frame
  | [] => []
  | f :: stack => f.behind t stack.isEmpty :: allBehind t stack

/-- A state of reading behind another pattern. -/
def ReadState.behind (t s : ReadState) : ReadState where
  flags := s.flags
  frame := s.frame.behind t s.stack.isEmpty
  stack := Frame.allBehind t s.stack
  nextGroup := t.groups + s.nextGroup
  names := s.names ++ t.names

theorem Frame.behind_push (whole : Bool) (f : Frame) (item : Item) :
    (f.push item).behind t whole = (f.behind t whole).push (item.shift t.groups) := by
  cases whole <;> rfl

theorem Frame.sequence_behind (whole : Bool) (f : Frame) :
    (f.behind t whole).sequence = f.sequence.shift t.groups := by
  cases whole
  · exact sequence_shift f
  · exact sequence_shift f

theorem Frame.items_behind (whole : Bool) (f : Frame) :
    (f.behind t whole).items = f.items.map (Item.shift t.groups) := by
  cases whole <;> rfl

theorem Frame.behind_items (whole : Bool) (f : Frame) (items : List Item) :
    { f.behind t whole with items := items.map (Item.shift t.groups) } =
      { f with items }.behind t whole := by
  cases whole <;> rfl

/-- A group as a part of the one around it. -/
def Frame.closed (f : Frame) : Item where
  node :=
    match f.capture with
    | some (index, name) => f.contents.node.map (Node.group index name)
    | none => f.contents.node
  depth := f.contents.depth + 1
  shape := .group f.capture.isSome f.contents.shape

theorem Frame.closed_shift (k : Nat) (f : Frame) : (f.shift k).closed = f.closed.shift k := by
  unfold closed
  rw [contents_shift]
  obtain ⟨outer, capture, branches, items⟩ := f
  cases capture with
  | none => rfl
  | some c =>
    dsimp only [shift, Item.shift, Option.map_some]
    rw [Option.map_map, Option.map_map]
    rfl

namespace ReadState

theorem closeGroup_of_cons {outer : Frame} {stack : List Frame}
    (around : s.stack = outer :: stack) :
    s.closeGroup =
      .ok { s with flags := s.frame.outer, frame := outer.push s.frame.closed, stack } := by
  unfold closeGroup
  rw [around]
  rfl

theorem repeatLast_of_cons {node : Node} {depth low : Nat} {shape : Shape} {items : List Item}
    {high : Option Nat} {lazy : Bool} (last : s.frame.items = ⟨some node, depth, shape⟩ :: items) :
    s.repeatLast low high lazy =
      .ok { s with frame := { s.frame with items :=
        ⟨some (Node.repeated (lazy == s.flags.swapGreed) low high node), depth + 1,
          .repeated low high shape⟩ :: items } } := by
  unfold repeatLast
  rw [last]

theorem behind_push (s : ReadState) (item : Item) :
    (t.behind s).push (item.shift t.groups) = t.behind (s.push item) := by
  unfold push behind
  rw [Frame.behind_push]

theorem behind_alternate (s : ReadState) : (t.behind s).alternate = t.behind s.alternate := by
  unfold alternate behind
  dsimp only
  rw [Frame.sequence_behind]
  cases s.stack.isEmpty <;> rfl

theorem behind_closeGroup (s : ReadState) :
    (t.behind s).closeGroup.toOption = s.closeGroup.toOption.map t.behind := by
  cases around : s.stack with
  | nil =>
    have aroundBehind : (t.behind s).stack = [] := congrArg (Frame.allBehind t) around
    unfold closeGroup
    rw [around, aroundBehind]
    rfl
  | cons outer stack =>
    have aroundBehind : (t.behind s).stack =
      outer.behind t stack.isEmpty :: Frame.allBehind t stack := congrArg (Frame.allBehind t) around
    have inner : (t.behind s).frame = s.frame.shift t.groups := by
      unfold behind
      rw [around]
      rfl
    rw [closeGroup_of_cons around, closeGroup_of_cons aroundBehind, inner, Frame.closed_shift,
      ← Frame.behind_push]
    rfl

theorem behind_repeatLast (s : ReadState) (low : Nat) (high : Option Nat) (lazy : Bool) :
    ((t.behind s).repeatLast low high lazy).toOption =
      (s.repeatLast low high lazy).toOption.map t.behind := by
  have items := Frame.items_behind (t := t) s.stack.isEmpty s.frame
  cases last : s.frame.items with
  | nil =>
    rw [repeatLast_refused, repeatLast_refused, Option.map_none]
    · exact fun _ _ _ _ same => nomatch last.symm.trans same
    · exact fun _ _ _ _ same => nomatch (items.trans (congrArg _ last)).symm.trans same
  | cons item before =>
    obtain ⟨node, depth, shape⟩ := item
    have lastBehind : (t.behind s).frame.items =
        Item.shift t.groups ⟨node, depth, shape⟩ :: before.map (Item.shift t.groups) :=
      items.trans (congrArg _ last)
    cases node with
    | none =>
      rw [repeatLast_refused, repeatLast_refused, Option.map_none]
      · exact fun _ _ _ _ same => nomatch last.symm.trans same
      · exact fun _ _ _ _ same => nomatch lastBehind.symm.trans same
    | some node =>
      rw [repeatLast_of_cons last, repeatLast_of_cons lastBehind, ← Node.shift_repeated]
      have framed := Frame.behind_items (t := t) s.stack.isEmpty s.frame
        (⟨some (Node.repeated (lazy == s.flags.swapGreed) low high node), depth + 1,
          .repeated low high shape⟩ :: before)
      exact congrArg (fun frame => some ({ t.behind s with frame } : ReadState)) framed

end ReadState

/-! ## Moves -/

/-- The names that a move takes. -/
def Move.names : Move → List String
  | .openNamed name => [.ofList name]
  | _ => []

/-- A move takes its names, and numbers after the earlier ones. -/
theorem Move.taken_of_moved (moved : s.move? m = some next) :
    next.names = m.names ++ s.names ∧ s.nextGroup ≤ next.nextGroup := by
  cases m with
  | set | look | alternate | setFlags | openPlain =>
    cases moved
    exact ⟨rfl, le_rfl⟩
  | openNumbered =>
    cases moved
    exact ⟨rfl, Nat.le_succ _⟩
  | openNamed name =>
    obtain ⟨-, rfl⟩ := ReadState.openNamed_eq_some_iff.mp moved
    exact ⟨rfl, Nat.le_succ _⟩
  | close =>
    obtain ⟨flags, frame, stack, rfl⟩ := ReadState.closeGroup_eq_ok (toOption_eq_some_iff.mp moved)
    exact ⟨rfl, le_rfl⟩
  | repeatLast low high lazy =>
    obtain ⟨frame, rfl⟩ := ReadState.repeatLast_eq_ok (toOption_eq_some_iff.mp moved)
    exact ⟨rfl, le_rfl⟩

/-- Behind another pattern, a move without names is the same. -/
theorem ReadState.behind_move (s : ReadState) (unnamed : m.names = []) :
    (t.behind s).move? m = (s.move? m).map t.behind := by
  cases m with
  | set chars depth => exact congrArg some (behind_push s { Item.ofSet chars with depth })
  | look condition => exact congrArg some (behind_push s (Item.ofLook condition))
  | alternate => exact congrArg some (behind_alternate s)
  | setFlags flags =>
    exact congrArg (fun s : ReadState => some { s with flags }) (behind_push s .ofFlags)
  | openPlain flags => rfl
  | openNumbered => rfl
  | openNamed name => cases unnamed
  | close => exact behind_closeGroup s
  | repeatLast low high lazy => exact behind_repeatLast s low high lazy

/-- Behind another pattern the moves are the same, as long as the names are other ones. -/
theorem ReadState.behind_move_iff (apart : s.names.Disjoint t.names) :
    (t.behind s).move? m = some u ↔
      ∃ next, s.move? m = some next ∧ next.names.Disjoint t.names ∧ t.behind next = u := by
  by_cases unnamed : m.names = []
  · rw [behind_move s unnamed, Option.map_eq_some_iff]
    refine exists_congr fun next => and_congr_right fun moved => ?_
    have same : next.names = s.names := by
      rw [(Move.taken_of_moved moved).1, unnamed, List.nil_append]
    rw [same]
    exact (and_iff_right apart).symm
  · cases m with
    | openNamed name =>
      rw [openNamed_eq_some_iff]
      constructor
      · rintro ⟨new, rfl⟩
        obtain ⟨own, foreign⟩ := not_or.mp (List.mem_append.not.mp new)
        exact ⟨_, openNamed_eq_some_iff.mpr ⟨own, rfl⟩,
          List.disjoint_cons_left.mpr ⟨foreign, apart⟩, rfl⟩
      · rintro ⟨next, moved, apart', rfl⟩
        obtain ⟨own, rfl⟩ := openNamed_eq_some_iff.mp moved
        have foreign := (List.disjoint_cons_left.mp apart').1
        exact ⟨List.mem_append.not.mpr (not_or.mpr ⟨own, foreign⟩), rfl⟩
    | _ => exact absurd rfl unnamed

/-! ## Whole patterns -/

namespace Reads

theorem taken (reads : Reads s cs s') : s.names ⊆ s'.names ∧ s.nextGroup ≤ s'.nextGroup := by
  induction reads with
  | done => exact ⟨List.Subset.refl _, le_rfl⟩
  | @step s next s' _ _ _ _ _ begun read moved later ih =>
    obtain ⟨names, le⟩ := Move.taken_of_moved moved
    have kept : s.names ⊆ next.names := names ▸ List.subset_append_right _ _
    exact ⟨List.Subset.trans kept ih.1, le.trans ih.2⟩

/-- Behind another pattern a text is read as it is alone, if it has no name of the other's. -/
theorem behind_iff (apart : s.names.Disjoint t.names) :
    Reads (t.behind s) cs u ↔
      ∃ s', Reads s cs s' ∧ s'.names.Disjoint t.names ∧ t.behind s' = u := by
  constructor
  · intro reads
    generalize stateIs : t.behind s = b at reads
    induction reads generalizing s with
    | done ended =>
      subst stateIs
      exact ⟨s, .done ended, apart, rfl⟩
    | step begun read moved later ih =>
      subst stateIs
      obtain ⟨next, moved, apart', same⟩ := (ReadState.behind_move_iff apart).mp moved
      obtain ⟨s', reads, apart'', result⟩ := ih apart' same
      exact ⟨s', .step begun read moved reads, apart'', result⟩
  · rintro ⟨s', reads, apart', rfl⟩
    induction reads with
    | done ended => exact .done ended
    | step begun read moved later ih =>
      have between := List.disjoint_of_subset_left later.taken.1 apart'
      exact .step begun read ((ReadState.behind_move_iff apart).mpr ⟨_, moved, between, rfl⟩)
        (ih between apart')

end Reads

/-- Behind a pattern that is complete, the reader starts as at the start of a pattern. -/
theorem ReadState.behind_start (reads : Reads {} cs t) (closed : t.stack = [])
    (clear : t.flags = {}) :
    t.behind {} = t.alternate := by
  have numbered : t.groups + 1 = t.nextGroup := Nat.sub_add_cancel reads.taken.2
  unfold behind alternate
  dsimp only
  rw [numbered]
  obtain ⟨flags, frame, stack, nextGroup, names⟩ := t
  subst closed clear
  rfl

/-- A pattern that is complete, a bar and more are read as the two alone, if they have no name in
common. -/
theorem reads_join_iff (reads : Reads {} cs t) (closed : t.stack = []) (clear : t.flags = {})
    (more : List Char) :
    Reads {} (cs ++ '|' :: more) u ↔
      ∃ s, Reads {} more s ∧ s.names.Disjoint t.names ∧ t.behind s = u := by
  have plain : t.flags.spaced = false := by rw [clear]
  rw [reads_bar_iff reads plain, ← ReadState.behind_start reads closed clear]
  exact Reads.behind_iff (List.disjoint_nil_left _)

theorem ReadState.stack_behind_eq_nil_iff : (t.behind s).stack = [] ↔ s.stack = [] := by
  unfold behind
  cases s.stack with
  | nil => exact Iff.rfl
  | cons outer stack => exact iff_of_false (List.cons_ne_nil _ _) (List.cons_ne_nil _ _)

/-- The alternatives of the other pattern are before its own. -/
theorem ReadState.alternatives_behind (closed : s.stack = []) :
    (t.behind s).frame.alternatives =
      t.frame.alternatives ++ s.frame.alternatives.map (Item.shift t.groups) := by
  unfold behind Frame.alternatives
  dsimp only
  rw [closed, Frame.sequence_behind]
  simp only [List.isEmpty_nil, Frame.behind, if_true, List.reverse_cons, List.reverse_append,
    List.map_append, List.map_reverse, List.append_assoc, List.map_cons, List.map_nil]

end LintRun.Regex
