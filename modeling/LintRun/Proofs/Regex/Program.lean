import LintRun.Proofs.Regex.Places
import LintRun.Regex.Machine

/-!
# The program of a pattern

The program of a pattern goes on with the step that is to follow it exactly from the places to which
the pattern leads (`faithful`): a way through the program to acceptance passes that step, and the
rest of the way is no longer than the whole, so the iterations of a loop can be counted by it even
if they read nothing.

Programs only grow while they are made, so what is said of the steps of a part holds of every
program that has them (`HasFrom`).
-/

set_option autoImplicit false

namespace LintRun.Regex

open Relation (TransGen)

variable {program : Array Step} {cs : List Char} {node : Node} {next start i j n : Nat}
  {σ σ' : Nat × Nat}

/-! ## Ways through a program -/

/-- A step of a program; beyond the end every step accepts. -/
def stepAt (program : Array Step) (s : Nat) : Step :=
  program[s]?.getD .accept

theorem stepAt_of_getElem? {step : Step} {s : Nat} (here : program[s]? = some step) :
    stepAt program s = step := by
  rw [stepAt, here, Option.getD_some]

/-- Whether a step leads from a place to a state, which is the number of a step and a place. -/
def Step.Moves (cs : List Char) (i : Nat) : Step → Nat × Nat → Prop
  | .accept => fun _ => False
  | .set chars next => fun σ => σ.1 = next ∧ Passes cs chars i σ.2
  | .look condition next => fun σ => condition.holds (place cs i) = true ∧ σ = (next, i)
  | .split first second => fun σ => σ = (first, i) ∨ σ = (second, i)
  | .enter next | .leave _ next => fun σ => σ = (next, i)

/-- Whether a way of some length leads from a state to one that accepts. -/
inductive AcceptsIn (program : Array Step) (cs : List Char) : Nat → Nat × Nat → Prop where
  | accept {s i : Nat} (accepts : stepAt program s = .accept) : AcceptsIn program cs 0 (s, i)
  | move {s i n : Nat} {σ : Nat × Nat} (moves : (stepAt program s).Moves cs i σ)
      (later : AcceptsIn program cs n σ) : AcceptsIn program cs (n + 1) (s, i)

/-- Whether some way leads from a state to one that accepts. -/
def Accepts (program : Array Step) (cs : List Char) (σ : Nat × Nat) : Prop :=
  ∃ n, AcceptsIn program cs n σ

theorem Accepts.move {s : Nat} {step : Step} (here : stepAt program s = step)
    (moves : step.Moves cs i σ) (later : Accepts program cs σ) : Accepts program cs (s, i) := by
  obtain ⟨n, later⟩ := later
  exact ⟨n + 1, .move (here.symm ▸ moves) later⟩

/-- The way from a state whose step does not accept begins with a move. -/
theorem AcceptsIn.exists_move {s : Nat} {step : Step} (here : stepAt program s = step)
    (going : step ≠ .accept) (accepts : AcceptsIn program cs n (s, i)) :
    ∃ m σ, n = m + 1 ∧ step.Moves cs i σ ∧ AcceptsIn program cs m σ := by
  cases accepts with
  | accept accepts => exact absurd (here.symm.trans accepts) going
  | move moves later => exact ⟨_, _, rfl, here ▸ moves, later⟩

/-! ## The program of a pattern -/

/-- Whether a program goes on where another one ends. -/
structure Continues (p q : Array Step) : Prop where
  size_le : p.size ≤ q.size
  getElem?_eq : ∀ s < p.size, q[s]? = p[s]?

namespace Continues

variable {p q r : Array Step}

theorem trans (one : Continues p q) (two : Continues q r) : Continues p r where
  size_le := one.size_le.trans two.size_le
  getElem?_eq s inside :=
    (two.getElem?_eq s (inside.trans_le one.size_le)).trans (one.getElem?_eq s inside)

theorem emit (step : Step) (p : Array Step) : Continues p (emit step p).2 where
  size_le := (Array.size_push step) ▸ Nat.le_succ p.size
  getElem?_eq s inside := by
    rw [Regex.emit, Array.getElem?_push_lt inside, Array.getElem?_eq_getElem inside]

/-- A step may be replaced that is not from the program before. -/
theorem set (continues : Continues p q) {s : Nat} (fresh : p.size ≤ s) (step : Step) :
    Continues p (q.set! s step) where
  size_le := by
    rw [Array.set!_eq_setIfInBounds, Array.size_setIfInBounds]
    exact continues.size_le
  getElem?_eq s' inside := by
    rw [Array.set!_eq_setIfInBounds,
      Array.getElem?_setIfInBounds_ne (inside.trans_le fresh).ne']
    exact continues.getElem?_eq s' inside

end Continues

theorem continues_compile (node : Node) (next : Nat) (program : Array Step) :
    Continues program (node.compile next program).2 := by
  induction node generalizing next program with
  | empty => exact ⟨le_rfl, fun _ _ => rfl⟩
  | set chars => exact .emit _ program
  | look condition => exact .emit _ program
  | cat first second ih₁ ih₂ => exact (ih₂ next program).trans (ih₁ _ _)
  | alt first second ih₁ ih₂ =>
    exact ((ih₁ next program).trans (ih₂ next _)).trans (.emit _ _)
  | run greedy chars => exact ((Continues.emit _ program).trans (.emit _ _)).set le_rfl _
  | loop greedy body ih => exact ((Continues.emit _ program).trans (ih _ _)).set le_rfl _
  | group index name body ih =>
    exact ((Continues.emit _ program).trans (ih _ _)).trans (.emit _ _)

/-- Whether a program has the steps that stand in another one from some number on. -/
def HasFrom (program : Array Step) (start : Nat) (part : Array Step) : Prop :=
  ∀ s, start ≤ s → s < part.size → program[s]? = part[s]?

theorem HasFrom.before {p q : Array Step} (has : HasFrom program start q)
    (continues : Continues p q) : HasFrom program start p := by
  intro s after inside
  exact (has s after (inside.trans_le continues.size_le)).trans (continues.getElem?_eq s inside)

theorem HasFrom.after {q : Array Step} (has : HasFrom program start q) {later : Nat}
    (less : start ≤ later) : HasFrom program later q :=
  fun s after inside => has s (less.trans after) inside

theorem HasFrom.emitted {p : Array Step} {step : Step} (has : HasFrom program start (emit step p).2)
    (less : start ≤ p.size) : stepAt program p.size = step := by
  refine stepAt_of_getElem? ((has p.size less ?_).trans Array.getElem?_push_size)
  rw [emit, Array.size_push]
  exact Nat.lt_succ_self _

/-- Whether the program of a pattern goes on with the step that is to follow it from the places to
which the pattern leads, and from no others. -/
structure Faithful (cs : List Char) (node : Node) : Prop where
  sound : ∀ {program part : Array Step} {next i n : Nat},
    HasFrom program part.size (node.compile next part).2 →
    AcceptsIn program cs n ((node.compile next part).1, i) →
    ∃ j m, m ≤ n ∧ node.Leads cs i j ∧ AcceptsIn program cs m (next, j)
  complete : ∀ {program part : Array Step} {next i j : Nat},
    HasFrom program part.size (node.compile next part).2 → node.Leads cs i j →
    Accepts program cs (next, j) → Accepts program cs ((node.compile next part).1, i)

theorem faithful_set (cs : List Char) (chars : CharSet) : Faithful cs (.set chars) where
  sound has accepts := by
    obtain ⟨m, ⟨s, j⟩, rfl, ⟨same, passes⟩, later⟩ :=
      accepts.exists_move (has.emitted le_rfl) nofun
    obtain rfl : s = _ := same
    exact ⟨j, m, Nat.le_succ m, passes, later⟩
  complete {program part next i j} has passes later :=
    Accepts.move (σ := (next, j)) (has.emitted le_rfl) ⟨rfl, passes⟩ later

theorem faithful_look (cs : List Char) (condition : Look) : Faithful cs (.look condition) where
  sound has accepts := by
    obtain ⟨m, σ, rfl, ⟨holds, rfl⟩, later⟩ :=
      accepts.exists_move (has.emitted le_rfl) nofun
    exact ⟨_, m, Nat.le_succ m, ⟨holds, rfl⟩, later⟩
  complete has leads later := by
    obtain ⟨holds, rfl⟩ := leads
    exact .move (has.emitted le_rfl) ⟨holds, rfl⟩ later

/-- What the program of a sequence consists of: that of the second part, then that of the first. -/
theorem HasFrom.cat {part : Array Step} {first second : Node}
    (has : HasFrom program part.size ((Node.cat first second).compile next part).2) :
    HasFrom program part.size (second.compile next part).2 ∧
      HasFrom program (second.compile next part).2.size
        (first.compile (second.compile next part).1 (second.compile next part).2).2 :=
  ⟨has.before (continues_compile first _ _), has.after (continues_compile second _ _).size_le⟩

theorem Faithful.cat {first second : Node} (one : Faithful cs first) (two : Faithful cs second) :
    Faithful cs (.cat first second) where
  sound has accepts := by
    obtain ⟨hasSecond, hasFirst⟩ := has.cat
    obtain ⟨k, m, fewer, leads, accepts⟩ := one.sound hasFirst accepts
    obtain ⟨j, l, evenFewer, leadsOn, accepts⟩ := two.sound hasSecond accepts
    exact ⟨j, l, evenFewer.trans fewer, ⟨k, leads, leadsOn⟩, accepts⟩
  complete has leads later := by
    obtain ⟨hasSecond, hasFirst⟩ := has.cat
    obtain ⟨k, leads, leadsOn⟩ := leads
    exact one.complete hasFirst leads (two.complete hasSecond leadsOn later)

/-- What the program of a choice consists of: those of the alternatives, and a step between them
at the end. -/
theorem HasFrom.alt {part : Array Step} {first second : Node}
    (has : HasFrom program part.size ((Node.alt first second).compile next part).2) :
    HasFrom program part.size (first.compile next part).2 ∧
      HasFrom program (first.compile next part).2.size
        (second.compile next (first.compile next part).2).2 ∧
      stepAt program ((Node.alt first second).compile next part).1 =
        .split (first.compile next part).1 (second.compile next (first.compile next part).2).1 := by
  have one := continues_compile first next part
  have two := continues_compile second next (first.compile next part).2
  have both : HasFrom program part.size (second.compile next (first.compile next part).2).2 :=
    has.before (.emit _ _)
  exact ⟨both.before two, both.after one.size_le, has.emitted (one.trans two).size_le⟩

theorem Faithful.alt {first second : Node} (one : Faithful cs first) (two : Faithful cs second) :
    Faithful cs (.alt first second) where
  sound has accepts := by
    obtain ⟨hasFirst, hasSecond, split⟩ := has.alt
    obtain ⟨m, σ, rfl, rfl | rfl, accepts⟩ := accepts.exists_move split nofun
    · obtain ⟨j, l, fewer, leads, accepts⟩ := one.sound hasFirst accepts
      exact ⟨j, l, fewer.trans (Nat.le_succ m), .inl leads, accepts⟩
    · obtain ⟨j, l, fewer, leads, accepts⟩ := two.sound hasSecond accepts
      exact ⟨j, l, fewer.trans (Nat.le_succ m), .inr leads, accepts⟩
  complete has leads later := by
    obtain ⟨hasFirst, hasSecond, split⟩ := has.alt
    rcases leads with leads | leads
    · exact .move split (.inl rfl) (one.complete hasFirst leads later)
    · exact .move split (.inr rfl) (two.complete hasSecond leads later)

theorem moves_branch_iff (greedy : Bool) (again out : Nat) :
    (Step.branch greedy again out).Moves cs i σ ↔ σ = (again, i) ∨ σ = (out, i) := by
  cases greedy
  · exact or_comm
  · exact Iff.rfl

/-- What the program of a loop consists of: that of its body, after a step that goes back to it or
on to what follows. -/
theorem HasFrom.loop {part : Array Step} {greedy : Bool} {body : Node}
    (has : HasFrom program part.size ((Node.loop greedy body).compile next part).2) :
    stepAt program part.size =
        Step.branch greedy (body.compile part.size (part.push .accept)).1 next ∧
      HasFrom program (part.push .accept).size (body.compile part.size (part.push .accept)).2 := by
  set start := (body.compile part.size (part.push .accept)).1
  have continues : Continues (part.push .accept) (body.compile part.size (part.push .accept)).2 :=
    continues_compile body _ _
  set inner := (body.compile part.size (part.push .accept)).2
  have has :
      HasFrom program part.size (inner.setIfInBounds part.size (Step.branch greedy start next)) :=
    has
  have grown : part.size < inner.size := by
    have := continues.size_le
    rw [Array.size_push] at this
    exact this
  constructor
  · refine stepAt_of_getElem? ((has part.size le_rfl ?_).trans ?_)
    · rw [Array.size_setIfInBounds]
      exact grown
    · exact Array.getElem?_setIfInBounds_self_of_lt grown
  · intro s after inside
    rw [Array.size_push] at after
    have sized :
        (inner.setIfInBounds part.size (Step.branch greedy start next)).size = inner.size :=
      Array.size_setIfInBounds
    rw [← sized] at inside
    exact (has s (Nat.le_of_succ_le after) inside).trans
      (Array.getElem?_setIfInBounds_ne (Nat.lt_of_succ_le after).ne)

theorem Faithful.loop {body : Node} (once : Faithful cs body) (greedy : Bool) :
    Faithful cs (.loop greedy body) where
  sound {program part next i n} has accepts := by
    obtain ⟨branch, hasBody⟩ := has.loop
    induction n using Nat.strong_induction_on generalizing i with
    | _ n ih =>
      obtain ⟨k, m, fewer, leads, accepts⟩ := once.sound hasBody accepts
      have going :
          Step.branch greedy (body.compile part.size (part.push .accept)).1 next ≠ .accept := by
        cases greedy <;> exact nofun
      obtain ⟨l, σ, rfl, moves, accepts⟩ := accepts.exists_move branch going
      rcases (moves_branch_iff greedy _ _).mp moves with rfl | rfl
      · obtain ⟨j, l', evenFewer, leadsOn, accepts⟩ := ih l fewer accepts
        exact ⟨j, l', evenFewer.trans ((Nat.le_succ l).trans fewer), .head leads leadsOn, accepts⟩
      · exact ⟨k, l, (Nat.le_succ l).trans fewer, .single leads, accepts⟩
  complete {program part next i j} has leads later := by
    obtain ⟨branch, hasBody⟩ := has.loop
    induction leads using TransGen.head_induction_on with
    | single leads =>
      refine once.complete hasBody leads (.move branch ?_ later)
      exact (moves_branch_iff greedy _ _).mpr (.inr rfl)
    | head leads _ accepts =>
      refine once.complete hasBody leads (.move branch ?_ accepts)
      exact (moves_branch_iff greedy _ _).mpr (.inl rfl)

/-- What the program of a group consists of: that of its body, between the steps that enter and
leave the group. -/
theorem HasFrom.group {part : Array Step} {index : Nat} {name : Option String} {body : Node}
    (has : HasFrom program part.size ((Node.group index name body).compile next part).2) :
    stepAt program part.size = .leave index next ∧
      HasFrom program (part.push (.leave index next)).size
        (body.compile part.size (part.push (.leave index next))).2 ∧
      stepAt program ((Node.group index name body).compile next part).1 =
        .enter (body.compile part.size (part.push (.leave index next))).1 := by
  have one := Continues.emit (.leave index next) part
  have two := continues_compile body part.size (part.push (.leave index next))
  have both :
      HasFrom program part.size (body.compile part.size (part.push (.leave index next))).2 :=
    has.before (.emit _ _)
  exact ⟨(both.before two).emitted le_rfl, both.after one.size_le,
    has.emitted (one.trans two).size_le⟩

theorem Faithful.group {body : Node} (inner : Faithful cs body) (index : Nat)
    (name : Option String) : Faithful cs (.group index name body) where
  sound has accepts := by
    obtain ⟨left, hasBody, entered⟩ := has.group
    obtain ⟨m, σ, rfl, rfl, accepts⟩ := accepts.exists_move entered nofun
    obtain ⟨j, l, fewer, leads, accepts⟩ := inner.sound hasBody accepts
    obtain ⟨l, σ, rfl, rfl, accepts⟩ := accepts.exists_move left nofun
    exact ⟨j, l, (Nat.le_succ l).trans (fewer.trans (Nat.le_succ m)), leads, accepts⟩
  complete has leads later := by
    obtain ⟨left, hasBody, entered⟩ := has.group
    exact .move entered rfl (inner.complete hasBody leads (.move left rfl later))

/-- **The program of a pattern is faithful to it.** -/
theorem faithful (cs : List Char) (node : Node) : Faithful cs node := by
  induction node with
  | empty =>
    exact ⟨fun _ accepts => ⟨_, _, le_rfl, rfl, accepts⟩, fun _ leads later => leads ▸ later⟩
  | set chars => exact faithful_set cs chars
  | look condition => exact faithful_look cs condition
  | cat first second one two => exact one.cat two
  | alt first second one two => exact one.alt two
  | run greedy chars =>
    -- The program of a run is that of a loop of one set.
    have loop := (faithful_set cs chars).loop greedy
    exact ⟨loop.sound, loop.complete⟩
  | loop greedy body once => exact once.loop greedy
  | group index name body inner => exact inner.group index name

end LintRun.Regex
