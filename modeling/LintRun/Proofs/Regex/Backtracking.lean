import LintRun.Proofs.Regex.Preference

/-!
# Searching by backtracking

A search that backtracks tries what is to **follow** a pattern at one place after the other to which
the pattern leads, the most preferred place first, and is content with the first success
(`Node.first?`). It takes up a place again as often as the pattern leads there. The lists of threads
of `Node.ends` leave such places out, and nothing is missed by it: whether something can follow
depends on the place alone, so if it fails once it fails again. The first success is the same
(`findSome?_ends`), and so the search by preference finds the match of the search that backtracks
(`head?_ends`).
-/

set_option autoImplicit false

namespace LintRun.Regex

open Relation (TransGen ReflTransGen)

variable {α : Type} {cs : List Char} {t u : Thread} {ts us : List Thread} {chars : CharSet}
  {follow : Thread → Option α} {i j : Nat}

/-! ## The search -/

/-- The first success of what is to follow after one or more characters of a set. -/
def runFirst? (chars : CharSet) (greedy : Bool) (follow : Thread → Option α) (t : Thread) :
    List Char → Option α
  | [] => none
  | c :: rest =>
    if chars.has c.toNat then
      let next := t.after c rest
      if greedy then (runFirst? chars greedy follow next rest).or (follow next)
      else (follow next).or (runFirst? chars greedy follow next rest)
    else
      none

/-- The first success of what is to follow after an iteration of a loop, if the loop is left or if
it goes on. -/
def goOn? (once : (Thread → Option α) → Thread → Option α) (greedy : Bool)
    (follow : Thread → Option α) : Nat → Thread → Option α
  | 0, _ => none
  | fuel + 1, t =>
    if greedy then (once (goOn? once greedy follow fuel) t).or (follow t)
    else (follow t).or (once (goOn? once greedy follow fuel) t)

/-- The first success of what is to follow a pattern, in the order of preference. -/
def Node.first? : Node → (Thread → Option α) → Thread → Option α
  | .empty, follow, t => follow t
  | .set chars, follow, t => (t.next? chars).bind follow
  | .look condition, follow, t => if condition.holds t then follow t else none
  | .cat first second, follow, t => first.first? (second.first? follow) t
  | .alt first second, follow, t => (first.first? follow t).or (second.first? follow t)
  | .run greedy chars, follow, t => runFirst? chars greedy follow t t.rest
  | .loop greedy body, follow, t =>
    body.first? (goOn? body.first? greedy follow (t.rest.length + 1)) t
  | .group index _ body, follow, t => body.first? (fun u => follow (u.leave index)) t.enter

theorem findSome?_cons_eq_or {f : Thread → Option α} :
    (t :: ts).findSome? f = (f t).or (ts.findSome? f) := by
  rw [← List.singleton_append, List.findSome?_append, List.findSome?_singleton]

/-! ## What can follow at a place -/

/-- Whether it depends on the place in a text alone if what is to follow succeeds. -/
def ByPlace (cs : List Char) (follow : Thread → Option α) : Prop :=
  ∀ t, t.At cs → (follow t).isSome = (follow (place cs t.index)).isSome

theorem ByPlace.eq_none_iff (byPlace : ByPlace cs follow) (here : t.At cs) :
    follow t = none ↔ follow (place cs t.index) = none := by
  rw [← Option.not_isSome_iff_eq_none, ← Option.not_isSome_iff_eq_none, byPlace t here]

theorem byPlace_some (cs : List Char) : ByPlace cs (some : Thread → Option Thread) :=
  fun _ _ => rfl

theorem ByPlace.leave (byPlace : ByPlace cs follow) (group : Nat) :
    ByPlace cs fun u => follow (u.leave group) := by
  intro t here
  rw [byPlace _ (here.leave group), Thread.index_leave]
  -- No group has been entered at a place, so there is none to leave.
  rfl

theorem Node.spans_ends {node : Node} (advances : node.loopsAdvance = true) (here : t.At cs) :
    Spans cs (node.Leads cs) [t] (node.ends [t]) :=
  ends_spec advances (List.forall_mem_singleton.mpr here)

/-- There is a success among places that are spanned exactly if there is one where the relation
leads from the start. -/
theorem Spans.isSome_findSome?_iff {lead : Nat → Nat → Prop} (byPlace : ByPlace cs follow)
    (spans : Spans cs lead [t] us) : (us.findSome? follow).isSome = true ↔
      ∃ j, lead t.index j ∧ (follow (place cs j)).isSome = true := by
  rw [List.findSome?_isSome_iff]
  constructor
  · rintro ⟨u, member, succeeds⟩
    refine ⟨u.index, spans.single_iff.mpr ⟨u, member, rfl⟩, ?_⟩
    rwa [← byPlace u (spans.inText u member)]
  · rintro ⟨j, leads, succeeds⟩
    obtain ⟨u, member, rfl⟩ := spans.single_iff.mp leads
    exact ⟨u, member, (byPlace u (spans.inText u member)).trans succeeds⟩

/-! ## Places that are left out -/

/-- A place that is left out cannot be the first success: what follows has failed there before. -/
theorem findSome?_distinct_go (byPlace : ByPlace cs follow) {seen : Std.HashSet Nat}
    (failed : ∀ i ∈ seen, follow (place cs i) = none) (here : ∀ t ∈ ts, t.At cs) :
    (distinct.go seen ts).findSome? follow = ts.findSome? follow := by
  induction ts generalizing seen with
  | nil => rfl
  | cons t ts ih =>
    have inText := here t List.mem_cons_self
    have later := fun u member => here u (List.mem_cons_of_mem t member)
    rw [distinct.go, findSome?_cons_eq_or]
    split
    · rename_i known
      rw [(byPlace.eq_none_iff inText).mpr (failed _ (Std.HashSet.contains_iff_mem.mp known))]
      exact ih failed later
    · rw [findSome?_cons_eq_or]
      cases succeeded : follow t with
      | some a => rfl
      | none =>
        refine ih (fun i known => ?_) later
        rcases Std.HashSet.mem_insert.mp known with same | known
        · exact eq_of_beq same ▸ (byPlace.eq_none_iff inText).mp succeeded
        · exact failed i known

theorem findSome?_distinct (byPlace : ByPlace cs follow) (here : ∀ t ∈ ts, t.At cs) :
    (distinct ts).findSome? follow = ts.findSome? follow := by
  unfold distinct
  split
  · rfl
  · rfl
  · exact findSome?_distinct_go byPlace (fun i known => absurd known Std.HashSet.not_mem_empty) here

/-! ## Runs of characters -/

/-- A run has no success if what follows fails wherever it leads. -/
theorem runFirst?_eq_none {greedy : Bool} (byPlace : ByPlace cs follow) (here : t.At cs)
    (failed : ∀ j, TransGen (Passes cs chars) t.index j → follow (place cs j) = none) :
    runFirst? chars greedy follow t t.rest = none := by
  generalize same : t.rest = after
  induction after generalizing t with
  | nil => rfl
  | cons c rest ih =>
    rw [runFirst?]
    split
    · rename_i inSet
      have next : (t.after c rest).At cs := here.after same
      have passes : Passes cs chars t.index (t.after c rest).index :=
        ⟨rfl, c, (here.getElem?_of_rest same).1, inSet⟩
      have former : follow (t.after c rest) = none :=
        (byPlace.eq_none_iff next).mpr (failed _ (.single passes))
      have latter := ih next (fun j leads => failed j (.head passes leads)) rfl
      dsimp only
      rw [former, latter]
      split <;> rfl
    · rfl

/-- A run stops at a place that has been seen, and behind it there is no success. -/
theorem findSome?_runOnto {seen : Std.HashSet Nat} (byPlace : ByPlace cs follow)
    (closed : Closed (Passes cs chars) seen) (failed : ∀ i ∈ seen, follow (place cs i) = none)
    (here : t.At cs) (out : List Thread) :
    (runOnto chars seen t out t.rest).findSome? follow =
        (runFirst? chars true follow t t.rest).or (out.findSome? follow) ∧
      (runOnto chars seen t out t.rest).reverse.findSome? follow =
        (out.reverse.findSome? follow).or (runFirst? chars false follow t t.rest) := by
  generalize same : t.rest = after
  induction after generalizing t out with
  | nil => exact ⟨rfl, Option.or_none.symm⟩
  | cons c rest ih =>
    have next : (t.after c rest).At cs := here.after same
    by_cases fresh : (chars.has c.toNat && !seen.contains (t.index + 1)) = true
    · obtain ⟨inSet, -⟩ := Bool.and_eq_true_iff.mp fresh
      obtain ⟨greedy, reluctant⟩ := ih next (t.after c rest :: out) rfl
      rw [runOnto, if_pos fresh, greedy, reluctant, runFirst?, runFirst?, if_pos inSet,
        if_pos inSet,
        findSome?_cons_eq_or, List.reverse_cons, List.findSome?_append,
        List.findSome?_singleton]
      exact ⟨Option.or_assoc.symm, Option.or_assoc⟩
    · have nowhere : ∀ j, TransGen (Passes cs chars) t.index j → follow (place cs j) = none := by
        intro j leads
        obtain ⟨k, ⟨rfl, c', found, inSet⟩, leads⟩ := TransGen.head'_iff.mp leads
        obtain rfl : c = c' :=
          Option.some.inj ((here.getElem?_of_rest same).1.symm.trans found)
        refine failed j (closed.mem ?_ leads)
        by_contra unknown
        have unseen : seen.contains (t.index + 1) = false :=
          Bool.eq_false_iff.mpr fun known => unknown (Std.HashSet.contains_iff_mem.mp known)
        exact fresh (by rw [inSet, unseen, Bool.not_false, Bool.and_self])
      have none (greedy : Bool) : runFirst? chars greedy follow t (c :: rest) = none :=
        same ▸ runFirst?_eq_none byPlace here nowhere
      rw [runOnto, if_neg fresh, none, none]
      exact ⟨rfl, Option.or_none.symm⟩

theorem findSome?_runFrom {seen : Std.HashSet Nat} (byPlace : ByPlace cs follow)
    (closed : Closed (Passes cs chars) seen) (failed : ∀ i ∈ seen, follow (place cs i) = none)
    (here : t.At cs) (greedy : Bool) :
    (runFrom chars greedy seen t).findSome? follow = runFirst? chars greedy follow t t.rest := by
  obtain ⟨far, near⟩ := findSome?_runOnto byPlace closed failed here []
  rw [runFrom]
  cases greedy with
  | true => exact far.trans Option.or_none
  | false => exact near

theorem findSome?_runs {seen : Std.HashSet Nat} (byPlace : ByPlace cs follow)
    (closed : Closed (Passes cs chars) seen) (failed : ∀ i ∈ seen, follow (place cs i) = none)
    (here : ∀ t ∈ ts, t.At cs) (greedy : Bool) :
    (runs chars greedy seen ts).findSome? follow =
      ts.findSome? fun t => runFirst? chars greedy follow t t.rest := by
  induction ts generalizing seen with
  | nil => rfl
  | cons t ts ih =>
    have inText := here t List.mem_cons_self
    have ofHead := findSome?_runFrom byPlace closed failed inText greedy
    obtain ⟨sound, complete⟩ := runFrom_spec greedy closed inText
    rw [findSome?_cons_eq_or]
    cases ts with
    | nil => exact ofHead.trans Option.or_none.symm
    | cons t' ts =>
      set places := runFrom chars greedy seen t
      change (places ++ runs chars greedy (places.foldl (fun seen u => seen.insert u.index) seen)
        (t' :: ts)).findSome? follow = _
      rw [List.findSome?_append, ofHead]
      cases succeeded : runFirst? chars greedy follow t t.rest with
      | some a => rfl
      | none =>
        -- What has been seen by now has failed, and all that follows it.
        have nowhere := List.findSome?_eq_none_iff.mp (ofHead.trans succeeded)
        refine ih (fun i known j passes => ?_) (fun i known => ?_)
          fun u member => here u (List.mem_cons_of_mem t member)
        · rw [mem_foldl_insert_index] at known ⊢
          rcases known with known | ⟨u, member, rfl⟩
          · exact .inl (closed i known j passes)
          · exact complete j ((sound u member).2.tail passes)
        · rcases (mem_foldl_insert_index places seen).mp known with known | ⟨u, member, rfl⟩
          · exact failed i known
          · exact (byPlace.eq_none_iff (sound u member).1).mp (nowhere u member)

/-! ## Loops -/

namespace Visit

/-- The first success of what is to follow at the places where a loop has been left. -/
def found? (follow : Thread → Option α) (v : Visit) : Option α :=
  v.exits.reverse.findSome? follow

variable {v w : Visit} {a : α}

/-- What has been found stays found. -/
theorem found?_of_suffix (grows : v.exits <:+ w.exits) (found : v.found? follow = some a) :
    w.found? follow = some a := by
  obtain ⟨new, same⟩ := grows
  rw [found?, ← same, List.reverse_append, List.findSome?_append, ← found?, found, Option.some_or]

theorem found?_cons (seen : Std.HashSet Nat) : found? follow { exits := t :: v.exits, seen } =
    (v.found? follow).or (follow t) := by
  rw [found?, List.reverse_cons, List.findSome?_append, List.findSome?_singleton, ← found?]

theorem exits_foldl {f : Visit → Thread → Visit} (grows : ∀ v u, v.exits <:+ (f v u).exits)
    (us : List Thread) (v : Visit) : v.exits <:+ (us.foldl f v).exits := by
  induction us generalizing v with
  | nil => exact List.suffix_rfl
  | cons u us ih => exact (grows v u).trans (ih (f v u))

/-- Explorations one after the other find the first success among them, if an invariant that all of
them keep lets each find its own. -/
theorem found?_foldl {f : Visit → Thread → Visit} {goal : Thread → Option α}
    {invariant : Visit → Prop} (grows : ∀ v u, v.exits <:+ (f v u).exits)
    (keeps : ∀ u ∈ us, ∀ v, invariant v → invariant (f v u))
    (finds : ∀ u ∈ us, ∀ v, invariant v → v.found? follow = none → (f v u).found? follow = goal u)
    (start : invariant v) : invariant (us.foldl f v) ∧
      (v.found? follow = none → (us.foldl f v).found? follow = us.findSome? goal) := by
  induction us generalizing v with
  | nil => exact ⟨start, id⟩
  | cons u us ih =>
    obtain ⟨kept, found⟩ := ih (fun u member => keeps u (List.mem_cons_of_mem _ member))
      (fun u member => finds u (List.mem_cons_of_mem _ member)) (keeps u List.mem_cons_self v start)
    refine ⟨kept, fun failed => ?_⟩
    have first := finds u List.mem_cons_self v start failed
    rw [List.foldl_cons, findSome?_cons_eq_or]
    cases succeeded : goal u with
    | some a => exact found?_of_suffix (exits_foldl grows us _) (first.trans succeeded)
    | none => exact found (first.trans succeeded)

end Visit

theorem exits_explore (body : Thread → List Thread) (greedy : Bool) (fuel : Nat) (v : Visit)
    (t : Thread) : v.exits <:+ (explore body greedy fuel v t).exits := by
  induction fuel generalizing v t with
  | zero => exact List.suffix_rfl
  | succ fuel ih =>
    rw [explore]
    split
    · exact List.suffix_rfl
    · dsimp only
      split
      · exact (Visit.exits_foldl ih (body t) { v with seen := v.seen.insert t.index }).trans
          (List.suffix_cons t _)
      · exact (List.suffix_cons t v.exits).trans (Visit.exits_foldl ih (body t)
          { seen := v.seen.insert t.index, exits := t :: v.exits })

section Loops

variable {lead : Nat → Nat → Prop} {body : Thread → List Thread}
  {once : (Thread → Option α) → Thread → Option α} {greedy : Bool} {v : Visit}

/-- Whether the first success after one iteration is that at the places to which it leads. -/
def Backtracks (cs : List Char) (body : Thread → List Thread)
    (once : (Thread → Option α) → Thread → Option α) : Prop :=
  ∀ follow, ByPlace cs follow → ∀ t, t.At cs → (body t).findSome? follow = once follow t

theorem Backtracks.byPlace (backtracks : Backtracks cs body once)
    (spans : ∀ t, t.At cs → Spans cs lead [t] (body t)) (byPlace : ByPlace cs follow) :
    ByPlace cs (once follow) := by
  intro t here
  have inText := Thread.at_place here.index_le
  rw [Bool.eq_iff_iff, ← backtracks _ byPlace t here, ← backtracks _ byPlace _ inText,
    (spans t here).isSome_findSome?_iff byPlace, (spans _ inText).isSome_findSome?_iff byPlace]
  rfl

theorem isSome_goOn?_succ (backtracks : Backtracks cs body once)
    (spans : ∀ t, t.At cs → Spans cs lead [t] (body t)) {fuel : Nat}
    (byPlace : ByPlace cs (goOn? once greedy follow fuel)) (here : t.At cs) :
    (goOn? once greedy follow (fuel + 1) t).isSome = true ↔ (follow t).isSome = true ∨
      ∃ j, lead t.index j ∧ (goOn? once greedy follow fuel (place cs j)).isSome = true := by
  rw [goOn?, ← backtracks _ byPlace t here, ← (spans t here).isSome_findSome?_iff byPlace]
  split
  · rw [Option.isSome_or, Bool.or_eq_true, or_comm]
  · rw [Option.isSome_or, Bool.or_eq_true]

theorem byPlace_goOn? (backtracks : Backtracks cs body once)
    (spans : ∀ t, t.At cs → Spans cs lead [t] (body t)) (byPlace : ByPlace cs follow) (fuel : Nat) :
    ByPlace cs (goOn? once greedy follow fuel) := by
  induction fuel with
  | zero => exact fun _ _ => rfl
  | succ fuel ih =>
    intro t here
    rw [Bool.eq_iff_iff, isSome_goOn?_succ backtracks spans ih here,
      isSome_goOn?_succ backtracks spans ih (Thread.at_place here.index_le), byPlace t here]
    rfl

/-- A success is at a place to which further iterations lead, or none. -/
theorem exists_of_goOn? (backtracks : Backtracks cs body once)
    (spans : ∀ t, t.At cs → Spans cs lead [t] (body t)) (byPlace : ByPlace cs follow) {fuel : Nat}
    (here : t.At cs) (succeeds : (goOn? once greedy follow fuel t).isSome = true) :
    ∃ j, ReflTransGen lead t.index j ∧ (follow (place cs j)).isSome = true := by
  induction fuel generalizing t with
  | zero => cases succeeds
  | succ fuel ih =>
    have later : ByPlace cs (goOn? once greedy follow fuel) :=
      byPlace_goOn? backtracks spans byPlace fuel
    rcases (isSome_goOn?_succ backtracks spans later here).mp succeeds with now | ⟨j, leads, behind⟩
    · exact ⟨t.index, .refl, (byPlace t here).symm.trans now⟩
    · obtain ⟨u, member, rfl⟩ := (spans t here).single_iff.mp leads
      have inside := ((spans t here).inText u member).index_le
      obtain ⟨j, leadsOn, succeeds⟩ := ih (Thread.at_place inside) behind
      exact ⟨j, .head leads leadsOn, succeeds⟩

/-- Whether all places from some place on that have been reached are finished. -/
structure Visit.Settled (cs : List Char) (lead : Nat → Nat → Prop) (bound : Nat) (v : Visit) :
    Prop where
  inText : ∀ u ∈ v.exits, u.At cs
  finished : ∀ i ∈ v.seen, bound ≤ i → v.Finished lead i

namespace Visit.Settled

variable {w : Visit} {bound : Nat}

theorem extend {start : Nat → Prop} (settled : v.Settled cs lead bound)
    (extended : Extends cs lead start v w) : w.Settled cs lead bound where
  inText u member :=
    (extended.new_exits u member).elim (settled.inText u) fun new => new.1
  finished i known after := by
    rcases extended.new_seen i known with former | new
    · exact (settled.finished i former after).mono extended.seen extended.exits
    · exact new.2

/-- Whoever enters a place has settled what lies behind it if that was settled before. -/
theorem enter (settled : v.Settled cs lead t.index) (exits : List Thread)
    (left : ∀ u ∈ v.exits, u ∈ exits) (inText : ∀ u ∈ exits, u.At cs) :
    Settled cs lead (t.index + 1) { seen := v.seen.insert t.index, exits } where
  inText := inText
  finished i known after := by
    have former : i ∈ v.seen :=
      (Std.HashSet.mem_insert.mp known).resolve_left fun same =>
        absurd (eq_of_beq same) (Nat.lt_of_succ_le after).ne
    exact (settled.finished i former (Nat.le_of_succ_le after)).mono
      (fun _ member => Std.HashSet.mem_insert.mpr (.inr member)) left

/-- Behind a place that has been reached nothing follows if nothing follows where the loop has been
left. -/
theorem goOn?_eq_none (settled : v.Settled cs lead t.index) (backtracks : Backtracks cs body once)
    (spans : ∀ t, t.At cs → Spans cs lead [t] (body t)) (advances : ∀ i j, lead i j → i < j)
    (byPlace : ByPlace cs follow) (here : t.At cs) (failed : v.found? follow = none)
    (known : t.index ∈ v.seen) (fuel : Nat) : goOn? once greedy follow fuel t = none := by
  have reached : ∀ j, ReflTransGen lead t.index j → t.index ≤ j ∧ j ∈ v.seen := by
    intro j leads
    induction leads with
    | refl => exact ⟨le_rfl, known⟩
    | tail _ once ih =>
      exact ⟨ih.1.trans (advances _ _ once).le, (settled.finished _ ih.2 ih.1).2 _ once⟩
  rw [← Option.not_isSome_iff_eq_none]
  intro succeeds
  obtain ⟨j, leads, succeeds⟩ := exists_of_goOn? backtracks spans byPlace here succeeds
  obtain ⟨after, among⟩ := reached j leads
  obtain ⟨⟨u, left, rfl⟩, -⟩ := settled.finished j among after
  have none := List.findSome?_eq_none_iff.mp failed u (List.mem_reverse.mpr left)
  rw [← byPlace u (settled.inText u left), none] at succeeds
  cases succeeds

end Visit.Settled

/-- The iterations that follow a place find the first success after one more iteration, if each
exploration does so for its own place. -/
theorem found?_iterations (backtracks : Backtracks cs body once)
    (spans : ∀ t, t.At cs → Spans cs lead [t] (body t)) (advances : ∀ i j, lead i j → i < j)
    (byPlace : ByPlace cs follow) {fuel bound : Nat}
    (explores : ∀ (u : Thread) (v : Visit), u.At cs → cs.length - u.index < fuel →
      v.Settled cs lead u.index → v.found? follow = none →
      (explore body greedy fuel v u).found? follow = goOn? once greedy follow fuel u)
    (here : t.At cs) (enough : cs.length - t.index ≤ fuel) (behind : bound ≤ t.index + 1)
    (settled : v.Settled cs lead bound) :
    ((body t).foldl (explore body greedy fuel) v).Settled cs lead bound ∧
      (v.found? follow = none → ((body t).foldl (explore body greedy fuel) v).found? follow =
        once (goOn? once greedy follow fuel) t) := by
  have next : ∀ u ∈ body t, u.At cs ∧ t.index < u.index ∧ cs.length - u.index < fuel := by
    intro u member
    have inText := (spans t here).inText u member
    have later := advances _ _ ((spans t here).single_iff.mpr ⟨u, member, rfl⟩)
    have inside := inText.index_le
    exact ⟨inText, later, by omega⟩
  rw [← backtracks _ (byPlace_goOn? backtracks spans byPlace fuel) t here]
  refine Visit.found?_foldl (exits_explore body greedy fuel) (fun u member v settled => ?_)
    (fun u member v settled failed => ?_) settled
  · obtain ⟨inText, -, fewer⟩ := next u member
    exact settled.extend (explore_spec spans advances fuel v inText fewer).1
  · obtain ⟨inText, later, fewer⟩ := next u member
    refine explores u v inText fewer ⟨settled.inText, fun i known after => ?_⟩ failed
    exact settled.finished i known (behind.trans (later.trans_le after))

/-- **An exploration finds the first success of going on**, as long as nothing has been found and
all that lies behind its place is settled. -/
theorem found?_explore (backtracks : Backtracks cs body once)
    (spans : ∀ t, t.At cs → Spans cs lead [t] (body t)) (advances : ∀ i j, lead i j → i < j)
    (byPlace : ByPlace cs follow) (fuel : Nat) (here : t.At cs)
    (enough : cs.length - t.index < fuel) (settled : v.Settled cs lead t.index)
    (failed : v.found? follow = none) :
    (explore body greedy fuel v t).found? follow = goOn? once greedy follow fuel t := by
  induction fuel generalizing v t with
  | zero => exact absurd enough (Nat.not_lt_zero _)
  | succ fuel ih =>
    have further {w : Visit} (settled : w.Settled cs lead (t.index + 1)) :=
      (found?_iterations backtracks spans advances byPlace (fun u v here enough => ih here enough)
        here (Nat.le_of_lt_succ enough) le_rfl settled).2
    rw [explore]
    split
    · rename_i known
      rw [failed, settled.goOn?_eq_none backtracks spans advances byPlace here failed
        (Std.HashSet.contains_iff_mem.mp known)]
    · cases greedy with
      | true =>
        have entered := settled.enter v.exits (fun _ member => member) settled.inText
        rw [goOn?, if_pos rfl, ← further entered failed]
        exact Visit.found?_cons _
      | false =>
        have entered := settled.enter (t :: v.exits) (fun _ => List.mem_cons_of_mem t)
          (List.forall_mem_cons.mpr ⟨here, settled.inText⟩)
        have left : (Visit.mk (t :: v.exits) (v.seen.insert t.index)).found? follow = follow t := by
          rw [Visit.found?_cons, failed, Option.none_or]
        rw [goOn?, if_neg Bool.false_ne_true]
        cases succeeded : follow t with
        | some a =>
          refine Visit.found?_of_suffix ?_ (left.trans succeeded)
          exact Visit.exits_foldl (exits_explore body false fuel) (body t) _
        | none => exact further entered (left.trans succeeded)

/-- The first success where a loop is left is that of going on after its first iterations. -/
theorem findSome?_explore (backtracks : Backtracks cs body once)
    (spans : ∀ t, t.At cs → Spans cs lead [t] (body t)) (advances : ∀ i j, lead i j → i < j)
    (byPlace : ByPlace cs follow) (here : ∀ t ∈ ts, t.At cs) :
    (ts.foldl (fun v t => (body t).foldl (explore body greedy (t.rest.length + 1)) v)
        {}).exits.reverse.findSome? follow =
      ts.findSome? fun t => once (goOn? once greedy follow (t.rest.length + 1)) t := by
  have grows (v : Visit) (t : Thread) :
      v.exits <:+ ((body t).foldl (explore body greedy (t.rest.length + 1)) v).exits :=
    Visit.exits_foldl (exits_explore body greedy _) (body t) v
  have nothing : Visit.Settled cs lead 0 {} :=
    ⟨fun u member => absurd member List.not_mem_nil,
      fun i known => absurd known Std.HashSet.not_mem_empty⟩
  have explores (fuel : Nat) (u : Thread) (v : Visit) (here : u.At cs)
      (enough : cs.length - u.index < fuel) (settled : v.Settled cs lead u.index)
      (failed : v.found? follow = none) :
      (explore body greedy fuel v u).found? follow = goOn? once greedy follow fuel u :=
    found?_explore backtracks spans advances byPlace fuel here enough settled failed
  have each : ∀ t ∈ ts, ∀ v : Visit, v.Settled cs lead 0 → _ := fun t member v settled =>
    found?_iterations backtracks spans advances byPlace (explores (t.rest.length + 1))
      (here t member) ((here t member).length_rest ▸ Nat.le_succ _) (Nat.zero_le _) settled
  exact (Visit.found?_foldl grows (fun t member v settled => (each t member v settled).1)
    (fun t member v settled => (each t member v settled).2) nothing).2 rfl

end Loops

/-! ## The whole pattern -/

theorem findSome?_filterMap (f : Thread → Option Thread) :
    (ts.filterMap f).findSome? follow = ts.findSome? fun t => (f t).bind follow := by
  rw [← List.head?_filterMap, List.filterMap_filterMap, List.head?_filterMap]

theorem findSome?_filter (p : Thread → Bool) :
    (ts.filter p).findSome? follow = ts.findSome? fun t => if p t then follow t else none := by
  rw [← List.head?_filterMap, List.filterMap_filter, List.head?_filterMap]

theorem findSome?_flatMap (f : Thread → List Thread) :
    (ts.flatMap f).findSome? follow = ts.findSome? fun t => (f t).findSome? follow := by
  rw [← List.head?_filterMap, List.filterMap_flatMap, List.head?_flatMap]
  simp only [List.head?_filterMap]

theorem findSome?_congr {f g : Thread → Option α} (same : ∀ t ∈ ts, f t = g t) :
    ts.findSome? f = ts.findSome? g := by
  rw [← List.head?_filterMap, ← List.head?_filterMap, List.filterMap_congr same]

/-- What a pattern does from many places it does from each. -/
theorem backtracks_of_findSome? {node : Node}
    (many : ∀ {ts : List Thread} {follow : Thread → Option α}, ByPlace cs follow →
      (∀ t ∈ ts, t.At cs) → (node.ends ts).findSome? follow = ts.findSome? (node.first? follow)) :
    Backtracks (α := α) cs (fun t => node.ends [t]) node.first? := by
  intro follow byPlace t here
  rw [many byPlace (List.forall_mem_singleton.mpr here), List.findSome?_singleton]

/-- **The first success among the threads to which a pattern leads is that of backtracking**, if
every iteration of its loops reads a character and what follows depends on the place alone. -/
theorem Node.findSome?_ends {node : Node} (advances : node.loopsAdvance = true)
    (byPlace : ByPlace cs follow) (here : ∀ t ∈ ts, t.At cs) :
    (node.ends ts).findSome? follow = ts.findSome? (node.first? follow) := by
  induction node generalizing ts follow with
  | empty => rfl
  | set chars => exact findSome?_filterMap _
  | look condition => exact findSome?_filter _
  | cat first second ih₁ ih₂ =>
    obtain ⟨former, latter⟩ := Bool.and_eq_true_iff.mp advances
    have later : ByPlace cs (second.first? follow) :=
      (backtracks_of_findSome? (ih₂ latter)).byPlace (fun t => spans_ends latter) byPlace
    exact (ih₂ latter byPlace (ends_spec former here).inText).trans (ih₁ former later here)
  | alt first second ih₁ ih₂ =>
    obtain ⟨former, latter⟩ := Bool.and_eq_true_iff.mp advances
    have reached : ∀ u ∈ ts.flatMap fun t => first.ends [t] ++ second.ends [t], u.At cs := by
      intro u member
      obtain ⟨t, start, member⟩ := List.mem_flatMap.mp member
      exact (List.mem_append.mp member).elim ((spans_ends former (here t start)).inText u)
        ((spans_ends latter (here t start)).inText u)
    refine (findSome?_distinct byPlace reached).trans ((findSome?_flatMap _).trans ?_)
    refine findSome?_congr fun t start => ?_
    have inText := here t start
    rw [List.findSome?_append, backtracks_of_findSome? (ih₁ former) follow byPlace t inText,
      backtracks_of_findSome? (ih₂ latter) follow byPlace t inText]
    rfl
  | run greedy chars =>
    exact findSome?_runs byPlace (fun i known => absurd known Std.HashSet.not_mem_empty)
      (fun i known => absurd known Std.HashSet.not_mem_empty) here greedy
  | loop greedy body ih =>
    obtain ⟨moves, inner⟩ := Bool.and_eq_true_iff.mp advances
    exact findSome?_explore (backtracks_of_findSome? (ih inner))
      (fun t => spans_ends inner)
      (fun i j => lt_of_leads (Bool.not_eq_true' _ ▸ moves)) byPlace here
  | group index name body ih =>
    have entered : ∀ t ∈ ts.map Thread.enter, t.At cs :=
      List.forall_mem_map.mpr fun t start => (here t start).enter
    rw [ends, List.findSome?_map]
    refine (ih advances (byPlace.leave index) entered).trans ?_
    rw [List.findSome?_map]
    rfl

/-- **The search by preference finds what the search that backtracks finds**: the most preferred
thread to which a pattern leads is the first one that backtracking comes to. -/
theorem Node.head?_ends {node : Node} (advances : node.loopsAdvance = true) (here : t.At cs) :
    (node.ends [t]).head? = node.first? some t := by
  have found := findSome?_ends advances (byPlace_some cs) (List.forall_mem_singleton.mpr here)
  rwa [List.findSome?_singleton, ← List.head?_filterMap, List.filterMap_some] at found

end LintRun.Regex
