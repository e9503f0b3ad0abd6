import Mathlib.Data.List.Basic
import LintRun.Proofs.Regex.Places

/-!
# Searching by preference

The threads to which `Node.ends` leads are at the places to which the pattern leads, all of them and
no others (`ends_spec`). That a place is left out which has been reached before loses none: a run of
characters stops at such a place because the rest of the run has been reached too, and in a loop all
iterations that follow it are explored by whoever came first. So the search succeeds exactly if the
pattern occurs in the text (`isSome_findByPreference_iff`), and a match starts at the first place
where it does (`first_of_findFrom`).
-/

set_option autoImplicit false

namespace LintRun.Regex

open Relation (TransGen ReflTransGen)

variable {cs : List Char} {t u : Thread} {ts us vs : List Thread} {chars : CharSet} {i j k : Nat}

/-- Whether some threads are at places of a text, which are those to which a relation leads from the
places of others. -/
structure Spans (cs : List Char) (lead : Nat → Nat → Prop) (ts us : List Thread) : Prop where
  inText : ∀ u ∈ us, u.At cs
  index_iff : ∀ j, (∃ u ∈ us, u.index = j) ↔ ∃ t ∈ ts, lead t.index j

/-- From a single thread. -/
theorem Spans.single_iff {lead : Nat → Nat → Prop} (spans : Spans cs lead [t] us) :
    lead t.index j ↔ ∃ u ∈ us, u.index = j := by
  rw [spans.index_iff j]
  constructor
  · exact fun leads => ⟨t, List.mem_singleton_self t, leads⟩
  · rintro ⟨_, same, leads⟩
    exact List.mem_singleton.mp same ▸ leads

theorem Spans.comp {first second : Nat → Nat → Prop} (one : Spans cs first ts us)
    (two : Spans cs second us vs) : Spans cs (Relation.Comp first second) ts vs := by
  refine ⟨two.inText, fun j => (two.index_iff j).trans ⟨?_, ?_⟩⟩
  · rintro ⟨u, member, leads⟩
    obtain ⟨t, start, led⟩ := (one.index_iff u.index).mp ⟨u, member, rfl⟩
    exact ⟨t, start, u.index, led, leads⟩
  · rintro ⟨t, start, middle, led, leads⟩
    obtain ⟨u, member, rfl⟩ := (one.index_iff middle).mpr ⟨t, start, led⟩
    exact ⟨u, member, leads⟩

/-! ## Places that are reached twice -/

theorem distinct_go_spec (seen : Std.HashSet Nat) (ts : List Thread) :
    (∀ u ∈ distinct.go seen ts, u ∈ ts) ∧
      ∀ t ∈ ts, t.index ∈ seen ∨ ∃ u ∈ distinct.go seen ts, u.index = t.index := by
  induction ts generalizing seen with
  | nil => exact ⟨fun u member => member, fun t member => absurd member List.not_mem_nil⟩
  | cons t ts ih =>
    rw [distinct.go]
    split
    · rename_i known
      refine ⟨fun u member => List.mem_cons_of_mem t ((ih seen).1 u member), fun u member => ?_⟩
      rcases List.mem_cons.mp member with rfl | later
      · exact .inl known
      · exact (ih seen).2 u later
    · constructor
      · intro u member
        rcases List.mem_cons.mp member with rfl | later
        · exact List.mem_cons_self
        · exact List.mem_cons_of_mem t ((ih _).1 u later)
      · intro u member
        rcases List.mem_cons.mp member with rfl | later
        · exact .inr ⟨u, List.mem_cons_self, rfl⟩
        · rcases (ih _).2 u later with known | ⟨v, kept, same⟩
          · rcases Std.HashSet.mem_insert.mp known with same | known
            · exact .inr ⟨t, List.mem_cons_self, eq_of_beq same⟩
            · exact .inl known
          · exact .inr ⟨v, List.mem_cons_of_mem t kept, same⟩

/-- Leaving out places that stand earlier in the list loses none. -/
theorem distinct_spec (ts : List Thread) :
    (∀ u ∈ distinct ts, u ∈ ts) ∧ ∀ t ∈ ts, ∃ u ∈ distinct ts, u.index = t.index := by
  unfold distinct
  split
  · exact ⟨fun _ member => member, fun t member => ⟨t, member, rfl⟩⟩
  · exact ⟨fun _ member => member, fun t member => ⟨t, member, rfl⟩⟩
  · refine ⟨(distinct_go_spec ∅ ts).1, fun t member => ?_⟩
    exact ((distinct_go_spec ∅ ts).2 t member).resolve_left Std.HashSet.not_mem_empty

theorem Spans.distinct {lead : Nat → Nat → Prop} (spans : Spans cs lead ts us) :
    Spans cs lead ts (distinct us) := by
  obtain ⟨kept, covered⟩ := distinct_spec us
  refine ⟨fun u member => spans.inText u (kept u member), fun j => ?_⟩
  rw [← spans.index_iff j]
  constructor
  · rintro ⟨u, member, same⟩
    exact ⟨u, kept u member, same⟩
  · rintro ⟨u, member, rfl⟩
    exact covered u member

/-! ## Runs of characters -/

/-- Whether all that follows a place of a set is in it too. -/
def Closed (lead : Nat → Nat → Prop) (seen : Std.HashSet Nat) : Prop :=
  ∀ i ∈ seen, ∀ j, lead i j → j ∈ seen

theorem Closed.mem {lead : Nat → Nat → Prop} {seen : Std.HashSet Nat} (closed : Closed lead seen)
    (known : i ∈ seen) (leads : ReflTransGen lead i j) : j ∈ seen := by
  induction leads with
  | refl => exact known
  | tail _ last before => exact closed _ before _ last

theorem runOnto_spec {seen : Std.HashSet Nat} (closed : Closed (Passes cs chars) seen)
    (here : t.At cs) (out : List Thread) :
    (∀ u ∈ out, u ∈ runOnto chars seen t out t.rest) ∧
      (∀ u ∈ runOnto chars seen t out t.rest,
        u ∈ out ∨ u.At cs ∧ TransGen (Passes cs chars) t.index u.index) ∧
      ∀ j, TransGen (Passes cs chars) t.index j →
        j ∈ seen ∨ ∃ u ∈ runOnto chars seen t out t.rest, u.index = j := by
  generalize same : t.rest = after
  induction after generalizing t out with
  | nil =>
    refine ⟨fun u member => member, fun u member => .inl member, fun j leads => ?_⟩
    obtain ⟨k, passes, -⟩ := TransGen.head'_iff.mp leads
    have inside := passes.lt_length
    have length := here.length_rest
    rw [same, List.length_nil] at length
    omega
  | cons c rest ih =>
    obtain ⟨found, -⟩ := here.getElem?_of_rest same
    have next : (t.after c rest).At cs := here.after same
    rw [runOnto]
    split
    · rename_i fresh
      obtain ⟨inSet, -⟩ := Bool.and_eq_true_iff.mp fresh
      have passes : Passes cs chars t.index (t.after c rest).index := ⟨rfl, c, found, inSet⟩
      obtain ⟨kept, sound, complete⟩ := ih next (t.after c rest :: out) rfl
      refine ⟨fun u member => kept u (List.mem_cons_of_mem _ member), fun u member => ?_,
        fun j leads => ?_⟩
      · rcases sound u member with former | ⟨inText, leads⟩
        · rcases List.mem_cons.mp former with rfl | former
          · exact .inr ⟨next, .single passes⟩
          · exact .inl former
        · exact .inr ⟨inText, .head passes leads⟩
      · obtain ⟨k, ⟨rfl, -⟩, leads⟩ := TransGen.head'_iff.mp leads
        rcases Relation.reflTransGen_iff_eq_or_transGen.mp leads with rfl | leads
        · exact .inr ⟨_, kept _ List.mem_cons_self, rfl⟩
        · exact complete j leads
    · rename_i stops
      refine ⟨fun u member => member, fun u member => .inl member, fun j leads => .inl ?_⟩
      obtain ⟨k, ⟨rfl, c', found', inSet⟩, leads⟩ := TransGen.head'_iff.mp leads
      obtain rfl : c = c' := Option.some.inj (found.symm.trans found')
      refine closed.mem ?_ leads
      by_contra fresh
      have unseen : seen.contains (t.index + 1) = false :=
        Bool.eq_false_iff.mpr fun known => fresh (Std.HashSet.contains_iff_mem.mp known)
      exact stops (by rw [inSet, unseen, Bool.not_false, Bool.and_self])

theorem mem_foldl_insert_index (places : List Thread) (seen : Std.HashSet Nat) :
    j ∈ places.foldl (fun seen u => seen.insert u.index) seen ↔
      j ∈ seen ∨ ∃ u ∈ places, u.index = j := by
  induction places generalizing seen with
  | nil => simp only [List.foldl_nil, List.not_mem_nil, false_and, exists_false, or_false]
  | cons u places ih =>
    rw [List.foldl_cons, ih, Std.HashSet.mem_insert, List.exists_mem_cons_iff, beq_iff_eq, or_assoc]
    exact or_left_comm

/-- The places after one, two and more characters of a set, in the order of preference. -/
def runFrom (chars : CharSet) (greedy : Bool) (seen : Std.HashSet Nat) (t : Thread) : List Thread :=
  if greedy then runOnto chars seen t [] t.rest else (runOnto chars seen t [] t.rest).reverse

theorem runFrom_spec (greedy : Bool) {seen : Std.HashSet Nat}
    (closed : Closed (Passes cs chars) seen) (here : t.At cs) :
    (∀ u ∈ runFrom chars greedy seen t, u.At cs ∧ TransGen (Passes cs chars) t.index u.index) ∧
      ∀ j, TransGen (Passes cs chars) t.index j →
        j ∈ seen ∨ ∃ u ∈ runFrom chars greedy seen t, u.index = j := by
  obtain ⟨-, sound, complete⟩ := runOnto_spec closed here []
  have mem_iff : ∀ u, u ∈ runFrom chars greedy seen t ↔ u ∈ runOnto chars seen t [] t.rest := by
    intro u
    unfold runFrom
    split
    · exact Iff.rfl
    · exact List.mem_reverse
  simp only [mem_iff]
  exact ⟨fun u member => (sound u member).resolve_left List.not_mem_nil, complete⟩

theorem runs_spec (greedy : Bool) {seen : Std.HashSet Nat} (closed : Closed (Passes cs chars) seen)
    (here : ∀ t ∈ ts, t.At cs) :
    (∀ u ∈ runs chars greedy seen ts,
      u.At cs ∧ ∃ t ∈ ts, TransGen (Passes cs chars) t.index u.index) ∧
      ∀ t ∈ ts, ∀ j, TransGen (Passes cs chars) t.index j →
        j ∈ seen ∨ ∃ u ∈ runs chars greedy seen ts, u.index = j := by
  induction ts generalizing seen with
  | nil =>
    exact ⟨fun u member => absurd member List.not_mem_nil,
      fun t member => absurd member List.not_mem_nil⟩
  | cons t ts ih =>
    obtain ⟨sound, complete⟩ := runFrom_spec greedy closed (here t List.mem_cons_self)
    rw [runs.eq_def]
    set places := runFrom chars greedy seen t
    cases ts with
    | nil =>
      refine ⟨fun u member => ⟨(sound u member).1, t, List.mem_cons_self, (sound u member).2⟩, ?_⟩
      intro u member
      obtain rfl := List.mem_singleton.mp member
      exact complete
    | cons t' ts =>
      have closed' : Closed (Passes cs chars)
          (places.foldl (fun seen u => seen.insert u.index) seen) := by
        intro i known j passes
        rw [mem_foldl_insert_index] at known ⊢
        rcases known with known | ⟨u, member, rfl⟩
        · exact .inl (closed i known j passes)
        · exact complete j ((sound u member).2.tail passes)
      obtain ⟨soundLater, completeLater⟩ :=
        ih closed' fun t member => here t (List.mem_cons_of_mem _ member)
      have former : ∀ {j}, (j ∈ seen ∨ ∃ u ∈ places, u.index = j) →
          j ∈ seen ∨ ∃ u ∈ places ++ runs chars greedy
            (places.foldl (fun seen u => seen.insert u.index) seen) (t' :: ts), u.index = j :=
        .imp id fun ⟨u, member, same⟩ => ⟨u, List.mem_append_left _ member, same⟩
      constructor
      · intro u member
        rcases List.mem_append.mp member with early | late
        · exact ⟨(sound u early).1, t, List.mem_cons_self, (sound u early).2⟩
        · obtain ⟨inText, start, among, leads⟩ := soundLater u late
          exact ⟨inText, start, List.mem_cons_of_mem t among, leads⟩
      · intro start among j leads
        rcases List.mem_cons.mp among with rfl | later
        · exact former (complete j leads)
        · rcases completeLater start later j leads with known | ⟨u, member, same⟩
          · exact former ((mem_foldl_insert_index places seen).mp known)
          · exact .inr ⟨u, List.mem_append_right _ member, same⟩

theorem spans_runs (greedy : Bool) (here : ∀ t ∈ ts, t.At cs) :
    Spans cs (TransGen (Passes cs chars)) ts (runs chars greedy ∅ ts) := by
  have nothing : Closed (Passes cs chars) ∅ :=
    fun i known => absurd known Std.HashSet.not_mem_empty
  obtain ⟨sound, complete⟩ := runs_spec greedy nothing here
  refine ⟨fun u member => (sound u member).1, fun j => ⟨?_, ?_⟩⟩
  · rintro ⟨u, member, rfl⟩
    exact (sound u member).2
  · rintro ⟨t, member, leads⟩
    exact (complete t member j leads).resolve_left Std.HashSet.not_mem_empty

/-! ## Loops -/

section Loops

variable {lead : Nat → Nat → Prop} {start : Nat → Prop} {body : Thread → List Thread}
  {greedy : Bool} {v v' v'' : Visit}

/-- Whether the loop can be left at a place, and all places after one more iteration have been
reached. -/
def Visit.Finished (lead : Nat → Nat → Prop) (v : Visit) (i : Nat) : Prop :=
  (∃ u ∈ v.exits, u.index = i) ∧ ∀ j, lead i j → j ∈ v.seen

/-- What an exploration adds to what has been found: places that can be reached from where it
started, and all of them are finished. -/
structure Visit.Extends (cs : List Char) (lead : Nat → Nat → Prop) (start : Nat → Prop)
    (v v' : Visit) : Prop where
  seen : ∀ i ∈ v.seen, i ∈ v'.seen
  exits : ∀ u ∈ v.exits, u ∈ v'.exits
  new_seen : ∀ i ∈ v'.seen, i ∈ v.seen ∨ start i ∧ v'.Finished lead i
  new_exits : ∀ u ∈ v'.exits, u ∈ v.exits ∨ u.At cs ∧ start u.index

namespace Visit

theorem Finished.mono (finished : v.Finished lead i) (seen : ∀ i ∈ v.seen, i ∈ v'.seen)
    (exits : ∀ u ∈ v.exits, u ∈ v'.exits) : v'.Finished lead i := by
  obtain ⟨⟨u, member, same⟩, followed⟩ := finished
  exact ⟨⟨u, exits u member, same⟩, fun j leads => seen j (followed j leads)⟩

namespace Extends

theorem refl (v : Visit) : Extends cs lead start v v where
  seen _ known := known
  exits _ member := member
  new_seen _ known := .inl known
  new_exits _ member := .inl member

theorem trans (one : Extends cs lead start v v') (two : Extends cs lead start v' v'') :
    Extends cs lead start v v'' where
  seen i known := two.seen i (one.seen i known)
  exits u member := two.exits u (one.exits u member)
  new_seen i known := by
    rcases two.new_seen i known with former | new
    · refine (one.new_seen i former).imp id fun new => ⟨new.1, new.2.mono two.seen two.exits⟩
    · exact .inr new
  new_exits u member := by
    rcases two.new_exits u member with former | new
    · exact one.new_exits u former
    · exact .inr new

theorem mono {wider : Nat → Prop} (extended : Extends cs lead start v v')
    (within : ∀ i, start i → wider i) : Extends cs lead wider v v' where
  seen := extended.seen
  exits := extended.exits
  new_seen i known := (extended.new_seen i known).imp id fun new => ⟨within i new.1, new.2⟩
  new_exits u member :=
    (extended.new_exits u member).imp id fun new => ⟨new.1, within u.index new.2⟩

/-- Explorations one after the other, each of which reaches some places. -/
theorem foldl {f : Visit → Thread → Visit} {goal : Thread → Nat → Prop}
    (each : ∀ u ∈ us, ∀ v, Extends cs lead start v (f v u) ∧ ∀ j, goal u j → j ∈ (f v u).seen)
    (v : Visit) :
    Extends cs lead start v (us.foldl f v) ∧ ∀ u ∈ us, ∀ j, goal u j → j ∈ (us.foldl f v).seen := by
  induction us generalizing v with
  | nil => exact ⟨refl v, fun u member => absurd member List.not_mem_nil⟩
  | cons u us ih =>
    obtain ⟨first, reached⟩ := each u List.mem_cons_self v
    obtain ⟨rest, reachedLater⟩ :=
      ih (fun w member => each w (List.mem_cons_of_mem u member)) (f v u)
    refine ⟨first.trans rest, fun w member j isGoal => ?_⟩
    rcases List.mem_cons.mp member with rfl | later
    · exact rest.seen j (reached j isGoal)
    · exact reachedLater w later j isGoal

/-- The same from the end of an iteration, when the explorations are from where the next one
leads. -/
theorem foldl_of_spans {f : Visit → Thread → Visit} (spans : Spans cs lead [t] us)
    (each : ∀ u ∈ us, ∀ v, Extends cs lead start v (f v u) ∧ u.index ∈ (f v u).seen) (v : Visit) :
    Extends cs lead start v (us.foldl f v) ∧ ∀ j, lead t.index j → j ∈ (us.foldl f v).seen := by
  have reaching : ∀ u ∈ us, ∀ v,
      Extends cs lead start v (f v u) ∧ ∀ j, u.index = j → j ∈ (f v u).seen :=
    fun u member v => (each u member v).imp id fun seen _ same => same ▸ seen
  obtain ⟨extended, reached⟩ := foldl reaching v
  refine ⟨extended, fun j leads => ?_⟩
  obtain ⟨u, member, same⟩ := spans.single_iff.mp leads
  exact reached u member j same

/-- A place is finished when it has been entered, what the next iteration leads to has been reached,
and the loop can be left there, whichever of the last two comes first. -/
theorem of_entered {x w r : Visit} (here : t.At cs) (origin : start t.index)
    (extended : Extends cs lead start x w) (followed : ∀ j, lead t.index j → j ∈ w.seen)
    (entered : x.seen = v.seen.insert t.index)
    (left : ∀ u ∈ v.exits, u ∈ x.exits) (leaves : ∀ u ∈ x.exits, u = t ∨ u ∈ v.exits)
    (seen : r.seen = w.seen) (exits : ∀ u, u ∈ r.exits ↔ u = t ∨ u ∈ w.exits) :
    Extends cs lead start v r ∧ t.index ∈ r.seen := by
  have mem_entered : ∀ i, i ∈ x.seen ↔ t.index = i ∨ i ∈ v.seen := by
    intro i
    rw [entered, Std.HashSet.mem_insert, beq_iff_eq]
  have kept : ∀ u ∈ w.exits, u ∈ r.exits := fun u member => (exits u).mpr (.inr member)
  refine ⟨⟨fun i known => ?_, fun u member => kept u (extended.exits u (left u member)),
    fun i known => ?_, fun u member => ?_⟩, ?_⟩
  · exact seen ▸ extended.seen i ((mem_entered i).mpr (.inr known))
  · rcases extended.new_seen i (seen ▸ known) with former | new
    · rcases (mem_entered i).mp former with rfl | former
      · have left : ∃ u ∈ r.exits, u.index = t.index := ⟨t, (exits t).mpr (.inl rfl), rfl⟩
        exact .inr ⟨origin, left, fun j leads => seen ▸ followed j leads⟩
      · exact .inl former
    · exact .inr ⟨new.1, new.2.mono (fun i known => seen ▸ known) kept⟩
  · rcases (exits u).mp member with rfl | member
    · exact .inr ⟨here, origin⟩
    · rcases extended.new_exits u member with former | new
      · rcases leaves u former with rfl | former
        · exact .inr ⟨here, origin⟩
        · exact .inl former
      · exact .inr new
  · exact seen ▸ extended.seen _ ((mem_entered _).mpr (.inl rfl))

end Extends

end Visit

/-- The exploration from the end of an iteration reaches that place and finishes all it reaches.
Its fuel suffices because every iteration moves on in the text. -/
theorem explore_spec (spans : ∀ t, t.At cs → Spans cs lead [t] (body t))
    (advances : ∀ i j, lead i j → i < j) (fuel : Nat) (v : Visit) (here : t.At cs)
    (enough : cs.length - t.index < fuel) :
    Visit.Extends cs lead (ReflTransGen lead t.index) v (explore body greedy fuel v t) ∧
      t.index ∈ (explore body greedy fuel v t).seen := by
  induction fuel generalizing v t with
  | zero => exact absurd enough (Nat.not_lt_zero _)
  | succ fuel ih =>
    have each : ∀ u ∈ body t, ∀ v,
        Visit.Extends cs lead (ReflTransGen lead t.index) v (explore body greedy fuel v u) ∧
          u.index ∈ (explore body greedy fuel v u).seen := by
      intro u member v
      have leads : lead t.index u.index := (spans t here).single_iff.mpr ⟨u, member, rfl⟩
      have inText : u.At cs := (spans t here).inText u member
      have later := advances _ _ leads
      have inside := inText.index_le
      obtain ⟨extended, reached⟩ := ih v inText (by omega)
      exact ⟨extended.mono fun i rest => .head leads rest, reached⟩
    -- What the further iterations add to whatever has been found before them.
    have further := Visit.Extends.foldl_of_spans (spans t here) each
    rw [explore]
    split
    · rename_i known
      exact ⟨.refl v, Std.HashSet.contains_iff_mem.mp known⟩
    · dsimp only
      split
      · obtain ⟨extended, followed⟩ := further { v with seen := v.seen.insert t.index }
        exact Visit.Extends.of_entered here .refl extended followed rfl (fun u member => member)
          (fun u member => .inr member) rfl fun u => List.mem_cons
      · obtain ⟨extended, followed⟩ :=
          further { seen := v.seen.insert t.index, exits := t :: v.exits }
        refine Visit.Extends.of_entered here .refl extended followed rfl
          (fun u => List.mem_cons_of_mem t) (fun u member => List.mem_cons.mp member) rfl
          fun u => ⟨.inr, ?_⟩
        rintro (rfl | member)
        · exact extended.exits u List.mem_cons_self
        · exact member

/-- The places where a loop is left are those to which one or more iterations lead. -/
theorem spans_explore (spans : ∀ t, t.At cs → Spans cs lead [t] (body t))
    (advances : ∀ i j, lead i j → i < j) (here : ∀ t ∈ ts, t.At cs) :
    Spans cs (TransGen lead) ts
      (ts.foldl (fun v t => (body t).foldl (explore body greedy (t.rest.length + 1)) v)
        {}).exits.reverse := by
  have each : ∀ t ∈ ts, ∀ v,
      Visit.Extends cs lead (fun i => ∃ t ∈ ts, TransGen lead t.index i) v
          ((body t).foldl (explore body greedy (t.rest.length + 1)) v) ∧
        ∀ j, lead t.index j →
          j ∈ ((body t).foldl (explore body greedy (t.rest.length + 1)) v).seen := by
    intro t member
    have inText := here t member
    refine Visit.Extends.foldl_of_spans (spans t inText) fun u reached v => ?_
    have leads : lead t.index u.index := (spans t inText).single_iff.mpr ⟨u, reached, rfl⟩
    have later := advances _ _ leads
    have length := inText.length_rest
    obtain ⟨extended, known⟩ := @explore_spec cs u lead body greedy spans advances
      (t.rest.length + 1) v ((spans t inText).inText u reached) (by omega)
    exact ⟨extended.mono fun i rest => ⟨t, member, .head' leads rest⟩, known⟩
  obtain ⟨extended, known⟩ := Visit.Extends.foldl each {}
  set w := ts.foldl (fun v t => (body t).foldl (explore body greedy (t.rest.length + 1)) v) {}
  have finished : ∀ i ∈ w.seen, w.Finished lead i := fun i member =>
    ((extended.new_seen i member).resolve_left Std.HashSet.not_mem_empty).2
  refine ⟨fun u member => ?_, fun j => ⟨?_, ?_⟩⟩
  · exact ((extended.new_exits u (List.mem_reverse.mp member)).resolve_left List.not_mem_nil).1
  · rintro ⟨u, member, rfl⟩
    exact ((extended.new_exits u (List.mem_reverse.mp member)).resolve_left List.not_mem_nil).2
  · rintro ⟨t, member, leads⟩
    have closed : Closed lead w.seen := fun i member j leads => (finished i member).2 j leads
    obtain ⟨k, first, rest⟩ := TransGen.head'_iff.mp leads
    obtain ⟨⟨u, left, same⟩, -⟩ := finished j (closed.mem (known t member k first) rest)
    exact ⟨u, List.mem_reverse.mpr left, same⟩

end Loops

/-! ## The whole pattern -/

theorem Spans.of_singletons {lead : Nat → Nat → Prop} {f : Thread → List Thread}
    (each : ∀ t ∈ ts, Spans cs lead [t] (f t)) : Spans cs lead ts (ts.flatMap f) where
  inText u member := by
    obtain ⟨t, start, member⟩ := List.mem_flatMap.mp member
    exact (each t start).inText u member
  index_iff j := by
    constructor
    · rintro ⟨u, member, same⟩
      obtain ⟨t, start, member⟩ := List.mem_flatMap.mp member
      exact ⟨t, start, (each t start).single_iff.mpr ⟨u, member, same⟩⟩
    · rintro ⟨t, start, leads⟩
      obtain ⟨u, member, same⟩ := (each t start).single_iff.mp leads
      exact ⟨u, List.mem_flatMap.mpr ⟨t, start, member⟩, same⟩

theorem Spans.append {first second : Nat → Nat → Prop} (one : Spans cs first ts us)
    (two : Spans cs second ts vs) :
    Spans cs (fun i j => first i j ∨ second i j) ts (us ++ vs) where
  inText u member := (List.mem_append.mp member).elim (one.inText u) (two.inText u)
  index_iff j := by
    simp only [List.mem_append, or_and_right, exists_or, one.index_iff, two.index_iff, and_or_left]

theorem spans_set (here : ∀ t ∈ ts, t.At cs) :
    Spans cs (Passes cs chars) ts (ts.filterMap (·.next? chars)) := by
  refine ⟨fun u member => ?_, fun j => ⟨?_, ?_⟩⟩
  · obtain ⟨t, start, moved⟩ := List.mem_filterMap.mp member
    exact (((here t start).next? chars).1 u moved).1
  · rintro ⟨u, member, rfl⟩
    obtain ⟨t, start, moved⟩ := List.mem_filterMap.mp member
    exact ⟨t, start, (((here t start).next? chars).1 u moved).2⟩
  · rintro ⟨t, start, passes⟩
    obtain ⟨u, moved, same⟩ := ((here t start).next? chars).2 j passes
    exact ⟨u, List.mem_filterMap.mpr ⟨t, start, moved⟩, same⟩

theorem spans_look (condition : Look) (here : ∀ t ∈ ts, t.At cs) :
    Spans cs ((Node.look condition).Leads cs) ts (ts.filter condition.holds) := by
  refine ⟨fun u member => here u (List.mem_filter.mp member).1, fun j => ⟨?_, ?_⟩⟩
  · rintro ⟨u, member, rfl⟩
    obtain ⟨start, holds⟩ := List.mem_filter.mp member
    exact ⟨u, start, ((here u start).holds condition).symm.trans holds, rfl⟩
  · rintro ⟨t, start, holds, same⟩
    refine ⟨t, List.mem_filter.mpr ⟨start, ?_⟩, same⟩
    exact ((here t start).holds condition).trans holds

/-- Entering and leaving a group does not change the place. -/
theorem Spans.group {lead : Nat → Nat → Prop} (inner : Spans cs lead (ts.map Thread.enter) us)
    (index : Nat) : Spans cs lead ts (us.map (·.leave index)) := by
  refine ⟨fun u member => ?_, fun j => ⟨?_, ?_⟩⟩
  · obtain ⟨inside, reached, rfl⟩ := List.mem_map.mp member
    exact (inner.inText inside reached).leave index
  · rintro ⟨u, member, rfl⟩
    obtain ⟨inside, reached, rfl⟩ := List.mem_map.mp member
    obtain ⟨t, start, leads⟩ := (inner.index_iff inside.index).mp ⟨inside, reached, rfl⟩
    obtain ⟨outside, among, rfl⟩ := List.mem_map.mp start
    exact ⟨outside, among, (Thread.index_leave inside index).symm ▸ leads⟩
  · rintro ⟨t, start, leads⟩
    obtain ⟨u, member, same⟩ :=
      (inner.index_iff j).mpr ⟨t.enter, List.mem_map_of_mem start, leads⟩
    exact ⟨u.leave index, List.mem_map_of_mem member, (Thread.index_leave u index).trans same⟩

/-- **The threads to which a pattern leads are at the places to which it leads**, if every iteration
of its loops reads a character. -/
theorem Node.ends_spec {node : Node} (advances : node.loopsAdvance = true)
    (here : ∀ t ∈ ts, t.At cs) : Spans cs (node.Leads cs) ts (node.ends ts) := by
  induction node generalizing ts with
  | empty => exact ⟨here, fun j => Iff.rfl⟩
  | set chars => exact spans_set here
  | look condition => exact spans_look condition here
  | cat first second ih₁ ih₂ =>
    obtain ⟨former, latter⟩ := Bool.and_eq_true_iff.mp advances
    have one := ih₁ former here
    exact one.comp (ih₂ latter one.inText)
  | alt first second ih₁ ih₂ =>
    obtain ⟨former, latter⟩ := Bool.and_eq_true_iff.mp advances
    refine (Spans.of_singletons fun t start => ?_).distinct
    have single : ∀ u ∈ [t], u.At cs := fun u same => List.mem_singleton.mp same ▸ here t start
    exact (ih₁ former single).append (ih₂ latter single)
  | run greedy chars => exact spans_runs greedy here
  | loop greedy body ih =>
    obtain ⟨moves, inner⟩ := Bool.and_eq_true_iff.mp advances
    have spans : ∀ t, t.At cs → Spans cs (body.Leads cs) [t] (body.ends [t]) := fun t inText =>
      ih inner fun u same => List.mem_singleton.mp same ▸ inText
    exact spans_explore spans
      (fun i j => lt_of_leads (Bool.not_eq_true' _ ▸ moves)) here
  | group index name body ih =>
    have entered : ∀ t ∈ ts.map Thread.enter, t.At cs := by
      intro t member
      obtain ⟨t, start, rfl⟩ := List.mem_map.mp member
      exact (here t start).enter
    exact (ih advances entered).group index

theorem Node.ends_ne_nil_iff {node : Node} (advances : node.loopsAdvance = true)
    (here : t.At cs) : node.ends [t] ≠ [] ↔ ∃ j, node.Leads cs t.index j := by
  have spans : Spans cs (node.Leads cs) [t] (node.ends [t]) :=
    ends_spec advances fun u same => List.mem_singleton.mp same ▸ here
  constructor
  · intro some_end
    obtain ⟨u, member⟩ := List.exists_mem_of_ne_nil _ some_end
    exact ⟨u.index, spans.single_iff.mpr ⟨u, member, rfl⟩⟩
  · rintro ⟨j, leads⟩
    obtain ⟨u, member, -⟩ := spans.single_iff.mp leads
    exact List.ne_nil_of_mem member

theorem Node.isSome_findFrom_iff {node : Node} (advances : node.loopsAdvance = true)
    {index : Nat} {before : Option Char} {rest : List Char}
    (here : Thread.At cs { index, before, rest }) :
    (node.findFrom index before rest).isSome = true ↔
      ∃ i j, index ≤ i ∧ i ≤ cs.length ∧ node.Leads cs i j := by
  have ends_iff := ends_ne_nil_iff advances here
  have inside := here.index_le
  induction rest generalizing index before with
  | nil =>
    have last : 0 = cs.length - index := here.length_rest
    rw [findFrom, Option.isSome_map, List.isSome_head?, ends_iff]
    constructor
    · rintro ⟨j, leads⟩
      exact ⟨index, j, le_rfl, inside, leads⟩
    · rintro ⟨i, j, after, within, leads⟩
      obtain rfl : index = i := by omega
      exact ⟨j, leads⟩
  | cons c rest ih =>
    have next : Thread.At cs { index := index + 1, before := some c, rest } := here.after rfl
    rw [findFrom]
    split
    · rename_i first
      obtain ⟨j, leads⟩ := ends_iff.mp (first ▸ List.cons_ne_nil _ _)
      exact iff_of_true rfl ⟨index, j, le_rfl, inside, leads⟩
    · rename_i nowhere
      refine (ih next (ends_ne_nil_iff advances next) next.index_le).trans ⟨?_, ?_⟩
      · rintro ⟨i, j, after, found⟩
        exact ⟨i, j, (Nat.le_succ index).trans after, found⟩
      · rintro ⟨i, j, after, within, leads⟩
        refine ⟨i, j, after.lt_of_ne ?_, within, leads⟩
        rintro rfl
        exact ends_iff.mpr ⟨j, leads⟩ nowhere

/-- **The search by preference succeeds exactly if the pattern occurs in the text**, if every
iteration of its loops reads a character. -/
theorem Node.isSome_findByPreference_iff {node : Node} (advances : node.loopsAdvance = true)
    (cs : List Char) : (node.findByPreference cs).isSome = true ↔ node.Occurs cs := by
  have start : Thread.At cs { index := 0, before := none, rest := cs } :=
    ⟨Nat.zero_le _, rfl, rfl⟩
  rw [findByPreference, isSome_findFrom_iff advances start]
  exact ⟨fun ⟨i, j, _, found⟩ => ⟨i, j, found⟩, fun ⟨i, j, found⟩ => ⟨i, j, Nat.zero_le i, found⟩⟩

/-- A match by preference starts at the first place from which the pattern leads anywhere. -/
theorem Node.first_of_findFrom {node : Node} (advances : node.loopsAdvance = true) {index : Nat}
    {before : Option Char} {rest : List Char} (here : Thread.At cs { index, before, rest })
    {m : Match} (found : node.findFrom index before rest = some m) :
    m.span.start ≤ cs.length ∧ (∃ j, node.Leads cs m.span.start j) ∧
      ∀ i, index ≤ i → i < m.span.start → ¬ ∃ j, node.Leads cs i j := by
  have nothing_before : ∀ i, index ≤ i → i < index → ¬ ∃ j, node.Leads cs i j :=
    fun i after earlier => absurd earlier (Nat.not_lt.mpr after)
  have ends_iff := ends_ne_nil_iff advances here
  induction rest generalizing index before with
  | nil =>
    rw [findFrom, Option.map_eq_some_iff] at found
    obtain ⟨t, first, rfl⟩ := found
    refine ⟨here.index_le, ends_iff.mp fun nowhere => ?_, nothing_before⟩
    rw [nowhere] at first
    cases first
  | cons c rest ih =>
    rw [findFrom] at found
    split at found
    · rename_i first
      obtain rfl := Option.some.inj found
      exact ⟨here.index_le, ends_iff.mp (first ▸ List.cons_ne_nil _ _), nothing_before⟩
    · rename_i nowhere
      have next : Thread.At cs { index := index + 1, before := some c, rest } := here.after rfl
      obtain ⟨inside, leads, none_between⟩ := ih next found
        (fun i after earlier => absurd earlier (Nat.not_lt.mpr after))
        (ends_ne_nil_iff advances next)
      refine ⟨inside, leads, fun i after earlier => ?_⟩
      rcases after.eq_or_lt with rfl | later
      · exact fun leads => ends_iff.mpr leads nowhere
      · exact none_between i later earlier

end LintRun.Regex
