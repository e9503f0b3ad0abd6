import LintRun.Proofs.Regex.Backtracking
import LintRun.Regex

/-!
# Backtracking through a known text

Where it is known what comes next in a text, it is known how far backtracking goes: a text that is
spelled out is passed or refused (`first?_spelled`), of several such texts the one is taken that
comes next (`first?_choice_spelled`), a greedy run ends where its characters end if what follows
succeeds there or refuses all of them (`first?_run`, `first?_anyNumber_of_refused`), and a reluctant
one ends at the first place where what follows succeeds (`first?_reluctant`). It is known too to
which places such parts of a pattern lead at all (`leads_spelled_iff`, `leads_anyNumber_iff`,
`holds_wordBoundary`).
-/

set_option autoImplicit false

namespace LintRun.Regex

variable {α : Type} {t : Thread} {chars : CharSet} {follow : Thread → Option α} {a : α} {c : Char}
  {cs rest : List Char}

/-! ## Places farther on -/

/-- The place after some characters, given what follows them. -/
def Thread.past (t : Thread) (cs rest : List Char) : Thread :=
  { t with index := t.index + cs.length, before := cs.getLast?.or t.before, rest }

namespace Thread

theorem past_nil (t : Thread) : t.past [] t.rest = t := rfl

theorem past_past (t : Thread) (first second rest others : List Char) :
    (t.past first others).past second rest = t.past (first ++ second) rest := by
  simp only [past, List.length_append, List.getLast?_append, Option.or_assoc, Nat.add_assoc]

theorem past_after (t : Thread) (c : Char) (cs rest others : List Char) :
    (t.after c others).past cs rest = t.past (c :: cs) rest :=
  past_past t [c] cs rest others

@[simp]
theorem rest_past (t : Thread) (cs rest : List Char) : (t.past cs rest).rest = rest := rfl

end Thread

/-! ## Texts that are spelled out -/

/-- A text that stands for itself. -/
def spelled (cs : List Char) : Node :=
  Node.sequence (cs.map fun c => .set (CharSet.single c.toNat))

theorem has_single_iff {d : Char} : (CharSet.single c.toNat).has d.toNat = true ↔ d = c := by
  have same : d.toNat = c.toNat ↔ d = c := Char.toNat_inj
  simp only [CharSet.single, Unicode.Ranges.has]
  split
  · exact iff_of_false Bool.false_ne_true fun equal => by subst equal; omega
  · split
    · exact iff_of_true rfl (same.mp (by omega))
    · exact iff_of_false Bool.false_ne_true fun equal => by subst equal; omega

/-- One character is passed or refused. -/
theorem first?_single (c : Char) (follow : Thread → Option α) (t : Thread) :
    (Node.set (CharSet.single c.toNat)).first? follow t =
      match t.rest with
      | [] => none
      | d :: rest => if c = d then follow (t.past [c] rest) else none := by
  rw [Node.first?, Thread.next?]
  cases t.rest with
  | nil => rfl
  | cons d rest =>
    dsimp only
    by_cases same : c = d
    · subst same
      rw [if_pos (has_single_iff.mpr rfl), if_pos rfl]
      rfl
    · rw [if_neg (mt has_single_iff.mp (Ne.symm same)), if_neg same]
      rfl

/-- A text that is spelled out is passed or refused. -/
theorem first?_spelled (nonempty : cs ≠ []) (t : Thread) : (spelled cs).first? follow t =
    if cs <+: t.rest then follow (t.past cs (t.rest.drop cs.length)) else none := by
  induction cs generalizing t with
  | nil => exact absurd rfl nonempty
  | cons c cs ih =>
    have first (follow : Thread → Option α) := first?_single c follow t
    cases next : t.rest with
    | nil =>
      rw [next] at first
      rw [if_neg fun before => List.cons_ne_nil c cs (List.prefix_nil.mp before)]
      cases cs <;> exact first _
    | cons d rest =>
      rw [next] at first
      simp only [List.cons_prefix_cons, List.length_cons, List.drop_succ_cons]
      by_cases same : c = d
      · simp only [if_pos same] at first
        simp only [same, true_and]
        subst same
        cases cs with
        | nil =>
          rw [if_pos List.nil_prefix]
          exact first follow
        | cons c' cs =>
          refine (first _).trans ((ih (List.cons_ne_nil c' cs) _).trans ?_)
          rw [Thread.past_past]
          rfl
      · simp only [if_neg same] at first
        rw [if_neg fun both => same both.1]
        cases cs <;> exact first _

/-! ## Runs -/

theorem runFirst?_of_outside {greedy : Bool}
    (outside : ∀ c ∈ rest.head?, chars.has c.toNat = false) :
    runFirst? chars greedy follow t rest = none := by
  cases rest with
  | nil => rfl
  | cons d rest => rw [runFirst?, if_neg (Bool.eq_false_iff.mp (outside d rfl))]

/-- A greedy run ends where its characters end if what follows succeeds there. -/
theorem first?_run (next : t.rest = cs ++ rest) (nonempty : cs ≠ [])
    (inside : ∀ c ∈ cs, chars.has c.toNat = true)
    (outside : ∀ c ∈ rest.head?, chars.has c.toNat = false)
    (succeeds : follow (t.past cs rest) = some a) :
    (Node.run true chars).first? follow t = some a := by
  rw [Node.first?, next]
  clear next
  induction cs generalizing t with
  | nil => exact absurd rfl nonempty
  | cons c cs ih =>
    rw [List.cons_append, runFirst?, if_pos (inside c List.mem_cons_self)]
    dsimp only
    rw [if_pos rfl]
    cases cs with
    | nil =>
      rw [List.nil_append, runFirst?_of_outside outside, Option.none_or]
      exact succeeds
    | cons c' cs =>
      rw [ih (List.cons_ne_nil c' cs) (fun d member => inside d (List.mem_cons_of_mem c member)) ?_,
        Option.some_or]
      rw [Thread.past_after]
      exact succeeds

/-- A greedy run of any number of characters ends where its characters end if what follows succeeds
there. -/
theorem first?_anyNumber (next : t.rest = cs ++ rest) (inside : ∀ c ∈ cs, chars.has c.toNat = true)
    (outside : ∀ c ∈ rest.head?, chars.has c.toNat = false)
    (succeeds : follow (t.past cs rest) = some a) :
    (Node.anyNumber true (.set chars)).first? follow t = some a := by
  change ((Node.run true chars).first? follow t).or (follow t) = some a
  by_cases nonempty : cs = []
  · subst nonempty
    obtain rfl : t.rest = rest := next
    rw [Node.first?, runFirst?_of_outside outside, Option.none_or]
    exact succeeds
  · rw [first?_run next nonempty inside outside succeeds, Option.some_or]

/-- A greedy run of any number of characters ends where its characters end if what follows refuses
each of them. -/
theorem first?_anyNumber_of_refused (next : t.rest = cs ++ rest)
    (inside : ∀ c ∈ cs, chars.has c.toNat = true)
    (outside : ∀ c ∈ rest.head?, chars.has c.toNat = false)
    (refused : ∀ u : Thread, ∀ c ∈ u.rest.head?, chars.has c.toNat = true → follow u = none) :
    (Node.anyNumber true (.set chars)).first? follow t = follow (t.past cs rest) := by
  change (runFirst? chars true follow t t.rest).or (follow t) = _
  induction cs generalizing t with
  | nil =>
    obtain rfl : t.rest = rest := next
    rw [runFirst?_of_outside outside, Option.none_or, Thread.past_nil]
  | cons c cs ih =>
    obtain ⟨first, inside⟩ := List.forall_mem_cons.mp inside
    have here : follow t = none := refused t c (next ▸ rfl) first
    have later := ih (t := t.after c (cs ++ rest)) rfl inside
    rw [Thread.past_after] at later
    rw [here, Option.or_none, next, List.cons_append, runFirst?, if_pos first, ← later]
    rfl

/-- A reluctant run ends at the first place where what follows succeeds. -/
theorem first?_reluctant (next : t.rest = cs ++ rest)
    (inside : ∀ c ∈ cs, chars.has c.toNat = true)
    (fails : ∀ former latter, cs = former ++ latter → latter ≠ [] →
      follow (t.past former (latter ++ rest)) = none)
    (succeeds : follow (t.past cs rest) = some a) :
    (Node.anyNumber false (.set chars)).first? follow t = some a := by
  change (follow t).or (runFirst? chars false follow t t.rest) = some a
  induction cs generalizing t with
  | nil =>
    obtain rfl : t.rest = rest := next
    rw [← Thread.past_nil t, succeeds, Option.some_or]
  | cons c cs ih =>
    have here : follow t = none := by
      have := fails [] (c :: cs) rfl (List.cons_ne_nil c cs)
      rwa [← next] at this
    rw [here, Option.none_or, next, List.cons_append, runFirst?,
      if_pos (inside c List.mem_cons_self)]
    dsimp only
    rw [if_neg Bool.false_ne_true]
    refine @ih (t.after c (cs ++ rest)) rfl
      (fun d member => inside d (List.mem_cons_of_mem c member))
      (fun former latter split nonempty => ?_) ?_
    · rw [Thread.past_after]
      exact fails (c :: former) latter (congrArg (c :: ·) split) nonempty
    · rw [Thread.past_after]
      exact succeeds

/-! ## Choices -/

/-- Of a choice the first alternative that succeeds is taken. -/
theorem Node.first?_choice {nodes : List Node} (some_node : nodes ≠ []) :
    (Node.choice nodes).first? follow t = nodes.findSome? fun node => node.first? follow t := by
  induction nodes with
  | nil => exact absurd rfl some_node
  | cons first rest ih =>
    cases rest with
    | nil => exact List.findSome?_singleton.symm
    | cons second rest =>
      have later := ih (List.cons_ne_nil second rest)
      rw [List.findSome?_cons, ← later]
      change (first.first? follow t).or _ = _
      cases first.first? follow t <;> rfl

/-- Of a choice between texts that are spelled out the one is taken that the text begins with, if
there is one only. -/
theorem first?_choice_spelled {texts : List (List Char)} (member : cs ∈ texts)
    (nonempty : ∀ text ∈ texts, text ≠ [])
    (alone : ∀ text ∈ texts, text <+: t.rest → text = cs) (next : t.rest = cs ++ rest) :
    (Node.choice (texts.map spelled)).first? follow t = follow (t.past cs rest) := by
  have here : (spelled cs).first? follow t = follow (t.past cs rest) := by
    rw [first?_spelled (nonempty cs member), if_pos (next ▸ List.prefix_append cs rest), next,
      List.drop_left]
  have elsewhere : ∀ text ∈ texts, text ≠ cs → (spelled text).first? follow t = none :=
    fun text among other => by
      rw [first?_spelled (nonempty text among), if_neg (mt (alone text among) other)]
  rw [Node.first?_choice (List.map_eq_nil_iff.not.mpr (List.ne_nil_of_mem member)),
    List.findSome?_map]
  clear alone nonempty
  induction texts with
  | nil => cases member
  | cons text texts ih =>
    obtain ⟨first, later⟩ := List.forall_mem_cons.mp elsewhere
    rw [List.findSome?_cons, Function.comp]
    by_cases same : text = cs
    · rw [same, here]
      cases succeeded : follow (t.past cs rest) with
      | some a => rfl
      | none =>
        refine List.findSome?_eq_none_iff.mpr fun other among => ?_
        by_cases again : other = cs
        · exact again ▸ here.trans succeeded
        · exact later other among again
    · rw [first same]
      exact ih ((List.mem_cons.mp member).resolve_left (Ne.symm same)) later

/-! ## From place to place along a known text -/

section Leads

variable {whole text after : List Char} {i j : Nat}

namespace Node

theorem passes_single_iff : Passes whole (CharSet.single c.toNat) i j ↔
    whole.drop i = c :: whole.drop j ∧ j = i + 1 := by
  constructor
  · rintro ⟨rfl, d, next, same⟩
    obtain ⟨inside, here⟩ := List.getElem?_eq_some_iff.mp next
    exact ⟨by rw [List.drop_eq_getElem_cons inside, here, has_single_iff.mp same], rfl⟩
  · rintro ⟨next, rfl⟩
    exact ⟨rfl, c, by rw [← List.head?_drop, next, List.head?_cons], has_single_iff.mpr rfl⟩

/-- A text that is spelled out leads past itself. -/
theorem leads_spelled_iff : (spelled text).Leads whole i j ↔
    whole.drop i = text ++ whole.drop j ∧ j = i + text.length := by
  induction text generalizing i with
  | nil =>
    refine ⟨fun same => ⟨congrArg whole.drop same, same.symm⟩, fun ⟨_, same⟩ => same.symm⟩
  | cons c text ih =>
    have onward : (spelled (c :: text)).Leads whole i j ↔
        ∃ k, Passes whole (CharSet.single c.toNat) i k ∧ (spelled text).Leads whole k j := by
      cases text with
      | nil => exact ⟨fun passes => ⟨j, passes, rfl⟩, fun ⟨_, passes, same⟩ => same ▸ passes⟩
      | cons d text => exact Iff.rfl
    rw [onward, List.cons_append, List.length_cons]
    constructor
    · rintro ⟨k, passes, leads⟩
      obtain ⟨next, rfl⟩ := passes_single_iff.mp passes
      obtain ⟨goesOn, rfl⟩ := ih.mp leads
      exact ⟨by rw [next, goesOn], by omega⟩
    · rintro ⟨next, rfl⟩
      have after : whole.drop (i + 1) = text ++ whole.drop (i + (text.length + 1)) := by
        rw [← List.tail_drop, next, List.tail_cons]
      refine ⟨i + 1, passes_single_iff.mpr ⟨by rw [next, after], rfl⟩, ih.mpr ⟨?_, by omega⟩⟩
      exact after

/-- A set leads any number of times past characters that belong to it. -/
theorem leads_anyNumber_iff : (anyNumber true (.set chars)).Leads whole i j ↔
    ∃ text, whole.drop i = text ++ whole.drop j ∧ j = i + text.length ∧
      ∀ c ∈ text, chars.has c.toNat = true := by
  have steps : (anyNumber true (.set chars)).Leads whole i j ↔
      Relation.ReflTransGen (Passes whole chars) i j := by
    rw [Relation.reflTransGen_iff_eq_or_transGen, or_comm, eq_comm]
    exact Iff.rfl
  rw [steps]
  clear steps
  constructor
  · intro leads
    induction leads using Relation.ReflTransGen.head_induction_on with
    | refl => exact ⟨[], rfl, rfl, nofun⟩
    | head passes _ ih =>
      obtain ⟨rfl, c, next, inside⟩ := passes
      obtain ⟨text, goesOn, rfl, all⟩ := ih
      obtain ⟨here, same⟩ := List.getElem?_eq_some_iff.mp next
      refine ⟨c :: text, ?_, ?_, List.forall_mem_cons.mpr ⟨inside, all⟩⟩
      · rw [List.drop_eq_getElem_cons here, same, goesOn, List.cons_append]
      · rw [List.length_cons]
        omega
  · rintro ⟨text, next, rfl, all⟩
    induction text generalizing i with
    | nil => exact .refl
    | cons c text ih =>
      obtain ⟨inside, all⟩ := List.forall_mem_cons.mp all
      have here : whole[i]? = some c := by rw [← List.head?_drop, next]; rfl
      have length : i + (c :: text).length = i + 1 + text.length := by
        rw [List.length_cons]
        omega
      refine .head ⟨rfl, c, here, inside⟩ (length ▸ ih all ?_)
      rw [← List.tail_drop, next, length]
      rfl

end Node

theorem drop_add_of_drop (next : whole.drop i = text ++ after) :
    whole.drop (i + text.length) = after := by
  rw [← List.drop_drop, next, List.drop_left]

/-- After a text that ends a word there is a boundary unless the word goes on. -/
theorem holds_wordBoundary (next : whole.drop i = text ++ after) (last : text.getLast? = some c)
    (inWord : isWordChar false (some c) = true) :
    (Look.boundary .word false).holds (place whole (i + text.length)) =
      !isWordChar false after.head? := by
  have behind : (place whole (i + text.length)).before = some c := by
    have passed : (whole.drop i).take text.length = text := by rw [next, List.take_left]
    change (whole.take (i + text.length)).getLast? = some c
    rw [List.take_add, passed, List.getLast?_append, last, Option.some_or]
  have ahead : (place whole (i + text.length)).rest = after := drop_add_of_drop next
  rw [Look.holds, Boundary.holds, behind, ahead, inWord]
  exact Bool.true_xor _

end Leads

/-! ## Matches and what they capture -/

namespace Thread

variable {whole : List Char}

theorem At.past (here : t.At whole) (next : t.rest = cs ++ rest) : (t.past cs rest).At whole := by
  induction cs generalizing t with
  | nil =>
    obtain rfl : t.rest = rest := next
    exact here
  | cons c cs ih => exact t.past_after c cs rest (cs ++ rest) ▸ ih (here.after next) rfl

/-- The place after some characters that are the text of a group, given what follows them. -/
def capture (t : Thread) (group : Nat) (cs rest : List Char) : Thread :=
  (t.enter.past cs rest).leave group

/-- Whether a thread is at a place of a text and remembers some texts of groups, by their numbers,
and no others. -/
structure Recalls (whole : List Char) (t : Thread) (texts : List (Nat × List Char)) : Prop where
  inText : t.At whole
  captured : ∀ group, (t.groups.lookup group).map (·.slice whole) = texts.lookup group

namespace Recalls

variable {texts : List (Nat × List Char)}

theorem start (whole : List Char) :
    Recalls whole { index := 0, before := none, rest := whole } [] :=
  ⟨⟨Nat.zero_le _, rfl, rfl⟩, fun _ => rfl⟩

theorem past (recalls : Recalls whole t texts) (cs : List Char) (next : t.rest = cs ++ rest) :
    Recalls whole (t.past cs rest) texts :=
  ⟨recalls.inText.past next, recalls.captured⟩

/-- What has been passed inside of a group is its text. -/
theorem capture (recalls : Recalls whole t texts) (group : Nat) (next : t.rest = cs ++ rest) :
    Recalls whole (t.capture group cs rest) ((group, cs) :: texts) where
  inText := (recalls.inText.enter.past next).leave group
  captured other := by
    have slice : Span.slice ⟨t.index, t.index + cs.length⟩ whole = cs := by
      rw [Span.slice, ← recalls.inText.rest, next, Nat.add_sub_cancel_left, List.take_left]
    have remembered : (t.capture group cs rest).groups =
        (group, ⟨t.index, t.index + cs.length⟩) :: t.groups := rfl
    rw [remembered, List.lookup_cons, List.lookup_cons, ← recalls.captured other]
    cases other == group with
    | true => exact congrArg some slice
    | false => rfl

end Recalls

end Thread

theorem Thread.At.eq_place {index : Nat} {before : Option Char}
    (here : Thread.At cs { index, before, rest }) : { index, before, rest } = place cs index := by
  rw [place, ← here.before, ← here.rest]

/-- The first match that backtracking comes to, from a place on. -/
def Node.firstFrom? (node : Node) (index : Nat) (before : Option Char) :
    List Char → Option Match
  | [] => (node.first? some { index, before, rest := [] }).map (Match.ofEnd index)
  | c :: rest =>
    match node.first? some { index, before, rest := c :: rest } with
    | some t => some (Match.ofEnd index t)
    | none => firstFrom? node (index + 1) (some c) rest

/-- The search by preference finds the match that backtracking comes to first. -/
theorem Node.findFrom_eq_firstFrom? {node : Node} (advances : node.loopsAdvance = true)
    {index : Nat} {before : Option Char} (here : Thread.At cs { index, before, rest }) :
    node.findFrom index before rest = node.firstFrom? index before rest := by
  induction rest generalizing index before with
  | nil => rw [findFrom, firstFrom?, head?_ends advances here]
  | cons c rest ih =>
    have first := head?_ends advances here
    rw [findFrom, firstFrom?, ← first, ih (here.after rfl)]
    cases node.ends [{ index, before, rest := c :: rest }] <;> rfl

theorem Node.findByPreference_eq_firstFrom? {node : Node} (advances : node.loopsAdvance = true)
    (cs : List Char) : node.findByPreference cs = node.firstFrom? 0 none cs := by
  have start : Thread.At cs { index := 0, before := none, rest := cs } :=
    ⟨Nat.zero_le _, rfl, rfl⟩
  exact findFrom_eq_firstFrom? advances start

/-- A match is what backtracking finds at its start. -/
theorem Node.first?_of_findFrom {node : Node} (advances : node.loopsAdvance = true) {index : Nat}
    {before : Option Char} (here : Thread.At cs { index, before, rest }) {m : Match}
    (found : node.findFrom index before rest = some m) :
    ∃ t, node.first? some (place cs m.span.start) = some t ∧ m = Match.ofEnd m.span.start t := by
  rw [findFrom_eq_firstFrom? advances here] at found
  induction rest generalizing index before with
  | nil =>
    rw [firstFrom?, here.eq_place, Option.map_eq_some_iff] at found
    obtain ⟨t, first, rfl⟩ := found
    exact ⟨t, first, rfl⟩
  | cons c rest ih =>
    rw [firstFrom?] at found
    split at found
    · rename_i t first
      obtain rfl := Option.some.inj found
      rw [here.eq_place] at first
      exact ⟨t, first, rfl⟩
    · exact ih (here.after rfl) found

/-- The match in a text, if backtracking succeeds at its start. -/
theorem Node.find_of_first? {node : Node} (advances : node.loopsAdvance = true)
    (easy : node.effort false ≤ maxEffort)
    (found : node.first? some { index := 0, before := none, rest := cs } = some t) :
    node.find cs = some (Match.ofEnd 0 t) := by
  rw [find, if_pos (by rw [advances, decide_eq_true easy]; rfl),
    findByPreference_eq_firstFrom? advances]
  cases cs <;> rw [firstFrom?, found]
  rfl

end LintRun.Regex
