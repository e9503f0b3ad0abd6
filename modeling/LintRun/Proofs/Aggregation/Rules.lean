import Mathlib.Data.Fintype.EquivFin
import LintRun.Proofs.Aggregation.Columns

/-!
# The rule that decides

An issue is compared with others by the first merge rule about its linter, and by place and message
when there is none (`ruleOf?`). Two issues have one key exactly when the same rule decides about
both of them and they agree on what it asks for (`keyOf_eq_iff_of_rule`), or when no rule is about
either of them and they are alike in place and message (`keyOf_eq_iff_of_none`).

So a rule that two linters share does not merge their issues when an earlier rule is about one of
the two: what counts is that the first rule about the one is the first about the other
(`apply_shared_rule`, `shared_second_rule`). And issues that are alike stay apart when different
rules decide about them. After an aggregation these are the only issues that are alike and have no
linter in common, and there are such issues as soon as any rule is about any linter, because then
some other linter is in no rule (`apply_alike`, `alike_unmerged`).
-/

set_option autoImplicit false

namespace LintRun

/-- Whether two issues agree on what is asked for. -/
def MergeKey.Agree (key : MergeKey) (a b : Issue) : Prop :=
  a.path = b.path ∧ a.line = b.line ∧
    (key = .pathLineMessage → normalizeMessage a.message = normalizeMessage b.message)

/-- Whether two issues have one place and, up to case and white space, one message. -/
def Issue.Alike (a b : Issue) : Prop :=
  a.path = b.path ∧ a.line = b.line ∧ a.col = b.col ∧
    normalizeMessage a.message = normalizeMessage b.message

theorem Issue.Alike.agree {a b : Issue} (alike : a.Alike b) (key : MergeKey) : key.Agree a b :=
  ⟨alike.1, alike.2.1, fun _ => alike.2.2.2⟩

theorem MergeKey.Agree.symm {key : MergeKey} {a b : Issue} (agree : key.Agree a b) :
    key.Agree b a :=
  ⟨agree.1.symm, agree.2.1.symm, fun byMessage => (agree.2.2 byMessage).symm⟩

namespace Aggregation

/-- The number of the first rule about a linter, if there is one. -/
def ruleOf? (rules : List MergeRule) (linter : String) : Option Nat :=
  rules.findIdx? (·.linters.contains linter)

/-- Whether the first rule about the linter of one issue is also the first about that of the other,
and they agree on what it asks for. -/
def OneRule (rules : List MergeRule) (a b : Issue) : Prop :=
  ∃ (number : Nat) (rule : MergeRule), rules[number]? = some rule ∧
    ruleOf? rules a.linter = some number ∧ ruleOf? rules b.linter = some number ∧
    rule.key.Agree a b

variable {rules : List MergeRule} {number : Nat} {rule : MergeRule} {a b : Issue}
  {linter : String}

/-! ## The first rule about a linter -/

theorem ruleOf?_eq_some_iff : ruleOf? rules linter = some number ↔
    (∃ rule, rules[number]? = some rule ∧ linter ∈ rule.linters) ∧
      ∀ (earlier : Nat) (other : MergeRule), earlier < number → rules[earlier]? = some other →
        linter ∉ other.linters := by
  rw [ruleOf?, List.findIdx?_eq_some_iff_getElem]
  constructor
  · rintro ⟨inside, about, first⟩
    refine ⟨⟨rules[number], List.getElem?_eq_getElem inside, (NameSet.contains_iff _ _).mp about⟩,
      fun earlier other less here member => ?_⟩
    obtain ⟨_, rfl⟩ := List.getElem?_eq_some_iff.mp here
    exact first earlier less ((NameSet.contains_iff _ _).mpr member)
  · rintro ⟨⟨rule, here, about⟩, first⟩
    obtain ⟨inside, rfl⟩ := List.getElem?_eq_some_iff.mp here
    refine ⟨inside, (NameSet.contains_iff _ _).mpr about, fun earlier less member => ?_⟩
    exact first earlier _ less (List.getElem?_eq_getElem (Nat.lt_trans less inside))
      ((NameSet.contains_iff _ _).mp member)

theorem ruleOf?_eq_none_iff :
    ruleOf? rules linter = none ↔ ∀ rule ∈ rules, linter ∉ rule.linters := by
  simp only [ruleOf?, List.findIdx?_eq_none_iff, Bool.eq_false_iff, ne_eq, NameSet.contains_iff]

/-- A linter that a rule is about has a first rule about it. -/
theorem exists_ruleOf? (here : rules[number]? = some rule) (about : linter ∈ rule.linters) :
    ∃ first, ruleOf? rules linter = some first := by
  cases found : ruleOf? rules linter with
  | some first => exact ⟨first, rfl⟩
  | none => exact absurd about (ruleOf?_eq_none_iff.mp found rule (List.mem_of_getElem? here))

theorem exists_rule_of_ruleOf? (found : ruleOf? rules linter = some number) :
    ∃ rule, rules[number]? = some rule := by
  obtain ⟨⟨rule, here, -⟩, -⟩ := ruleOf?_eq_some_iff.mp found
  exact ⟨rule, here⟩

/-! ## When two issues have one key -/

/-- The message of an issue if it is asked for. -/
def askedMessage (key : MergeKey) (issue : Issue) : Option String :=
  match key with
  | .pathLine => none
  | .pathLineMessage => some (normalizeMessage issue.message)

theorem keyOf_of_rule (found : ruleOf? rules a.linter = some number)
    (here : rules[number]? = some rule) :
    keyOf rules a = .rule number a.path a.line (askedMessage rule.key a) := by
  rw [ruleOf?] at found
  simp only [keyOf, found, here, Option.map_some, Option.getD_some]
  cases rule.key <;> rfl

theorem keyOf_of_none (unruled : ruleOf? rules a.linter = none) :
    keyOf rules a = .exact a.path a.line a.col (normalizeMessage a.message) := by
  rw [ruleOf?] at unruled
  simp only [keyOf, unruled]

theorem keyOf_eq_iff_of_rule (found : ruleOf? rules a.linter = some number)
    (here : rules[number]? = some rule) :
    keyOf rules a = keyOf rules b ↔
      ruleOf? rules b.linter = some number ∧ rule.key.Agree a b := by
  rw [keyOf_of_rule found here]
  cases found' : ruleOf? rules b.linter with
  | none =>
    rw [keyOf_of_none found']
    simp
  | some number' =>
    obtain ⟨rule', here'⟩ := exists_rule_of_ruleOf? found'
    rw [keyOf_of_rule found' here', Option.some.injEq]
    by_cases same : number' = number
    · subst same
      obtain rfl : rule = rule' := Option.some.inj (here.symm.trans here')
      cases asked : rule.key <;> simp [MergeKey.Agree, askedMessage]
    · have other : ¬ number = number' := fun equal => same equal.symm
      simp [same, other]

theorem keyOf_eq_iff_of_none (unruled : ruleOf? rules a.linter = none) :
    keyOf rules a = keyOf rules b ↔ ruleOf? rules b.linter = none ∧ a.Alike b := by
  rw [keyOf_of_none unruled]
  cases found' : ruleOf? rules b.linter with
  | none =>
    rw [keyOf_of_none found']
    simp [Issue.Alike]
  | some number' =>
    obtain ⟨rule', here'⟩ := exists_rule_of_ruleOf? found'
    rw [keyOf_of_rule found' here']
    simp

/-- Issues that are alike have one key exactly when the same rule, or none, decides about them. -/
theorem keyOf_eq_iff_of_alike (alike : a.Alike b) :
    keyOf rules a = keyOf rules b ↔ ruleOf? rules a.linter = ruleOf? rules b.linter := by
  cases found : ruleOf? rules a.linter with
  | none =>
    rw [keyOf_eq_iff_of_none found]
    exact ⟨fun both => both.1.symm, fun same => ⟨same.symm, alike⟩⟩
  | some number =>
    obtain ⟨rule, here⟩ := exists_rule_of_ruleOf? found
    rw [keyOf_eq_iff_of_rule found here]
    exact ⟨fun both => both.1.symm, fun same => ⟨same.symm, alike.agree rule.key⟩⟩

/-- If some rule is about the linter of an issue, it has the key of another one exactly when one
rule decides about both. -/
theorem keyOf_eq_iff_oneRule (here : rules[number]? = some rule)
    (about : a.linter ∈ rule.linters) : keyOf rules a = keyOf rules b ↔ OneRule rules a b := by
  obtain ⟨first, found⟩ := exists_ruleOf? here about
  obtain ⟨decides, at_first⟩ := exists_rule_of_ruleOf? found
  rw [keyOf_eq_iff_of_rule found at_first]
  constructor
  · rintro ⟨found', agree⟩
    exact ⟨first, decides, at_first, found, found', agree⟩
  · rintro ⟨first', decides', at_first', foundA, foundB, agree⟩
    obtain rfl : first = first' := Option.some.inj (found.symm.trans foundA)
    obtain rfl : decides = decides' := Option.some.inj (at_first.symm.trans at_first')
    exact ⟨foundB, agree⟩

/-! ## Raw issues of two linters -/

theorem sharesLinter_eq_false (rawA : a.contributors = ∅) (rawB : b.contributors = ∅)
    (differ : a.linter ≠ b.linter) : a.sharesLinter b = false := by
  rw [Bool.eq_false_iff, Ne, Issue.sharesLinter_iff, Issue.linters_of_raw rawA,
    Issue.linters_of_raw rawB]
  rintro ⟨name, ofA, ofB⟩
  exact differ ((List.mem_singleton.mp ofA).symm.trans (List.mem_singleton.mp ofB))

/-- Raw issues of two linters with one key are merged into one that names both, in either
order. -/
theorem apply_pair_merged (rawA : a.contributors = ∅) (rawB : b.contributors = ∅)
    (differ : a.linter ≠ b.linter) (same : keyOf rules a = keyOf rules b) :
    ∃ merged, apply rules true [a, b] = [merged] ∧ apply rules true [b, a] = [merged] ∧
      merged.linters = (NameSet.ofList [a.linter, b.linter]).names := by
  have apart := sharesLinter_eq_false rawA rawB differ
  have apart' := sharesLinter_eq_false rawB rawA differ.symm
  let pair : IssueGroup := { key := keyOf rules a, first := a, rest := [b] }
  let swapped : IssueGroup := { key := keyOf rules b, first := b, rest := [a] }
  have perm : pair.members.Perm swapped.members := .swap b a []
  have distinct : (pair.members.map (·.linter)).Nodup := by
    simpa [pair, IssueGroup.members] using differ
  refine ⟨pair.collapse, ?_, ?_, ?_⟩
  · exact (merge_pair rules a b).trans (if_pos ⟨same, apart⟩)
  · have reversed := (merge_pair rules b a).trans (if_pos ⟨same.symm, apart'⟩)
    exact reversed.trans (congrArg (fun merged => [merged])
      (IssueGroup.collapse_congr perm distinct).symm)
  · have names : pair.contributors = .ofList [a.linter, b.linter] := by
      rw [IssueGroup.contributors, IssueGroup.members, List.flatMap_cons, List.flatMap_singleton,
        Issue.linters_of_raw rawA, Issue.linters_of_raw rawB]
      rfl
    have named : a.linter ∈ pair.contributors := by
      rw [names, NameSet.mem_ofList]
      exact List.mem_cons_self
    have nonempty : ¬ pair.contributors.isEmpty = true := by
      intro empty
      rw [(NameSet.isEmpty_iff _).mp empty] at named
      exact NameSet.not_mem_empty _ named
    rw [IssueGroup.collapse_of_several (List.cons_ne_nil b []), ← names]
    exact if_neg nonempty

theorem apply_pair_unmerged (different : keyOf rules a ≠ keyOf rules b) :
    apply rules true [a, b] = [a, b] :=
  (merge_pair rules a b).trans (if_neg fun both => different both.1)

/-- **Linters that share a rule are merged by the first rule about them.** Two issues that agree on
what a shared rule asks for become one issue that names both linters, in either order, exactly when
one rule is the first about both linters and they agree on what that one asks for; otherwise both
are left as they are. The shared rule is the one that decides if no earlier rule is about either
linter. -/
theorem apply_shared_rule (rawA : a.contributors = ∅) (rawB : b.contributors = ∅)
    (differ : a.linter ≠ b.linter) (shared : rules[number]? = some rule)
    (aboutA : a.linter ∈ rule.linters) (aboutB : b.linter ∈ rule.linters)
    (agree : rule.key.Agree a b) :
    ((∃ merged, apply rules true [a, b] = [merged] ∧ apply rules true [b, a] = [merged] ∧
        merged.linters = (NameSet.ofList [a.linter, b.linter]).names) ↔ OneRule rules a b) ∧
      (¬ OneRule rules a b →
        apply rules true [a, b] = [a, b] ∧ apply rules true [b, a] = [b, a]) ∧
      ((∀ (earlier : Nat) (other : MergeRule), earlier < number → rules[earlier]? = some other →
        a.linter ∉ other.linters ∧ b.linter ∉ other.linters) → OneRule rules a b) := by
  have sameKey_iff : keyOf rules a = keyOf rules b ↔ OneRule rules a b :=
    keyOf_eq_iff_oneRule shared aboutA
  refine ⟨⟨?_, fun one => apply_pair_merged rawA rawB differ (sameKey_iff.mpr one)⟩,
    fun apart => ?_, fun first => ?_⟩
  · rintro ⟨merged, result, -, -⟩
    by_contra apart
    rw [apply_pair_unmerged fun same => apart (sameKey_iff.mp same)] at result
    cases result
  · have different : keyOf rules a ≠ keyOf rules b := fun same => apart (sameKey_iff.mp same)
    exact ⟨apply_pair_unmerged different, apply_pair_unmerged different.symm⟩
  · refine ⟨number, rule, shared, ?_, ?_, agree⟩
    · exact ruleOf?_eq_some_iff.mpr
        ⟨⟨rule, shared, aboutA⟩, fun earlier other less here => (first earlier other less here).1⟩
    · exact ruleOf?_eq_some_iff.mpr
        ⟨⟨rule, shared, aboutB⟩, fun earlier other less here => (first earlier other less here).2⟩

/-! ### A linter in two rules -/

namespace TwoRules

def deadAndVet : MergeRule :=
  ⟨.ofList ["dead", "vet"], .pathLine⟩

def deadAndSpell : MergeRule :=
  ⟨.ofList ["dead", "spell"], .pathLineMessage⟩

def spellAndVet : MergeRule :=
  ⟨.ofList ["spell", "vet"], .pathLine⟩

/-- What a linter has found in the first line of a file. -/
def found (linter message : String) : Issue :=
  { linter, path := "f", line := 1, message }

/-- The registry with two rules, of which the first one is about one linter of the second. -/
def registry : Registry :=
  (Registry.empty.addMergeRule deadAndVet).addMergeRule deadAndSpell

end TwoRules

open TwoRules in
/-- Both linters are in two rules, and the one that they share comes first. -/
theorem apply_shared_first_rule :
    ∃ merged,
      apply [deadAndSpell, deadAndVet, spellAndVet] true
        [found "dead" "Unused  x", found "spell" "unused x"] = [merged] ∧
      apply [deadAndSpell, deadAndVet, spellAndVet] true
        [found "spell" "unused x", found "dead" "Unused  x"] = [merged] ∧
      merged.linters = ["dead", "spell"] := by
  obtain ⟨merges_iff, -, first⟩ :=
    @apply_shared_rule [deadAndSpell, deadAndVet, spellAndVet] 0 deadAndSpell
      (found "dead" "Unused  x") (found "spell" "unused x") rfl rfl (by decide) rfl (by decide)
      (by decide) ⟨rfl, rfl, fun _ => by decide +kernel⟩
  exact merges_iff.mpr (first fun earlier _ less _ => absurd less (Nat.not_lt_zero earlier))

open TwoRules in
/-- An earlier rule is about one of the two linters that share a rule, and keeps them apart. -/
theorem shared_second_rule :
    let dead := found "dead" "x"
    let spell := found "spell" "x"
    dead.contributors = ∅ ∧ spell.contributors = ∅ ∧ dead.linter ≠ spell.linter ∧
      deadAndSpell ∈ registry.mergeRules ∧ dead.linter ∈ deadAndSpell.linters ∧
      spell.linter ∈ deadAndSpell.linters ∧ deadAndSpell.key.Agree dead spell ∧
      ¬ ∃ merged, apply registry.mergeRules true [dead, spell] = [merged] := by
  refine ⟨rfl, rfl, by decide, by decide, by decide, by decide, ⟨rfl, rfl, fun _ => rfl⟩, ?_⟩
  rintro ⟨merged, result⟩
  have two : apply registry.mergeRules true [found "dead" "x", found "spell" "x"] =
      [found "dead" "x", found "spell" "x"] := by decide
  rw [two] at result
  cases result

/-! ## Issues that are alike -/

theorem exists_unruled (rules : List MergeRule) : ∃ linter, ruleOf? rules linter = none := by
  have infinite : Infinite String :=
    .of_injective String.ofList fun _ _ same => String.ofList_injective same
  obtain ⟨linter, fresh⟩ :=
    Infinite.exists_notMem_finset (rules.flatMap (·.linters.names)).toFinset
  refine ⟨linter, ruleOf?_eq_none_iff.mpr fun rule member about => fresh ?_⟩
  exact List.mem_toFinset.mpr (List.mem_flatMap.mpr ⟨rule, member, about⟩)

theorem ruleOf?_eq_none_of_empty (empty : ∀ rule ∈ rules, rule.linters = ∅) (linter : String) :
    ruleOf? rules linter = none := by
  refine ruleOf?_eq_none_iff.mpr fun rule member about => ?_
  rw [empty rule member] at about
  exact NameSet.not_mem_empty _ about

/-- After an aggregation, issues that are alike have a linter in common or different rules. -/
theorem apply_alike_ruled (rules : List MergeRule) (issues : List Issue) :
    (apply rules true issues).Pairwise fun a b => a.Alike b →
      (∀ name ∈ a.linters, name ∉ b.linters) → ruleOf? rules a.linter ≠ ruleOf? rules b.linter := by
  refine (merge_overlapping rules issues).imp fun {a b} shares alike apart same => ?_
  obtain ⟨name, ofA, ofB⟩ :=
    Issue.sharesLinter_iff.mp (shares ((keyOf_eq_iff_of_alike alike).mpr same))
  exact apart name ofA ofB

/-- **Issues that are alike are merged unless different rules decide about them.** After an
aggregation, issues that are alike and have no linter in common are under different rules, or only
one of them is under a rule; and two raw issues that are alike are merged exactly when the same
rule, or none, is about both linters. So no issues that are alike are left in any case exactly when
no rule is about any linter. -/
theorem apply_alike (rules : List MergeRule) :
    (∀ issues, (apply rules true issues).Pairwise fun a b => a.Alike b →
      (∀ name ∈ a.linters, name ∉ b.linters) →
        ruleOf? rules a.linter ≠ ruleOf? rules b.linter) ∧
      (∀ a b : Issue, a.contributors = ∅ → b.contributors = ∅ → a.linter ≠ b.linter → a.Alike b →
        ((∃ merged, apply rules true [a, b] = [merged]) ↔
          ruleOf? rules a.linter = ruleOf? rules b.linter)) ∧
      ((∀ issues, (apply rules true issues).Pairwise fun a b => a.Alike b →
        ∃ name ∈ a.linters, name ∈ b.linters) ↔ ∀ rule ∈ rules, rule.linters = ∅) := by
  have pairs : ∀ a b : Issue, a.contributors = ∅ → b.contributors = ∅ → a.linter ≠ b.linter →
      a.Alike b → ((∃ merged, apply rules true [a, b] = [merged]) ↔
        ruleOf? rules a.linter = ruleOf? rules b.linter) := by
    intro a b rawA rawB differ alike
    rw [← keyOf_eq_iff_of_alike alike]
    constructor
    · rintro ⟨merged, result⟩
      by_contra different
      rw [apply_pair_unmerged different] at result
      cases result
    · intro same
      obtain ⟨merged, result, -, -⟩ := apply_pair_merged rawA rawB differ same
      exact ⟨merged, result⟩
  refine ⟨apply_alike_ruled rules, pairs, fun none_left rule member => ?_, fun empty issues => ?_⟩
  -- A linter of a rule and one of no rule report the same thing.
  · refine NameSet.ext fun ruled => iff_of_false (fun about => ?_) (NameSet.not_mem_empty ruled)
    obtain ⟨number, here⟩ := List.getElem?_of_mem member
    obtain ⟨first, found⟩ := exists_ruleOf? here about
    obtain ⟨unruled, unfound⟩ := exists_unruled rules
    let a : Issue := { linter := ruled, path := "f" }
    let b : Issue := { linter := unruled, path := "f" }
    have alike : a.Alike b := ⟨rfl, rfl, rfl, rfl⟩
    have different : keyOf rules a ≠ keyOf rules b := fun same =>
      Option.some_ne_none first
        (found.symm.trans (((keyOf_eq_iff_of_alike alike).mp same).trans unfound))
    have left := none_left [a, b]
    rw [apply_pair_unmerged different, List.pairwise_pair] at left
    obtain ⟨name, ofA, ofB⟩ := left alike
    rw [Issue.linters_of_raw rfl, List.mem_singleton] at ofA ofB
    have same : ruled = unruled := ofA.symm.trans ofB
    rw [same] at found
    exact Option.some_ne_none first (found.symm.trans unfound)
  · refine (apply_alike_ruled rules issues).imp fun {a b} apart alike => ?_
    by_contra none_shared
    refine apart alike (fun name ofA ofB => none_shared ⟨name, ofA, ofB⟩) ?_
    rw [ruleOf?_eq_none_of_empty empty, ruleOf?_eq_none_of_empty empty]

open TwoRules in
/-- Of two linters that report the same thing, only one is in a rule. -/
theorem alike_unmerged :
    ∃ a ∈ apply [deadAndVet] true [found "dead" "x", found "spell" "x"],
      ∃ b ∈ apply [deadAndVet] true [found "dead" "x", found "spell" "x"],
        a ≠ b ∧ a.Alike b ∧ ∀ name ∈ a.linters, name ∉ b.linters := by
  have two : apply [deadAndVet] true [found "dead" "x", found "spell" "x"] =
      [found "dead" "x", found "spell" "x"] := by decide
  rw [two]
  exact ⟨_, List.mem_cons_self, _, List.mem_cons_of_mem _ List.mem_cons_self, by decide,
    ⟨rfl, rfl, rfl, rfl⟩, by decide⟩

end Aggregation

end LintRun
