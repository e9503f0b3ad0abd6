import LintRun.Proofs.Registry.Reachable
import LintRun.Selection

/-!
# What a selection excludes

A selection excludes the linters that it disables and, for a fast run, those that are not fast. It
is resolved in stages: what is left of the linters to start from when the excluded ones are gone
is **kept** (`mem_kept`), and then the rules of the registry replace some of the kept linters by
others (`mem_substitute`).

The replacing comes last and pays no attention to the exclusions. So a resolved selection honours
them exactly when no rule applies whose replacement is itself excluded (`resolve_exclusions`).
-/

set_option autoImplicit false

namespace LintRun.LinterSelection

variable {s : LinterSelection} {r : Registry} {name : String}

/-! ## Kept linters -/

/-- Whether a selection does not exclude a linter: it does not disable it, and the linter is fast
if only fast ones are wanted. -/
def Admits (s : LinterSelection) (r : Registry) (name : String) : Prop :=
  name ∉ s.disable ∧ (s.fast = true → ∃ d, r.get? name = some d ∧ d.fast = true)

theorem mem_kept : name ∈ s.kept r ↔ name ∈ s.start r ∧ s.Admits r name := by
  rw [kept, Admits]
  cases s.fast with
  | false => simp
  | true =>
    have fast_iff : (r.get? name).any (·.fast) = true ↔
        ∃ d, r.get? name = some d ∧ d.fast = true := Option.any_eq_true ..
    simp only [if_true, NameSet.mem_filter, fast_iff, and_assoc]
    simp

/-- A selection that names known linters alone starts from known linters. -/
theorem contains_of_mem_start (named : r.WellNamed)
    (known : ∀ name ∈ s.enable, r.contains name = true) (member : name ∈ s.start r) :
    r.contains name = true := by
  rw [start] at member
  split at member
  · exact (Dict.mem_nameSet r.linters name).mp member
  · split at member
    · exact known name ((NameSet.mem_ofList name s.enable).mp member)
    · rw [NameSet.mem_ofList, List.mem_map] at member
      obtain ⟨d, byDefault, rfl⟩ := member
      obtain ⟨e, inEntries, rfl⟩ := List.mem_map.mp (List.mem_filter.mp byDefault).1
      have held : r.get? e.1 = some e.2 := Dict.get?_of_mem inEntries
      rw [named e.1 e.2 held, Registry.contains, Dict.contains]
      exact Option.isSome_of_eq_some held

theorem unknown_isEmpty_iff :
    (s.unknown r).isEmpty = true ↔ ∀ name ∈ s.enable ++ s.disable, r.contains name = true := by
  rw [NameSet.isEmpty_iff]
  constructor
  · intro empty name member
    have absent : name ∉ s.unknown r := empty ▸ NameSet.not_mem_empty name
    rw [unknown, NameSet.mem_ofList, List.mem_filter] at absent
    simpa [member] using absent
  · intro known
    refine NameSet.ext fun name => iff_of_false (fun member => ?_) (NameSet.not_mem_empty name)
    rw [unknown, NameSet.mem_ofList, List.mem_filter] at member
    simp [known name member.1] at member

/-- A selection is resolved when it names known linters alone. -/
theorem resolve_eq_ok_iff {selected : Selected} : s.resolve r = .ok selected ↔
    (∀ name ∈ s.enable ++ s.disable, r.contains name = true) ∧
      selected = r.substitutions.foldl (s.substitute r) { linters := s.kept r } := by
  rw [resolve, ← unknown_isEmpty_iff]
  split
  · rename_i known
    simp [known, eq_comm]
  · rename_i unknown
    simp [unknown]

/-! ## Replaced linters -/

/-- Whether a rule replaces linters: its replacement is known, and the linters that it replaces
are all there. -/
def Applies (r : Registry) (linters : NameSet) (rule : SubstitutionRule) : Prop :=
  r.contains rule.replacement = true ∧ ∀ name ∈ rule.replaces, name ∈ linters

theorem mem_substitute (now : Selected) (rule : SubstitutionRule) :
    name ∈ (s.substitute r now rule).linters ↔
      (name ∈ now.linters ∧ (Applies r now.linters rule → name ∉ rule.replaces)) ∨
        Applies r now.linters rule ∧ name = rule.replacement := by
  have applies_iff : (r.contains rule.replacement && rule.replaces.isSubsetOf now.linters) = true ↔
      Applies r now.linters rule := by
    rw [Bool.and_eq_true, NameSet.isSubsetOf_iff, Applies]
  rw [substitute]
  split
  · rename_i holds
    have applies := applies_iff.mp holds
    have not_contains : (!rule.replaces.contains name) = true ↔ name ∉ rule.replaces := by
      rw [Bool.not_eq_true', ← Bool.not_eq_true, NameSet.contains_iff]
    rw [NameSet.mem_insert, NameSet.mem_filter, not_contains, or_comm]
    simp only [applies, true_and, true_implies]
  · rename_i fails
    have idle : ¬ Applies r now.linters rule := fun applies => fails (applies_iff.mpr applies)
    simp only [idle, false_and, or_false, false_implies, and_true]

/-- A linter is selected when it is kept and not replaced, or when it replaces others. As there is
one rule at most, the rule finds the linters as they are kept. -/
theorem mem_resolve [Regex.SizeRule] (reachable : r.Reachable) {selected : Selected}
    (resolved : s.resolve r = .ok selected) :
    name ∈ selected.linters ↔
      (name ∈ s.kept r ∧
        ∀ rule ∈ r.substitutions, Applies r (s.kept r) rule → name ∉ rule.replaces) ∨
      ∃ rule ∈ r.substitutions, Applies r (s.kept r) rule ∧ name = rule.replacement := by
  obtain ⟨-, rfl⟩ := resolve_eq_ok_iff.mp resolved
  rcases reachable.substitutions with noRule | oneRule
  · simp [noRule]
  · simp only [oneRule, Catalog.substitutions, List.foldl_cons, List.foldl_nil, mem_substitute,
      List.mem_singleton, forall_eq, exists_eq_left]

/-- The linters that are selected are known. -/
theorem contains_of_mem_resolve [Regex.SizeRule] (reachable : r.Reachable) {selected : Selected}
    (resolved : s.resolve r = .ok selected) (member : name ∈ selected.linters) :
    r.contains name = true := by
  rcases (mem_resolve reachable resolved).mp member with ⟨kept, -⟩ | ⟨rule, -, applies, rfl⟩
  · obtain ⟨known, -⟩ := resolve_eq_ok_iff.mp resolved
    refine contains_of_mem_start reachable.wellNamed (fun name named => ?_) (mem_kept.mp kept).1
    exact known name (List.mem_append_left _ named)
  · exact applies.1

/-! ## Exclusions and replacements -/

/-- What a resolved selection is. -/
structure Resolved (s : LinterSelection) (r : Registry) (selected : Selected) : Prop where
  ascending : selected.linters.names.Pairwise (· < ·)
  known : ∀ name ∈ selected.linters, r.contains name = true
  /-- The rule of the catalog is the only one that there may be. -/
  rules : r.substitutions = [] ∨ r.substitutions = Catalog.substitutions
  /-- A linter is selected when it is started from, admitted and not replaced, or when it is the
  replacement of a rule whose linters are all started from and admitted. -/
  members : ∀ name, name ∈ selected.linters ↔
    (name ∈ s.start r ∧ s.Admits r name ∧
      ∀ rule ∈ r.substitutions, Applies r (s.kept r) rule → name ∉ rule.replaces) ∨
    ∃ rule ∈ r.substitutions, Applies r (s.kept r) rule ∧ name = rule.replacement
  /-- All selected linters are admitted unless a rule applies whose replacement is not. -/
  admits_iff : (∀ name ∈ selected.linters, s.Admits r name) ↔
    ∀ rule ∈ r.substitutions, Applies r (s.kept r) rule → s.Admits r rule.replacement

/-- **A resolved selection has known linters in ascending order, and it honours the exclusions
exactly when every rule that applies has a replacement that is admitted.** -/
theorem resolve_exclusions [Regex.SizeRule] (reachable : r.Reachable) {selected : Selected}
    (resolved : s.resolve r = .ok selected) : Resolved s r selected where
  ascending := selected.linters.ascending
  known _ := contains_of_mem_resolve reachable resolved
  rules := reachable.substitutions
  members name := by
    rw [mem_resolve reachable resolved, mem_kept, and_assoc]
  admits_iff := by
    constructor
    · intro admitted rule member applies
      refine admitted rule.replacement ((mem_resolve reachable resolved).mpr (.inr ?_))
      exact ⟨rule, member, applies, rfl⟩
    · intro replacements name selects
      rcases (mem_resolve reachable resolved).mp selects with
        ⟨keeps, -⟩ | ⟨rule, member, applies, rfl⟩
      · exact (mem_kept.mp keeps).2
      · exact replacements rule member applies

/-! ## A disabled replacement -/

open scoped Regex.SizeRule

/-- All linters that the rule of the catalog replaces, but not their replacement. -/
def withoutMegacheck : LinterSelection :=
  { enable := ["gosimple", "staticcheck", "unused"], disable := ["megacheck"] }

theorem exists_resolve_withoutMegacheck : ∃ r selected,
    Registry.withDefaults = .ok r ∧ withoutMegacheck.resolve r = .ok selected := by
  obtain ⟨r, defaults⟩ := Registry.exists_withDefaults
  have known : ∀ name ∈ withoutMegacheck.enable ++ withoutMegacheck.disable,
      r.contains name = true := by
    simp only [Registry.contains_of_withDefaults defaults]
    decide
  exact ⟨r, _, defaults, resolve_eq_ok_iff.mpr ⟨known, rfl⟩⟩

theorem resolve_exclusions_withoutMegacheck : ∃ r selected,
    Registry.withDefaults = .ok r ∧ withoutMegacheck.resolve r = .ok selected ∧
      Resolved withoutMegacheck r selected := by
  obtain ⟨r, selected, defaults, resolved⟩ := exists_resolve_withoutMegacheck
  exact ⟨r, selected, defaults, resolved, resolve_exclusions (.defaults defaults) resolved⟩

/-- With the built-in linters a replacement is selected that the user has disabled. -/
theorem disabled_megacheck_selected : ∃ r selected,
    Registry.withDefaults = .ok r ∧ withoutMegacheck.resolve r = .ok selected ∧
      "megacheck" ∈ withoutMegacheck.disable ∧ "megacheck" ∈ selected.linters := by
  obtain ⟨r, selected, defaults, resolved⟩ := exists_resolve_withoutMegacheck
  have rules : r.substitutions = Catalog.substitutions :=
    Registry.substitutions_of_withDefaults defaults
  have apart : ∀ name ∈ withoutMegacheck.enable, name ∉ withoutMegacheck.disable := by decide
  have allKept : ∀ name ∈ NameSet.ofList withoutMegacheck.enable,
      name ∈ withoutMegacheck.kept r := by
    intro name member
    have enabled := (NameSet.mem_ofList name _).mp member
    exact mem_kept.mpr ⟨member, apart name enabled, fun fast => absurd fast Bool.false_ne_true⟩
  have known : r.contains "megacheck" = true := by
    rw [Registry.contains_of_withDefaults defaults]
    decide
  refine ⟨r, selected, defaults, resolved, List.mem_singleton_self _, ?_⟩
  have rule : ∃ rule ∈ r.substitutions,
      Applies r (withoutMegacheck.kept r) rule ∧ "megacheck" = rule.replacement := by
    refine ⟨⟨.ofList withoutMegacheck.enable, "megacheck"⟩, ?_⟩
    rw [rules]
    exact ⟨List.mem_singleton_self _, ⟨known, allKept⟩, rfl⟩
  exact (mem_resolve (.defaults defaults) resolved).mpr (.inr rule)

end LintRun.LinterSelection
