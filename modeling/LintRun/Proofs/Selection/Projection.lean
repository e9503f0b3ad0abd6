import LintRun.Proofs.Selection.Exclusions

/-!
# Selections as sets of names

A selection lists names, but it is resolved as if its lists were sets: their order and repetitions
are of no importance (`SameNames.resolve_eq`). It is refused exactly when it lists names that are
not known, and then all of them are said once, in ascending order (`resolve_eq_error_iff`).

Resolving is a projection. The linters that come out stand for themselves: a selection of exactly
these comes to the same ones again. For a rule has nothing left to replace where it has been applied
(`not_applies_substitute`), as long as its replacement is not among the linters that it replaces,
and the rule of the catalog is of this kind (`resolve_projects`).
-/

set_option autoImplicit false

namespace LintRun.LinterSelection

variable {s s' : LinterSelection} {r : Registry} {name : String}

/-! ## Lists as sets -/

/-- Whether two selections differ in nothing but the order and the repetitions of the names that
they list. -/
structure SameNames (s s' : LinterSelection) : Prop where
  enable : ∀ name, name ∈ s.enable ↔ name ∈ s'.enable
  disable : ∀ name, name ∈ s.disable ↔ name ∈ s'.disable
  enableAll : s.enableAll = s'.enableAll
  disableAll : s.disableAll = s'.disableAll
  fast : s.fast = s'.fast

theorem mem_unknown :
    name ∈ s.unknown r ↔ name ∈ s.enable ++ s.disable ∧ r.contains name = false := by
  rw [unknown, NameSet.mem_ofList, List.mem_filter, Bool.not_eq_true']

namespace SameNames

variable (same : SameNames s s')
include same

theorem unknown_eq (r : Registry) : s.unknown r = s'.unknown r := by
  refine NameSet.ext fun name => ?_
  simp only [mem_unknown, List.mem_append, same.enable, same.disable]

theorem start_eq (r : Registry) : s.start r = s'.start r := by
  have none : s.enable.isEmpty = s'.enable.isEmpty := by
    rw [Bool.eq_iff_iff, List.isEmpty_iff, List.isEmpty_iff, List.eq_nil_iff_forall_not_mem,
      List.eq_nil_iff_forall_not_mem]
    simp only [same.enable]
  have named : NameSet.ofList s.enable = .ofList s'.enable := NameSet.ext fun name => by
    rw [NameSet.mem_ofList, NameSet.mem_ofList, same.enable]
  rw [start, start, same.enableAll, same.disableAll, none, named]

theorem kept_eq (r : Registry) : s.kept r = s'.kept r := by
  refine NameSet.ext fun name => ?_
  rw [mem_kept, mem_kept, same.start_eq r, Admits, Admits, same.disable, same.fast]

theorem substitute_eq (r : Registry) : s.substitute r = s'.substitute r := by
  funext now rule
  rw [substitute, substitute, same.enableAll]

/-- **The order and the repetitions of names are of no importance.** -/
theorem resolve_eq (r : Registry) : s.resolve r = s'.resolve r := by
  rw [resolve, resolve, same.unknown_eq r, same.kept_eq r, same.substitute_eq r]

end SameNames

/-! ## Unknown names -/

/-- A selection is refused when it lists unknown names, and for these. -/
theorem resolve_eq_error_iff {e : ConfigError} : s.resolve r = .error e ↔
    (∃ name ∈ s.enable ++ s.disable, r.contains name = false) ∧
      e = .unknownLinters (s.unknown r).names := by
  have unknowns : ¬ (s.unknown r).isEmpty = true ↔
      ∃ name ∈ s.enable ++ s.disable, r.contains name = false := by
    simp only [unknown_isEmpty_iff, not_forall, exists_prop, Bool.not_eq_true]
  rw [resolve, ← unknowns]
  split
  · rename_i known
    simp [known]
  · rename_i unknown
    simp [unknown, eq_comm]

/-! ## Resolving again -/

/-- Where a rule has been applied it does not apply again. -/
theorem not_applies_substitute {now : Selected} {rule : SubstitutionRule}
    (replaces : ∃ name, name ∈ rule.replaces) (fresh : rule.replacement ∉ rule.replaces) :
    ¬ Applies r (s.substitute r now rule).linters rule := by
  rintro ⟨known, again⟩
  have before : ∀ name ∈ rule.replaces,
      name ∈ now.linters ∧ ¬ Applies r now.linters rule := by
    intro name member
    rcases (mem_substitute now rule).mp (again name member) with ⟨inNow, spared⟩ | ⟨-, rfl⟩
    · exact ⟨inNow, fun applies => spared applies member⟩
    · exact absurd member fresh
  obtain ⟨name, member⟩ := replaces
  exact (before name member).2 ⟨known, fun other inRule => (before other inRule).1⟩

theorem substitute_of_not_applies {now : Selected} {rule : SubstitutionRule}
    (idle : ¬ Applies r now.linters rule) : s.substitute r now rule = now := by
  refine if_neg fun holds => idle ?_
  rwa [Bool.and_eq_true, NameSet.isSubsetOf_iff] at holds

theorem foldl_substitute_of_not_applies {now : Selected} {rules : List SubstitutionRule}
    (idle : ∀ rule ∈ rules, ¬ Applies r now.linters rule) :
    rules.foldl (s.substitute r) now = now := by
  induction rules with
  | nil => rfl
  | cons rule rest ih =>
    rw [List.foldl_cons, substitute_of_not_applies (idle rule List.mem_cons_self)]
    exact ih fun other later => idle other (List.mem_cons_of_mem rule later)

/-- No rule applies to the linters of a resolved selection. -/
theorem not_applies_of_resolve [Regex.SizeRule] (reachable : r.Reachable) {selected : Selected}
    (resolved : s.resolve r = .ok selected) {rule : SubstitutionRule}
    (member : rule ∈ r.substitutions) : ¬ Applies r selected.linters rule := by
  obtain ⟨-, rfl⟩ := resolve_eq_ok_iff.mp resolved
  rcases reachable.substitutions with none | one
  · rw [none] at member
    exact absurd member List.not_mem_nil
  · rw [one, Catalog.substitutions, List.mem_singleton] at member
    subst member
    rw [one, Catalog.substitutions, List.foldl_cons, List.foldl_nil]
    exact not_applies_substitute ⟨"gosimple", by decide⟩ (by decide)

/-- The selection of some linters and no others. -/
def only (linters : NameSet) : LinterSelection :=
  { enable := linters.names, disableAll := true }

theorem kept_only (linters : NameSet) (r : Registry) : (only linters).kept r = linters := by
  refine NameSet.ext fun name => ?_
  have start : (only linters).start r = .ofList linters.names := rfl
  have admitted : (only linters).Admits r name := ⟨List.not_mem_nil, nofun⟩
  rw [mem_kept, start, NameSet.mem_ofList]
  exact and_iff_left admitted

/-- Known linters to which no rule applies stand for themselves. -/
theorem resolve_only {linters : NameSet} (known : ∀ name ∈ linters, r.contains name = true)
    (idle : ∀ rule ∈ r.substitutions, ¬ Applies r linters rule) :
    (only linters).resolve r = .ok { linters } := by
  refine resolve_eq_ok_iff.mpr ⟨fun name member => known name ?_, ?_⟩
  · exact (List.mem_append.mp member).resolve_right List.not_mem_nil
  · rw [kept_only, foldl_substitute_of_not_applies idle]

/-- **Resolving is a projection that takes lists of names as sets.** It is refused exactly when it
lists unknown names, and its error has all of these. -/
theorem resolve_projects [Regex.SizeRule] (assembled : r.Assembled) (s : LinterSelection) :
    (∀ s', SameNames s s' → s'.resolve r = s.resolve r) ∧
    ((∃ e, s.resolve r = .error e) ↔
      ∃ name ∈ s.enable ++ s.disable, r.contains name = false) ∧
    (∀ e, s.resolve r = .error e → ∃ names, e = .unknownLinters names ∧
      e.message = "unknown linters: " ++ ", ".intercalate names ∧
      names.Pairwise (· < ·) ∧
      ∀ name, name ∈ names ↔ name ∈ s.enable ++ s.disable ∧ r.contains name = false) ∧
    ∀ selected, s.resolve r = .ok selected →
      (only selected.linters).resolve r = .ok { linters := selected.linters } := by
  refine ⟨fun s' same => (same.resolve_eq r).symm, ?_, fun e failed => ?_, ?_⟩
  · simp only [resolve_eq_error_iff, exists_and_left, exists_eq, and_true]
  · obtain ⟨-, rfl⟩ := resolve_eq_error_iff.mp failed
    exact ⟨_, rfl, rfl, (s.unknown r).ascending, fun name => mem_unknown⟩
  · intro selected resolved
    -- Merge rules have no part in this, and without them the registry is a reachable one.
    obtain ⟨base, reachable, same⟩ := assembled.exists_reachable
    have unmerged : ∀ s : LinterSelection, s.resolve r = s.resolve base := by
      intro s
      rw [same]
      rfl
    rw [unmerged] at resolved ⊢
    exact resolve_only (fun name => contains_of_mem_resolve reachable resolved)
      fun rule => not_applies_of_resolve reachable resolved

/-! ## The rule of the catalog -/

open scoped Regex.SizeRule

/-- All linters that the rule of the catalog replaces, one of them twice. -/
def parts : LinterSelection :=
  { enable := ["unused", "gosimple", "unused", "staticcheck"] }

/-- Of the linters that the rule of the catalog replaces, their replacement is left. -/
theorem linters_of_resolve_parts (defaults : Registry.withDefaults = .ok r) {selected : Selected}
    (resolved : parts.resolve r = .ok selected) : selected.linters = .ofList ["megacheck"] := by
  have kept : ∀ name, name ∈ parts.kept r ↔ name ∈ parts.enable := fun name => by
    have start : parts.start r = .ofList parts.enable := rfl
    have admitted : parts.Admits r name := ⟨List.not_mem_nil, nofun⟩
    rw [mem_kept, start, NameSet.mem_ofList]
    exact and_iff_left admitted
  have known : r.contains "megacheck" = true := by
    rw [Registry.contains_of_withDefaults defaults]
    decide
  have applies : ∀ rule ∈ Catalog.substitutions, Applies r (parts.kept r) rule := by
    intro rule member
    obtain rfl := List.mem_singleton.mp member
    refine ⟨known, fun name replaced => (kept name).mpr ?_⟩
    revert name
    decide
  have replaced : ∀ name ∈ parts.enable,
      name ∈ NameSet.ofList ["gosimple", "staticcheck", "unused"] := by decide
  refine NameSet.ext fun name => ?_
  rw [mem_resolve (.defaults defaults) resolved, kept,
    Registry.substitutions_of_withDefaults defaults, NameSet.mem_ofList, List.mem_singleton]
  constructor
  · rintro (⟨enabled, spared⟩ | ⟨rule, member, -, rfl⟩)
    · have idle := spared _ List.mem_cons_self (applies _ List.mem_cons_self)
      exact absurd (replaced name enabled) idle
    · rw [List.mem_singleton.mp member]
  · rintro rfl
    exact .inr ⟨_, List.mem_cons_self, applies _ List.mem_cons_self, rfl⟩

theorem resolve_projects_parts : ∃ r, Registry.withDefaults = .ok r ∧ r.Assembled ∧
    SameNames parts { enable := ["gosimple", "staticcheck", "unused"] } ∧
    LinterSelection.resolve { enable := ["gosimple", "staticcheck", "unused"] } r =
      parts.resolve r ∧
    ∃ selected, parts.resolve r = .ok selected ∧ selected.linters = .ofList ["megacheck"] ∧
      (only selected.linters).resolve r = .ok { linters := selected.linters } := by
  obtain ⟨r, defaults⟩ := Registry.exists_withDefaults
  obtain ⟨sets, -, -, again⟩ := resolve_projects (.defaults defaults) parts
  have same : SameNames parts { enable := ["gosimple", "staticcheck", "unused"] } := by
    refine ⟨fun name => ?_, fun _ => Iff.rfl, rfl, rfl, rfl⟩
    simp only [parts, List.mem_cons, List.not_mem_nil, or_false]
    tauto
  have known : ∀ name ∈ parts.enable ++ parts.disable, r.contains name = true := by
    simp only [Registry.contains_of_withDefaults defaults]
    decide
  have resolved := resolve_eq_ok_iff.mpr ⟨known, rfl⟩
  exact ⟨r, defaults, .defaults defaults, same, sets _ same, _, resolved,
    linters_of_resolve_parts defaults resolved, again _ resolved⟩

end LintRun.LinterSelection
