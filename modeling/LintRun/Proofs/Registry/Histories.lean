import Mathlib.Data.List.Induction
import LintRun.Proofs.Registry.Reachable

/-!
# Histories of registries

A registry is filled by **calls**, each of which defines a linter or fails. A **history** is a
registry together with the log of its calls, in which a call that failed stands with its fault.

Calls do not build on each other. A call that succeeds lays its specification over that of the
built-in linter of the name, not over what an earlier call has made of it, and takes over from the
registry only whether the linter runs by default. So what a history comes to can be read off its
log (`run_recorded`): a linter is custom when a call for it has succeeded, and then its definition
is that of the last such call, run by default as it was at first.
-/

set_option autoImplicit false

namespace LintRun.Registry

open Regex (SizeRule)

/-- A call that defines a linter. -/
structure Call where
  name : String
  spec : LinterSpec

/-- A registry in use: the registry as it is, and the calls so far, each with its fault if it
failed. -/
structure History where
  registry : Registry
  log : List (Call × Option ConfigError) := []

namespace History

/-- The history after one call more, with the registry as the call leaves it. -/
def perform [SizeRule] (h : History) (call : Call) : History :=
  match (defining call.name call.spec).run.run h.registry with
  | (.ok (), registry) => { registry, log := h.log ++ [(call, none)] }
  | (.error fault, registry) => { registry, log := h.log ++ [(call, some fault)] }

/-- The specifications with which calls for a linter have succeeded, the first one first. -/
def specsOf (h : History) (name : String) : List LinterSpec :=
  h.log.filterMap fun (call, fault) =>
    if call.name = name ∧ fault.isNone = true then some call.spec else none

end History

/-- The history of some calls on a registry. -/
def run [SizeRule] (first : Registry) (calls : List Call) : History :=
  calls.foldl History.perform { registry := first }

theorem run_concat [SizeRule] (first : Registry) (calls : List Call) (call : Call) :
    run first (calls ++ [call]) = (run first calls).perform call := by
  simp only [run, List.foldl_append, List.foldl_cons, List.foldl_nil]

/-! ## One call more -/

namespace History

variable {h : History} {call : Call} {r : Registry} {fault : ConfigError}

theorem perform_of_ok [SizeRule] (defined : h.registry.define call.name call.spec = .ok r) :
    h.perform call = { registry := r, log := h.log ++ [(call, none)] } := by
  rw [perform, run_defining_of_define defined]

theorem perform_of_error [SizeRule]
    (failed : h.registry.define call.name call.spec = .error fault) :
    h.perform call = { h with log := h.log ++ [(call, some fault)] } := by
  rw [perform, run_defining_of_failed failed]

theorem log_perform [SizeRule] (h : History) (call : Call) :
    ∃ fault, (h.perform call).log = h.log ++ [(call, fault)] := by
  cases answer : h.registry.define call.name call.spec with
  | error fault => exact ⟨_, congrArg History.log (perform_of_error answer)⟩
  | ok r => exact ⟨_, congrArg History.log (perform_of_ok answer)⟩

theorem specsOf_concat (h : History) (registry : Registry) (call : Call)
    (fault : Option ConfigError) (name : String) :
    specsOf { registry, log := h.log ++ [(call, fault)] } name =
      h.specsOf name ++ if call.name = name ∧ fault.isNone = true then [call.spec] else [] := by
  rw [specsOf, List.filterMap_append, specsOf]
  refine congrArg _ ?_
  split
  · rename_i counts
    simp only [List.filterMap_cons, if_pos counts, List.filterMap_nil]
  · rename_i idle
    simp only [List.filterMap_cons, if_neg idle, List.filterMap_nil]

end History

/-- Whether two registries differ in nothing but one linter. -/
structure SameBut (name : String) (r r' : Registry) : Prop where
  definitions : ∀ other, other ≠ name → r'.get? other = r.get? other
  customs : ∀ other, other ≠ name → r'.isCustom other = r.isCustom other
  mergeRules : r'.mergeRules = r.mergeRules
  substitutions : r'.substitutions = r.substitutions

theorem isCustom_iff {r : Registry} {name : String} : r.isCustom name = true ↔ name ∈ r.custom :=
  NameSet.contains_iff r.custom name

/-! ## What a definition changes -/

section Histories

variable [SizeRule]

/-- A linter that is defined becomes custom, and all others stay as they are. -/
theorem isCustom_define {r r' : Registry} {name : String} {spec : LinterSpec}
    (defined : r.define name spec = .ok r') (other : String) :
    r'.isCustom other = true ↔ other = name ∨ r.isCustom other = true := by
  obtain ⟨d, -, rfl⟩ := define_cases defined
  rw [isCustom_iff, isCustom_iff]
  exact NameSet.mem_insert r.custom name other

/-- Defining a linter changes nothing but this linter. -/
theorem sameBut_define {r r' : Registry} {name : String} {spec : LinterSpec}
    (defined : r.define name spec = .ok r') : SameBut name r r' where
  definitions other different := by
    obtain ⟨d, checked, rfl⟩ := define_cases defined
    obtain ⟨sameName, -, -⟩ := LinterDefinition.of_ofSpec checked
    refine (get?_insert r _ other).trans (if_neg ?_)
    rw [sameName]
    exact different
  customs other different := by
    rw [Bool.eq_iff_iff, isCustom_define defined]
    exact or_iff_right different
  mergeRules := by
    obtain ⟨d, -, rfl⟩ := define_cases defined
    rfl
  substitutions := by
    obtain ⟨d, -, rfl⟩ := define_cases defined
    rfl

/-! ## What a linter is after a history -/

/-- What a linter is when it started as in one registry and the given specification is the last
one, if there is any, with which a call for it has succeeded. -/
def Holds (first r : Registry) (name : String) : Option LinterSpec → Prop
  | none => r.get? name = first.get? name
  | some spec =>
    ∃ d, LinterDefinition.ofSpec name (((Catalog.spec? name).getD {}).overlay spec) = .ok d ∧
      r.get? name = some { d with defaultEnabled := first.runsByDefault name }

variable {first : Registry} {calls : List Call}

/-- A linter runs by default exactly if it did at first. -/
theorem Holds.runsByDefault {r : Registry} {name : String} {last : Option LinterSpec}
    (holds : Holds first r name last) : r.runsByDefault name = first.runsByDefault name := by
  cases last with
  | none => rw [Registry.runsByDefault, holds, Registry.runsByDefault]
  | some spec =>
    obtain ⟨d, -, held⟩ := holds
    rw [Registry.runsByDefault, held]
    rfl

/-- The last specification of a linter decides what it is, whatever came before. -/
theorem holds_run (first : Registry) (calls : List Call) (name : String) :
    Holds first (run first calls).registry name ((run first calls).specsOf name).getLast? := by
  induction calls using List.reverseRecOn with
  | nil => exact rfl
  | append_singleton calls call ih =>
    rw [run_concat]
    cases answer : (run first calls).registry.define call.name call.spec with
    | error fault =>
      rw [History.perform_of_error answer, History.specsOf_concat, if_neg (by simp),
        List.append_nil]
      exact ih
    | ok r =>
      rw [History.perform_of_ok answer, History.specsOf_concat]
      by_cases here : call.name = name
      · subst here
        obtain ⟨d, checked, rfl⟩ := define_cases answer
        obtain ⟨sameName, -, -⟩ := LinterDefinition.of_ofSpec checked
        rw [if_pos ⟨rfl, rfl⟩, List.getLast?_concat]
        refine ⟨d, checked, ?_⟩
        rw [← ih.runsByDefault]
        exact (get?_insert _ _ call.name).trans (if_pos sameName.symm)
      · rw [if_neg fun both => here both.1, List.append_nil]
        have same := (sameBut_define answer).definitions name (Ne.symm here)
        cases last : ((run first calls).specsOf name).getLast? with
        | none =>
          rw [last] at ih
          exact same.trans ih
        | some spec =>
          rw [last] at ih
          obtain ⟨d, checked, held⟩ := ih
          exact ⟨d, checked, same.trans held⟩

theorem isCustom_run (plain : first.custom = ∅) (calls : List Call) (name : String) :
    (run first calls).registry.isCustom name = true ↔ (run first calls).specsOf name ≠ [] := by
  induction calls using List.reverseRecOn with
  | nil =>
    refine iff_of_false (fun custom => ?_) (fun none => none rfl)
    have member : name ∈ first.custom := isCustom_iff.mp custom
    rw [plain] at member
    exact NameSet.not_mem_empty name member
  | append_singleton calls call ih =>
    rw [run_concat]
    cases answer : (run first calls).registry.define call.name call.spec with
    | error fault =>
      rw [History.perform_of_error answer, History.specsOf_concat, if_neg (by simp),
        List.append_nil]
      exact ih
    | ok r =>
      rw [History.perform_of_ok answer, History.specsOf_concat]
      show r.isCustom name = true ↔ _
      rw [isCustom_define answer, ih]
      by_cases here : call.name = name
      · simp [here]
      · simp [here, Ne.symm here]

theorem reachable_run (reachable : first.Reachable) (calls : List Call) :
    (run first calls).registry.Reachable := by
  induction calls using List.reverseRecOn with
  | nil => exact reachable
  | append_singleton calls call ih =>
    rw [run_concat]
    cases answer : (run first calls).registry.define call.name call.spec with
    | error fault =>
      rw [History.perform_of_error answer]
      exact ih
    | ok r =>
      rw [History.perform_of_ok answer]
      exact .define ih answer

/-! ## Histories and their logs -/

/-- What a history comes to. -/
structure Recorded (first : Registry) (calls : List Call) : Prop where
  /-- A further call that fails leaves the registry exactly as it is. -/
  failing : ∀ call fault,
    (run first calls).registry.define call.name call.spec = .error fault →
      run first (calls ++ [call]) =
        { registry := (run first calls).registry
          log := (run first calls).log ++ [(call, some fault)] }
  /-- A further call that succeeds changes neither another linter nor the rules. -/
  succeeding : ∀ call r, (run first calls).registry.define call.name call.spec = .ok r →
    run first (calls ++ [call]) =
        { registry := r, log := (run first calls).log ++ [(call, none)] } ∧
      SameBut call.name (run first calls).registry r
  /-- Every call is in the log. -/
  logged : (run first calls).log.map (·.1) = calls
  /-- A linter is custom exactly when a call for it has succeeded. -/
  isCustom_iff : ∀ name, (run first calls).registry.isCustom name = true ↔
    (run first calls).specsOf name ≠ []
  /-- The definition of a custom linter is what comes out of the checks of the last successful
  specification laid over the built-in one, run by default as at first. -/
  last : ∀ name spec, ((run first calls).specsOf name).getLast? = some spec →
    ∃ d, LinterDefinition.ofSpec name (((Catalog.spec? name).getD {}).overlay spec) = .ok d ∧
      (run first calls).registry.get? name =
        some { d with defaultEnabled := (first.get? name).any (·.defaultEnabled) }
  /-- Without a successful call a linter is what it was at first. -/
  untouched : ∀ name, (run first calls).specsOf name = [] →
    (run first calls).registry.get? name = first.get? name
  /-- Every linter is held under its own name, with an argument template and a pattern that finds
  paths. -/
  usable : ∀ name d, (run first calls).registry.get? name = some d →
    d.name = name ∧ d.args ≠ [] ∧ d.pattern.has "path" = true

theorem log_run (first : Registry) (calls : List Call) :
    (run first calls).log.map (·.1) = calls := by
  induction calls using List.reverseRecOn with
  | nil => rfl
  | append_singleton calls call ih =>
    obtain ⟨fault, logged⟩ := (run first calls).log_perform call
    rw [run_concat, logged, List.map_append, ih]
    rfl

/-- **What a history comes to can be read off its log**, when it starts from the empty registry or
from that of the built-in linters. -/
theorem run_recorded (starts : first = empty ∨ withDefaults = .ok first) (calls : List Call) :
    Recorded first calls where
  failing call fault failed := by
    rw [run_concat, History.perform_of_error failed]
  succeeding call r defined := by
    rw [run_concat, History.perform_of_ok defined]
    exact ⟨rfl, sameBut_define defined⟩
  logged := log_run first calls
  isCustom_iff name := by
    refine isCustom_run ?_ calls name
    rcases starts with rfl | defaults
    · rfl
    · exact custom_of_withDefaults defaults
  last name spec last := by
    have holds := holds_run first calls name
    rw [last] at holds
    exact holds
  untouched name none := by
    have holds := holds_run first calls name
    rw [none] at holds
    exact holds
  usable name d held := by
    have reachable : first.Reachable := by
      rcases starts with rfl | defaults
      · exact .empty
      · exact .defaults defaults
    obtain ⟨spec, e, checked, same⟩ := (reachable_run reachable calls).checked name d held
    obtain ⟨sameName, nonempty, -⟩ := LinterDefinition.of_ofSpec checked
    rw [same]
    exact ⟨sameName, nonempty, e.pattern.has_path⟩

end Histories

/-- A call that gives a built-in linter another command, one with a severity that is not known,
and one for a linter without a command. -/
def mixedCalls : List Call :=
  [⟨"golint", { command := "golint -set_exit_status" }⟩,
   ⟨"golint", { severity := some "loud" }⟩,
   ⟨"spell", { pattern := "PATH:LINE:MESSAGE" }⟩]

open scoped Regex.SizeRule in
theorem run_recorded_mixedCalls :
    (empty = empty ∨ withDefaults = .ok empty) ∧ Recorded empty mixedCalls ∧
      (run empty mixedCalls).specsOf "golint" = [{ command := "golint -set_exit_status" }] ∧
      (run empty mixedCalls).specsOf "spell" = [] := by
  refine ⟨.inl rfl, run_recorded (.inl rfl) mixedCalls, ?_⟩
  decide +kernel

end LintRun.Registry
