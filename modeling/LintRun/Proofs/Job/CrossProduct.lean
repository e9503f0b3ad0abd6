import Mathlib.Data.List.ProdSigma
import LintRun.Proofs.Job.Origins

/-!
# The jobs of a run

A run has a job for each pair of a linter and a target, in the order of the linters and for each
linter in the order of the targets. Pairs are left out when the linter is not defined or all words
of its command come out empty; the others are **planned**. Names that occur twice have their jobs
twice. As the jobs are numbered when the pairs have been left out, there are no gaps in the numbers
(`plan_isCrossProduct`).
-/

set_option autoImplicit false

namespace LintRun.Job

variable {r : Registry} {vars : Dict String} {linters paths : List String}

/-- Whether a pair of a linter and a target has a job: the linter is defined, and some word of its
command does not come out empty. -/
def Planned (r : Registry) (vars : Dict String) (pair : String × String) : Prop :=
  ∃ d, r.get? pair.1 = some d ∧ ∃ t ∈ d.args, t.render (lookup vars pair.2) ≠ ""

/-- The job of a pair of a linter and a target, still without a number. -/
def ofPair? (r : Registry) (vars : Dict String) (pair : String × String) : Option Job :=
  (r.get? pair.1).bind (prepare? · vars pair.2)

theorem isSome_ofPair?_iff {pair : String × String} :
    (ofPair? r vars pair).isSome = true ↔ Planned r vars pair := by
  rw [ofPair?, Planned]
  cases r.get? pair.1 with
  | none => simp
  | some d => simp [isSome_prepare?_iff]

instance (r : Registry) (vars : Dict String) : DecidablePred (Planned r vars) := fun _ =>
  decidable_of_iff _ isSome_ofPair?_iff

/-- The job of a pair is on the target of the pair, and it is one of the linter that is defined
under the name. -/
theorem ofPair?_eq_some_iff {pair : String × String} {job : Job} :
    ofPair? r vars pair = some job ↔ ∃ d, r.get? pair.1 = some d ∧ job.id = 0 ∧
      job.linter = d.name ∧ job.path = pair.2 ∧
      argv? d vars pair.2 = some (job.program, job.args) := by
  rw [ofPair?, Option.bind_eq_some_iff]
  simp only [prepare?_eq_some_iff]

/-- Where linters are defined under their own names, a job is of the linter that the pair names. -/
theorem pair_of_ofPair? (named : r.WellNamed) {pair : String × String} {job : Job}
    (ofPair : ofPair? r vars pair = some job) : (job.linter, job.path) = pair := by
  obtain ⟨d, held, -, sameLinter, samePath, -⟩ := ofPair?_eq_some_iff.mp ofPair
  rw [sameLinter, samePath, named pair.1 d held]

theorem map_filterMap_ofPair? (named : r.WellNamed) (pairs : List (String × String)) :
    (pairs.filterMap (ofPair? r vars)).map (fun job => (job.linter, job.path)) =
      pairs.filter (Planned r vars ·) := by
  induction pairs with
  | nil => rfl
  | cons pair rest ih =>
    cases ofPair : ofPair? r vars pair with
    | none =>
      have unplanned : ¬ Planned r vars pair := fun planned => by
        have some := isSome_ofPair?_iff.mpr planned
        rw [ofPair] at some
        cases some
      rw [List.filterMap_cons_none ofPair, ih, List.filter_cons_of_neg (by simpa using unplanned)]
    | some job =>
      have planned : Planned r vars pair := isSome_ofPair?_iff.mp (ofPair ▸ rfl)
      rw [List.filterMap_cons_some ofPair, List.map_cons, ih, pair_of_ofPair? named ofPair,
        List.filter_cons_of_pos (by simpa using planned)]

/-! ## Numbers -/

/-- Jobs with the numbers of their places. -/
def numbered (jobs : List Job) : List Job :=
  jobs.mapIdx fun id job => { job with id }

theorem map_numbered {α : Type} {f : Job → α} (same : ∀ (job : Job) id, f { job with id } = f job)
    (jobs : List Job) : (numbered jobs).map f = jobs.map f := by
  refine List.ext_getElem (by simp [numbered]) fun i _ _ => ?_
  simp only [numbered, List.getElem_map, List.getElem_mapIdx, same]

theorem ids_numbered (jobs : List Job) :
    (numbered jobs).map (·.id) = List.range (numbered jobs).length := by
  refine List.ext_getElem (by simp) fun i _ _ => ?_
  simp only [numbered, List.getElem_map, List.getElem_mapIdx, List.getElem_range]

/-- The jobs of a run are those of the pairs, with their numbers. -/
theorem plan_eq (r : Registry) (vars : Dict String) (linters paths : List String) :
    plan r vars linters paths = numbered ((linters ×ˢ paths).filterMap (ofPair? r vars)) := by
  refine congrArg numbered ?_
  induction linters with
  | nil => rfl
  | cons linter rest ih =>
    rw [List.flatMap_cons, ih, List.product_cons, List.filterMap_append, List.filterMap_map]
    refine congrArg (· ++ _) ?_
    cases held : r.get? linter with
    | none =>
      refine (List.filterMap_eq_nil_iff.mpr fun path _ => ?_).symm
      rw [Function.comp_apply, ofPair?, held, Option.bind_none]
    | some d =>
      refine List.filterMap_congr fun path _ => ?_
      rw [Function.comp_apply, ofPair?, held, Option.bind_some]

/-! ## The cross product -/

/-- What the jobs of a run are. -/
structure IsCrossProduct (r : Registry) (vars : Dict String) (linters paths : List String)
    (jobs : List Job) : Prop where
  /-- The jobs are one by one those of the planned pairs, in the order of the linters and then of
  the targets. -/
  pairs : jobs.map (fun job => (job.linter, job.path)) =
    (linters ×ˢ paths).filter (Planned r vars ·)
  ids : jobs.map (·.id) = List.range jobs.length
  /-- Each job runs the command of its linter on its target. -/
  commandLines : ∀ job ∈ jobs, ∃ d, r.get? job.linter = some d ∧
    argv? d vars job.path = some (job.program, job.args)

/-- **The jobs of a run are the cross product** of its linters and targets without the pairs that
have no job, and they are numbered from zero without gaps. -/
theorem plan_isCrossProduct [Regex.SizeRule] (assembled : r.Assembled) (vars : Dict String)
    (linters paths : List String) :
    IsCrossProduct r vars linters paths (plan r vars linters paths) where
  pairs := by
    rw [plan_eq, map_numbered fun _ _ => rfl]
    exact map_filterMap_ofPair? assembled.wellNamed (linters ×ˢ paths)
  ids := by
    rw [plan_eq]
    exact ids_numbered _
  commandLines job member := by
    rw [plan_eq] at member
    obtain ⟨id, inside, rfl⟩ := List.mem_mapIdx.mp member
    obtain ⟨pair, -, ofPair⟩ := List.mem_filterMap.mp (List.getElem_mem inside)
    obtain ⟨rfl⟩ := pair_of_ofPair? assembled.wellNamed ofPair
    obtain ⟨d, held, -, -, -, line⟩ := ofPair?_eq_some_iff.mp ofPair
    exact ⟨d, held, line⟩

open scoped Regex.SizeRule

/-- A registry with a linter that says nothing without a flag, and a merge rule. -/
def quietRegistry : Except ConfigError Registry := do
  let first ← Registry.empty.define "lint" { command := "lint", pattern := "(?P<path>f)" }
  let second ← first.define "quiet" { command := "\x7bflag\x7d", pattern := "(?P<path>f)" }
  return second.addMergeRule ⟨.ofList ["lint", "quiet"], .pathLine⟩

theorem assembled_of_quietRegistry (built : quietRegistry = .ok r) : r.Assembled := by
  obtain ⟨first, defined, built⟩ := exists_ok_of_bind built
  obtain ⟨second, defined', built⟩ := exists_ok_of_bind built
  cases built
  exact ((Registry.Assembled.empty.define defined).define defined').addMergeRule _

/-- Linters that are unknown, that come out empty and that are named twice. -/
theorem plan_isCrossProduct_quiet : ∃ r, quietRegistry = .ok r ∧ r.Assembled ∧
    IsCrossProduct r ∅ ["quiet", "lint", "nope", "lint"] ["a", "b"]
      (plan r ∅ ["quiet", "lint", "nope", "lint"] ["a", "b"]) ∧
    plan r ∅ ["quiet", "lint", "nope", "lint"] ["a", "b"] =
      [⟨0, "lint", "a", "lint", ["a"]⟩, ⟨1, "lint", "b", "lint", ["b"]⟩,
        ⟨2, "lint", "a", "lint", ["a"]⟩, ⟨3, "lint", "b", "lint", ["b"]⟩] := by
  obtain ⟨r, built, jobs⟩ : ∃ r, quietRegistry = .ok r ∧
      plan r ∅ ["quiet", "lint", "nope", "lint"] ["a", "b"] =
        [⟨0, "lint", "a", "lint", ["a"]⟩, ⟨1, "lint", "b", "lint", ["b"]⟩,
          ⟨2, "lint", "a", "lint", ["a"]⟩, ⟨3, "lint", "b", "lint", ["b"]⟩] :=
    exists_ok_of_map (by decide +kernel)
  have assembled := assembled_of_quietRegistry built
  exact ⟨r, built, assembled, plan_isCrossProduct assembled ∅ _ _, jobs⟩

end LintRun.Job
