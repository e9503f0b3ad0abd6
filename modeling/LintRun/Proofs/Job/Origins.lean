import Mathlib.Data.List.Forall2
import LintRun.Job
import LintRun.Proofs.Registry.Reachable
import LintRun.Proofs.Template.RoundTrip

/-!
# Where the elements of a command line come from

Every element of the command line of a job has an **origin**: it is a word of the command, filled
in, or the target that follows a command without a place for it. Which origins there are, and in
which order, is decided by the words that come out empty and by nothing else about the values. From
a word comes one element, which **yields** the parts of the word one after the other: literal text
as it is, and the value of a name as it is (`Segment.Yields`). What a value looks like is of no
importance, since it is not read again.

So two runs in which the same words come out empty have command lines of one shape, and a name that
the command does not refer to has no influence at all (`prepare?_sameShape`).
-/

set_option autoImplicit false

namespace LintRun

/-! ## Accepted definitions -/

namespace LinterDefinition

/-- Whether a definition comes from a specification that has been checked. It may have been settled
since whether the linter runs by default. -/
def Accepted [Regex.SizeRule] (d : LinterDefinition) : Prop :=
  ∃ spec e, ofSpec d.name spec = .ok e ∧ d = { e with defaultEnabled := d.defaultEnabled }

theorem accepted_of_ofSpec [Regex.SizeRule] {name : String} {spec : LinterSpec}
    {d : LinterDefinition} (checked : ofSpec name spec = .ok d) : d.Accepted := by
  obtain ⟨sameName, -, -⟩ := of_ofSpec checked
  exact ⟨spec, d, sameName ▸ checked, rfl⟩

/-- The templates of a command are its words, each read on its own. -/
theorem splitWords_of_compileCommand {name command : String} {args : List Template}
    (compiled : compileCommand name command = .ok args) :
    Command.splitWords command = some (args.map (·.source)) ∧
      ∀ t ∈ args, Template.parse t.source = .ok t := by
  obtain ⟨words, wordsOf, -, read⟩ := exists_words_of_compileCommand compiled
  rw [wordsOf, Option.some_inj]
  clear wordsOf compiled
  induction read with
  | nil => exact ⟨rfl, fun t member => absurd member List.not_mem_nil⟩
  | @cons word t words args first _ ih =>
    obtain ⟨sameSource, -⟩ := Template.parse_eq_ok_iff.mp first
    refine ⟨by rw [List.map_cons, sameSource, ih.1], fun other member => ?_⟩
    rcases List.mem_cons.mp member with rfl | later
    · rwa [sameSource]
    · exact ih.2 other later

theorem Accepted.splitWords [Regex.SizeRule] {d : LinterDefinition} (accepted : d.Accepted) :
    Command.splitWords d.command = some (d.args.map (·.source)) ∧
      ∀ t ∈ d.args, Template.parse t.source = .ok t := by
  obtain ⟨spec, e, checked, same⟩ := accepted
  rw [same]
  obtain ⟨args, compiled, checked⟩ := exists_ok_of_bind checked
  obtain ⟨pattern, -, checked⟩ := exists_ok_of_bind checked
  obtain ⟨severity, -, checked⟩ := exists_ok_of_bind checked
  cases checked
  exact splitWords_of_compileCommand compiled

end LinterDefinition

/-! ## What the parts of a word yield -/

/-- Whether a text may stand for a part of a word when `value` gives the values of the names:
literal text stands as it is, the value of a name as it is, and conditional text as it is or not at
all. -/
def Segment.Yields (value : String → Option String) : Segment → String → Prop
  | .literal text, piece => piece = text
  | .value name, piece => value name = some piece ∨ value name = none ∧ piece = ""
  | .conditional name text, piece =>
    (∃ v, value name = some v ∧ v ≠ "") ∧ piece = text ∨
      (∀ v, value name = some v → v = "") ∧ piece = ""

theorem Segment.yields_render (value : String → Option String) (s : Segment) :
    s.Yields value (s.render value) := by
  cases s with
  | literal text => exact rfl
  | value name =>
    cases known : value name with
    | none => exact .inr ⟨known, by rw [Segment.render, known]; rfl⟩
    | some v => exact .inl (by rw [Segment.render, known]; rfl)
  | conditional name text =>
    rw [Segment.render]
    cases known : value name with
    | none =>
      refine .inr ⟨fun v other => ?_, rfl⟩
      rw [known] at other
      cases other
    | some v =>
      by_cases empty : v = ""
      · refine .inr ⟨fun other same => ?_, if_pos empty⟩
        exact (Option.some.inj (known.symm.trans same)).symm.trans empty
      · exact .inl ⟨⟨v, known, empty⟩, if_neg empty⟩

theorem Segment.render_congr {value value' : String → Option String} {s : Segment}
    (same : ∀ name, s.name? = some name → value name = value' name) :
    s.render value = s.render value' := by
  cases s with
  | literal text => rfl
  | value name => rw [Segment.render, same name rfl, Segment.render]
  | conditional name text => rw [Segment.render, same name rfl, Segment.render]

theorem Template.references_iff {t : Template} {name : String} :
    t.references name = true ↔ ∃ s ∈ t.segments, s.name? = some name := by
  rw [references, List.contains_iff_mem, placeholders, List.mem_filterMap]

/-- What a template stands for depends on the names alone that it refers to. -/
theorem Template.render_congr {value value' : String → Option String} {t : Template}
    (same : ∀ name, t.references name = true → value name = value' name) :
    t.render value = t.render value' := by
  refine congrArg String.join (List.map_congr_left fun s member => ?_)
  exact Segment.render_congr fun name refers =>
    same name (Template.references_iff.mpr ⟨s, member, refers⟩)

theorem LinterDefinition.references_iff {d : LinterDefinition} {name : String} :
    d.references name = true ↔ ∃ t ∈ d.args, t.references name = true :=
  List.any_eq_true

namespace Job

variable {d : LinterDefinition} {vars vars' : Dict String} {path path' : String}

/-! ## Command lines -/

/-- Where an element of a command line comes from. -/
inductive Origin where
  /-- A word of the command. -/
  | word (template : Template)
  /-- The target, behind the words. -/
  | target

/-- Whether an element of a command line comes from an origin. -/
def Origin.Yields (vars : Dict String) (path : String) : Origin → String → Prop
  | .word t, element => ∃ pieces, element = String.join pieces ∧
      List.Forall₂ (Segment.Yields (lookup vars path)) t.segments pieces
  | .target, element => element = path

/-- The words of a command that do not come out empty. -/
def keptWords (d : LinterDefinition) (vars : Dict String) (path : String) : List Template :=
  d.args.filter (·.render (lookup vars path) ≠ "")

/-- The origins of the elements of a command line: the words that do not come out empty, and the
target if the command does not refer to it. -/
def origins (d : LinterDefinition) (vars : Dict String) (path : String) : List Origin :=
  (keptWords d vars path).map .word ++ if d.references "path" then [] else [.target]

theorem words_eq_map : words d vars path =
    (keptWords d vars path).map (·.render (lookup vars path)) := by
  rw [words, List.filter_map, keptWords]
  rfl

/-- A command line is what the words come to, with the target behind them if the command does not
refer to it; it is there if there is a word. -/
theorem argv?_eq_some_iff {program : String} {args : List String} :
    argv? d vars path = some (program, args) ↔ words d vars path ≠ [] ∧
      program :: args = words d vars path ++ if d.references "path" then [] else [path] := by
  rw [argv?]
  cases words d vars path with
  | nil => simp
  | cons first rest =>
    rw [Option.some_inj, Prod.mk.injEq, List.cons_append, List.cons.injEq, eq_comm,
      eq_comm (b := args)]
    split <;> simp

theorem prepare?_eq_some_iff {job : Job} :
    prepare? d vars path = some job ↔ job.id = 0 ∧ job.linter = d.name ∧ job.path = path ∧
      argv? d vars path = some (job.program, job.args) := by
  obtain ⟨id, linter, target, program, args⟩ := job
  rw [prepare?, Option.map_eq_some_iff]
  constructor
  · rintro ⟨⟨program', args'⟩, line, same⟩
    cases same
    exact ⟨rfl, rfl, rfl, line⟩
  · rintro ⟨rfl, rfl, rfl, line⟩
    exact ⟨_, line, rfl⟩

theorem isSome_prepare?_iff :
    (prepare? d vars path).isSome = true ↔ ∃ t ∈ d.args, t.render (lookup vars path) ≠ "" := by
  rw [prepare?, Option.isSome_map, argv?]
  split
  · rename_i noWords
    rw [words_eq_map, List.map_eq_nil_iff, keptWords, List.filter_eq_nil_iff] at noWords
    simpa using noWords
  · rename_i program args line
    refine iff_of_true rfl ?_
    have member : program ∈ words d vars path := line ▸ List.mem_cons_self
    rw [words_eq_map] at member
    obtain ⟨t, kept, -⟩ := List.mem_map.mp member
    obtain ⟨ofCommand, nonempty⟩ := List.mem_filter.mp kept
    exact ⟨t, ofCommand, of_decide_eq_true nonempty⟩

/-- Each element of a command line comes from its origin. -/
theorem yields_origins : List.Forall₂ (Origin.Yields vars path) (origins d vars path)
    (words d vars path ++ if d.references "path" then [] else [path]) := by
  rw [origins, words_eq_map]
  refine List.rel_append ?_ ?_
  · rw [List.forall₂_map_left_iff, List.forall₂_map_right_iff, List.forall₂_same]
    intro t _
    refine ⟨t.segments.map (Segment.render (lookup vars path)), rfl, ?_⟩
    rw [List.forall₂_map_right_iff, List.forall₂_same]
    exact fun s _ => s.yields_render (lookup vars path)
  · split
    · exact .nil
    · exact .cons rfl .nil

theorem yields_of_prepare? {job : Job} (planned : prepare? d vars path = some job) :
    List.Forall₂ (Origin.Yields vars path) (origins d vars path) (job.program :: job.args) := by
  obtain ⟨-, -, -, line⟩ := prepare?_eq_some_iff.mp planned
  rw [(argv?_eq_some_iff.mp line).2]
  exact yields_origins

/-! ## Two runs -/

/-- A name that the command does not refer to has no influence on the job. -/
theorem prepare?_congr (same : ∀ name, d.references name = true → name ≠ "path" →
      vars'.get? name = vars.get? name) :
    prepare? d vars' path = prepare? d vars path := by
  have sameWords : words d vars' path = words d vars path := by
    refine congrArg (List.filter (· ≠ "")) (List.map_congr_left fun t member => ?_)
    refine Template.render_congr fun name refers => ?_
    rw [lookup, lookup]
    split
    · rfl
    · rename_i other
      exact same name (LinterDefinition.references_iff.mpr ⟨t, member, refers⟩) other
  rw [prepare?, prepare?, argv?, argv?, sameWords]

/-- What the command lines of two runs of a linter have in common. -/
structure SameShape (d : LinterDefinition) (vars vars' : Dict String) (path path' : String) :
    Prop where
  /-- The templates are the words of the command, each read on its own. -/
  words : Command.splitWords d.command = some (d.args.map (·.source)) ∧
    ∀ t ∈ d.args, Template.parse t.source = .ok t
  /-- There are jobs for both or for neither. -/
  both : (prepare? d vars path).isSome = (prepare? d vars' path').isSome
  /-- One by one, the elements of both come from the same word of the command, or both are the
  target behind the words. -/
  elements : ∀ job job', prepare? d vars path = some job → prepare? d vars' path' = some job' →
    List.Forall₂ (Origin.Yields vars path) (origins d vars path) (job.program :: job.args) ∧
    List.Forall₂ (Origin.Yields vars' path') (origins d vars path) (job'.program :: job'.args) ∧
    job.args.length = job'.args.length

/-- **Values do not change the shape of a command line.** In two runs in which the same words of the
command come out empty the elements of both command lines come from the same origins, and values are
in them as they are. A name that the command does not refer to has no influence at all. -/
theorem prepare?_sameShape [Regex.SizeRule] (accepted : d.Accepted)
    (sameEmpty : ∀ t ∈ d.args,
      t.render (lookup vars path) = "" ↔ t.render (lookup vars' path') = "") :
    SameShape d vars vars' path path' ∧
    ∀ others : Dict String,
      (∀ name, d.references name = true → name ≠ "path" → others.get? name = vars.get? name) →
        prepare? d others path = prepare? d vars path := by
  have sameKept : keptWords d vars' path' = keptWords d vars path := by
    refine List.filter_congr fun t member => ?_
    rw [decide_eq_decide, ne_eq, ne_eq, not_iff_not, sameEmpty t member]
  have sameOrigins : origins d vars' path' = origins d vars path := by
    rw [origins, sameKept, origins]
  refine ⟨⟨accepted.splitWords, ?_, fun job job' planned planned' => ?_⟩, fun others same =>
    prepare?_congr same⟩
  · rw [Bool.eq_iff_iff, isSome_prepare?_iff, isSome_prepare?_iff]
    exact exists_congr fun t => and_congr_right fun member => not_congr (sameEmpty t member)
  · have first := yields_of_prepare? planned
    have second := yields_of_prepare? planned'
    rw [sameOrigins] at second
    have lengths := first.length_eq.symm.trans second.length_eq
    exact ⟨first, second, Nat.succ_inj.mp lengths⟩

/-- A command with a place for its target between quotes, a word that is a value, and a word that
appears with a name. -/
def quotingSpec : LinterSpec :=
  { command := "sh -c 'lint \x7bpath\x7d' \x7bflag\x7d \x7btests=-t\x7d",
    pattern := "(?P<path>f)" }

/-- A flag that is a plain word. -/
def plainFlag : Dict String := .ofList [("flag", "-x")]

/-- A flag with white space, quotes, braces and an equality sign. -/
def quotedFlag : Dict String := .ofList [("flag", "'a' \x7bpath\x7d=")]

open scoped Regex.SizeRule in
/-- Nothing in a flag or a target has a meaning of its own. -/
theorem prepare?_sameShape_quoting : ∃ d, LinterDefinition.ofSpec "lint" quotingSpec = .ok d ∧
    (∀ t ∈ d.args, t.render (lookup plainFlag "f.go") = "" ↔
      t.render (lookup quotedFlag "my \"dir\"") = "") ∧
    SameShape d plainFlag quotedFlag "f.go" "my \"dir\"" ∧
    (prepare? d plainFlag "f.go").map (·.args) = some ["-c", "lint f.go", "-x"] ∧
    (prepare? d quotedFlag "my \"dir\"").map (·.args) =
      some ["-c", "lint my \"dir\"", "'a' \x7bpath\x7d="] := by
  obtain ⟨d, checked, evaluated⟩ : ∃ d, LinterDefinition.ofSpec "lint" quotingSpec = .ok d ∧
      (d.args.all fun t => (t.render (lookup plainFlag "f.go") = "") ==
          (t.render (lookup quotedFlag "my \"dir\"") = ""),
        (prepare? d plainFlag "f.go").map (·.args),
        (prepare? d quotedFlag "my \"dir\"").map (·.args)) =
      (true, some ["-c", "lint f.go", "-x"],
        some ["-c", "lint my \"dir\"", "'a' \x7bpath\x7d="]) :=
    exists_ok_of_map (by decide +kernel)
  obtain ⟨allSame, plain, quoted⟩ : _ ∧ _ ∧ _ := by
    simpa only [Prod.mk.injEq] using evaluated
  have sameEmpty : ∀ t ∈ d.args, t.render (lookup plainFlag "f.go") = "" ↔
      t.render (lookup quotedFlag "my \"dir\"") = "" := fun t member => by
    simpa using List.all_eq_true.mp allSame t member
  have shape := prepare?_sameShape (LinterDefinition.accepted_of_ofSpec checked) sameEmpty
  exact ⟨d, checked, sameEmpty, shape.1, plain, quoted⟩

end Job

end LintRun
