import LintRun.Proofs.Job.Origins

/-!
# Where the target is in a command line

A target has its place in a command line where a word of the command has the placeholder for it. It
stands behind the words when the command does not refer to it at all. The condition of a part that
appears with the target refers to it too, although the target does not stand there: it is a
reference without a place.

Every opening brace in a word opens a placeholder of the template (`exists_placeholder_of_opened`),
so what the templates of a command refer to can be seen in its text. The target is in the command
line of every job, in its place or behind the words, exactly when the text of the command has a
place for it or no condition on it (`targetIn_iff`). Otherwise the linter is not told its target
(`target_left_out`).
-/

set_option autoImplicit false

namespace LintRun

namespace Template

open Text

variable {segments : List Segment} {s : Segment} {name : String} {c : Char}

/-! ## The text of a placeholder -/

/-- Every opening brace in a written template opens a placeholder. -/
theorem exists_placeholder_of_opened (reads : Reads segments) {before after : List Char}
    (opened : (write segments).toList = before ++ '{' :: after) :
    ∃ first s rest, segments = first ++ s :: rest ∧ s.IsPlaceholder ∧
      s.write.toList ++ (write rest).toList = '{' :: after := by
  induction reads generalizing before with
  | @last text braceless =>
    rw [toList_write_literalSegments] at opened
    rw [opened] at braceless
    exact absurd (List.mem_append_right before List.mem_cons_self) braceless.1
  | @placeholder text s rest unopened placeholder _ ih =>
    obtain ⟨inner, braceless, written⟩ := exists_inner placeholder
    rw [toList_write_append, toList_write_literalSegments, toList_write_cons] at opened
    obtain ⟨between, -, behindText⟩ := exists_cut_of_append unopened opened
    cases between with
    | nil => exact ⟨literalSegments text, s, rest, rfl, placeholder, behindText⟩
    | cons c between =>
      rw [written] at behindText
      have unopenedInner : '{' ∉ inner ++ ['}'] := by simpa using braceless.1
      obtain ⟨later, -, inRest⟩ := exists_cut_of_append unopenedInner (List.cons.inj behindText).2
      obtain ⟨first, other, others, rfl, isPlaceholder, same⟩ := ih inRest
      exact ⟨literalSegments text ++ s :: first, other, others, by simp, isPlaceholder, same⟩

/-- A name ends where the first other character stands. -/
theorem name_unique {first second : List Char} {c d : Char} {after after' : List Char}
    (ofFirst : ∀ x ∈ first, IsNameLetter x) (ofSecond : ∀ x ∈ second, IsNameLetter x)
    (other : ¬ IsNameLetter c) (other' : ¬ IsNameLetter d)
    (same : first ++ c :: after = second ++ d :: after') : first = second ∧ c = d := by
  induction first generalizing second with
  | nil =>
    cases second with
    | nil => exact ⟨rfl, (List.cons.inj same).1⟩
    | cons y second =>
      obtain ⟨rfl, -⟩ := List.cons.inj same
      exact absurd (ofSecond c List.mem_cons_self) other
  | cons x first ih =>
    cases second with
    | nil =>
      obtain ⟨rfl, -⟩ := List.cons.inj same
      exact absurd (ofFirst x List.mem_cons_self) other'
    | cons y second =>
      obtain ⟨rfl, sameRest⟩ := List.cons.inj same
      obtain ⟨rfl, sameEnd⟩ := ih (fun z later => ofFirst z (List.mem_cons_of_mem x later))
        (fun z later => ofSecond z (List.mem_cons_of_mem x later)) sameRest
      exact ⟨rfl, sameEnd⟩

/-- What a placeholder of a name looks like up to the character that ends the name: a closing brace
if it stands for the value, and an equality sign if it is a condition. -/
def Opens (name : String) (c : Char) : Segment → Prop
  | .literal _ => False
  | .value other => other = name ∧ c = '}'
  | .conditional other _ => other = name ∧ c = '='

theorem opens_of_write (valid : IsPlaceholderName name) (other : ¬ IsNameLetter c)
    (placeholder : s.IsPlaceholder) {rest after : List Char}
    (written : s.write.toList ++ rest = '{' :: (name.toList ++ c :: after)) : Opens name c s := by
  cases s with
  | literal text => exact placeholder
  | value name' =>
    have isName : IsPlaceholderName name' := placeholder
    rw [toList_write_value, List.cons_append, List.append_assoc] at written
    obtain ⟨sameName, sameEnd⟩ := name_unique isName.2 valid.2 (by decide) other
      (List.cons.inj written).2
    exact ⟨String.toList_injective sameName, sameEnd.symm⟩
  | conditional name' text =>
    have isName : IsPlaceholderName name' := placeholder.1
    rw [toList_write_conditional, List.cons_append, List.append_assoc, List.append_assoc] at written
    obtain ⟨sameName, sameEnd⟩ := name_unique isName.2 valid.2 (by decide) other
      (List.cons.inj written).2
    exact ⟨String.toList_injective sameName, sameEnd.symm⟩

theorem infix_of_opens (opens : Opens name c s) :
    '{' :: (name.toList ++ [c]) <:+: s.write.toList := by
  cases s with
  | literal text => exact absurd opens id
  | value other =>
    obtain ⟨rfl, rfl⟩ := opens
    exact ⟨[], [], by simp [toList_write_value]⟩
  | conditional other text =>
    obtain ⟨rfl, rfl⟩ := opens
    exact ⟨[], text.toList ++ ['}'], by simp [toList_write_conditional]⟩

/-- The placeholders of a name can be seen in the text of a template. -/
theorem exists_opens_iff (reads : Reads segments) (valid : IsPlaceholderName name)
    (other : ¬ IsNameLetter c) :
    (∃ s ∈ segments, Opens name c s) ↔
      '{' :: (name.toList ++ [c]) <:+: (write segments).toList := by
  constructor
  · rintro ⟨s, member, opens⟩
    obtain ⟨first, rest, rfl⟩ := List.append_of_mem member
    rw [toList_write_append, toList_write_cons]
    exact (infix_of_opens opens).trans (List.infix_append' ..)
  · rintro ⟨before, after, inside⟩
    have opened : (write segments).toList = before ++ '{' :: (name.toList ++ c :: after) := by
      rw [← inside]
      simp
    obtain ⟨first, s, rest, rfl, placeholder, written⟩ := exists_placeholder_of_opened reads opened
    exact ⟨s, by simp, opens_of_write valid other placeholder written⟩

end Template

namespace LinterDefinition

open Template

variable {d : LinterDefinition}

/-- Whether a text occurs in a word of the command. -/
def Spells (d : LinterDefinition) (text : String) : Prop :=
  ∃ words, Command.splitWords d.command = some words ∧
    ∃ word ∈ words, text.toList <:+: word.toList

variable [Regex.SizeRule]

/-- The placeholders of a name can be seen in the text of the command. -/
theorem Accepted.spells_iff (accepted : d.Accepted) (name : String) (c : Char) {text : String}
    (valid : IsPlaceholderName name) (other : ¬ IsNameLetter c)
    (spelled : text.toList = '{' :: (name.toList ++ [c])) :
    d.Spells text ↔ ∃ t ∈ d.args, ∃ s ∈ t.segments, Opens name c s := by
  obtain ⟨split, read⟩ := accepted.splitWords
  have inWord : ∀ t ∈ d.args, text.toList <:+: t.source.toList ↔
      ∃ s ∈ t.segments, Opens name c s := by
    intro t member
    obtain ⟨-, reads, written⟩ := parse_eq_ok_iff.mp (read t member)
    rw [exists_opens_iff reads valid other, written, spelled]
  rw [Spells, split]
  constructor
  · rintro ⟨words, same, word, member, inside⟩
    obtain rfl := Option.some.inj same
    obtain ⟨t, ofCommand, rfl⟩ := List.mem_map.mp member
    exact ⟨t, ofCommand, (inWord t ofCommand).mp inside⟩
  · rintro ⟨t, ofCommand, opens⟩
    exact ⟨_, rfl, t.source, List.mem_map_of_mem ofCommand, (inWord t ofCommand).mpr opens⟩

/-- A command has a place for the target where its text has the placeholder. -/
theorem Accepted.spells_place_iff (accepted : d.Accepted) :
    d.Spells "\x7bpath\x7d" ↔ ∃ t ∈ d.args, .value "path" ∈ t.segments := by
  rw [accepted.spells_iff "path" '}' (by decide) (by decide) rfl]
  refine exists_congr fun t => and_congr_right fun _ => ⟨?_, fun place => ⟨_, place, rfl, rfl⟩⟩
  rintro ⟨s, member, opens⟩
  cases s with
  | literal text => exact absurd opens id
  | value name => exact opens.1 ▸ member
  | conditional name text => exact absurd opens.2 (by decide)

/-- A command refers to the target when its text has a place for it or a condition on it. -/
theorem Accepted.references_path_iff (accepted : d.Accepted) :
    d.references "path" = true ↔ d.Spells "\x7bpath\x7d" ∨ d.Spells "\x7bpath=" := by
  rw [accepted.spells_iff "path" '}' (by decide) (by decide) rfl,
    accepted.spells_iff "path" '=' (by decide) (by decide) rfl, ← exists_or,
    references_iff]
  refine exists_congr fun t => ?_
  rw [← and_or_left, ← exists_or, Template.references_iff]
  refine and_congr_right fun _ => exists_congr fun s => ?_
  rw [← and_or_left]
  refine and_congr_right fun _ => ?_
  cases s <;> simp [Segment.name?, Opens]

end LinterDefinition

namespace Job

open LinterDefinition

variable {d : LinterDefinition} {vars : Dict String} {path path' : String} {job : Job}

/-! ## In its place or behind the words -/

/-- What some parts of a word come to. -/
def fill (vars : Dict String) (path : String) (segments : List Segment) : String :=
  String.join (segments.map (Segment.render (lookup vars path)))

/-- How the target of a job is in its command line. -/
structure TargetIn (d : LinterDefinition) (vars : Dict String) (job : Job) : Prop where
  occurs : ∃ element ∈ job.program :: job.args, job.path.toList <:+: element.toList
  /-- The target takes the place of each placeholder for it. -/
  inPlace : ∀ t ∈ d.args, ∀ before after, t.segments = before ++ .value "path" :: after →
    fill vars job.path before ++ job.path ++ fill vars job.path after ∈ job.program :: job.args
  /-- Without a placeholder the target stands behind the words. -/
  behind : ¬ d.Spells "\x7bpath\x7d" →
    job.program :: job.args = words d vars job.path ++ [job.path]

theorem render_place {t : Template} {before after : List Segment}
    (place : t.segments = before ++ .value "path" :: after) :
    t.render (lookup vars path) = fill vars path before ++ path ++ fill vars path after := by
  have here : (Segment.value "path").render (lookup vars path) = path := rfl
  rw [Template.render, place, List.map_append, List.map_cons, String.join_append, String.join_cons,
    here, String.append_assoc, fill, fill]

/-- A word with a place for the target does not come out empty. -/
theorem mem_words_of_place (nonempty : path ≠ "") {t : Template} (ofCommand : t ∈ d.args)
    {before after : List Segment} (place : t.segments = before ++ .value "path" :: after) :
    fill vars path before ++ path ++ fill vars path after ∈ words d vars path := by
  rw [← render_place place]
  refine List.mem_filter.mpr ⟨List.mem_map_of_mem ofCommand, decide_eq_true fun empty => ?_⟩
  rw [render_place place, String.append_eq_empty_iff, String.append_eq_empty_iff] at empty
  exact nonempty empty.1.2

theorem targetIn_of_place [Regex.SizeRule] (accepted : d.Accepted)
    (spelled : d.Spells "\x7bpath\x7d") (nonempty : path ≠ "")
    (planned : prepare? d vars path = some job) : TargetIn d vars job := by
  obtain ⟨-, -, rfl, line⟩ := prepare?_eq_some_iff.mp planned
  obtain ⟨-, elements⟩ := argv?_eq_some_iff.mp line
  have inLine : ∀ element ∈ words d vars job.path, element ∈ job.program :: job.args := by
    rw [elements]
    exact fun _ => List.mem_append_left _
  obtain ⟨t, ofCommand, place⟩ := accepted.spells_place_iff.mp spelled
  obtain ⟨before, after, split⟩ := List.append_of_mem place
  refine ⟨⟨_, inLine _ (mem_words_of_place nonempty ofCommand split), ?_⟩, ?_,
    fun unspelled => absurd spelled unspelled⟩
  · rw [String.toList_append, String.toList_append]
    exact List.infix_append ..
  · intro other ofCommand before after split
    exact inLine _ (mem_words_of_place nonempty ofCommand split)

theorem targetIn_of_no_reference [Regex.SizeRule] (accepted : d.Accepted)
    (unspelled : ¬ d.Spells "\x7bpath\x7d") (unconditional : ¬ d.Spells "\x7bpath=")
    (planned : prepare? d vars path = some job) : TargetIn d vars job := by
  obtain ⟨-, -, rfl, line⟩ := prepare?_eq_some_iff.mp planned
  have unreferenced : ¬ d.references "path" = true := fun refers =>
    (accepted.references_path_iff.mp refers).elim unspelled unconditional
  obtain ⟨-, elements⟩ := argv?_eq_some_iff.mp line
  rw [if_neg unreferenced] at elements
  refine ⟨⟨job.path, ?_, List.infix_rfl⟩, ?_, fun _ => elements⟩
  · rw [elements]
    exact List.mem_append_right _ List.mem_cons_self
  · intro t ofCommand before after place
    refine absurd (accepted.spells_place_iff.mpr ⟨t, ofCommand, ?_⟩) unspelled
    rw [place]
    exact List.mem_append_right _ List.mem_cons_self

/-! ## References without a place -/

/-- A part that is no place for the target tells one target from the other only if one is empty. -/
theorem render_eq_of_no_place {s : Segment} (noPlace : s ≠ .value "path") (nonempty : path ≠ "")
    (nonempty' : path' ≠ "") :
    s.render (lookup vars path) = s.render (lookup vars path') := by
  cases s with
  | literal text => rfl
  | value name =>
    have other : name ≠ "path" := fun same => noPlace (same ▸ rfl)
    simp only [Segment.render, lookup, if_neg other]
  | conditional name text =>
    by_cases here : name = "path"
    · simp only [Segment.render, lookup, if_pos here, if_neg nonempty, if_neg nonempty']
    · simp only [Segment.render, lookup, if_neg here]

/-- A command that refers to the target without a place for it has one command line for all. -/
theorem argv?_eq_of_no_place [Regex.SizeRule] (accepted : d.Accepted)
    (unspelled : ¬ d.Spells "\x7bpath\x7d") (conditional : d.Spells "\x7bpath=")
    (nonempty : path ≠ "") (nonempty' : path' ≠ "") : argv? d vars path = argv? d vars path' := by
  have sameWords : words d vars path = words d vars path' := by
    refine congrArg (List.filter (· ≠ "")) (List.map_congr_left fun t ofCommand => ?_)
    refine congrArg String.join (List.map_congr_left fun s member => ?_)
    refine render_eq_of_no_place (fun place => unspelled ?_) nonempty nonempty'
    exact accepted.spells_place_iff.mpr ⟨t, ofCommand, place ▸ member⟩
  rw [argv?, argv?, sameWords, accepted.references_path_iff.mpr (.inr conditional)]
  rfl

/-- **The target is in the command line of every job that is built, in its place or behind the
words, exactly when the text of the command has a place for it or no condition on it**, or there is
no job at all. Otherwise the command line is the same for all targets. -/
theorem targetIn_iff [Regex.SizeRule] (accepted : d.Accepted) (vars : Dict String) :
    ((∀ path job, path ≠ "" → prepare? d vars path = some job → TargetIn d vars job) ↔
      d.Spells "\x7bpath\x7d" ∨ ¬ d.Spells "\x7bpath=" ∨
        ∀ path, path ≠ "" → prepare? d vars path = none) ∧
    (¬ d.Spells "\x7bpath\x7d" → d.Spells "\x7bpath=" → ∀ path path', path ≠ "" → path' ≠ "" →
      argv? d vars path = argv? d vars path') := by
  refine ⟨⟨fun always => ?_, ?_⟩, fun unspelled conditional path path' nonempty nonempty' =>
    argv?_eq_of_no_place accepted unspelled conditional nonempty nonempty'⟩
  · by_contra! exception
    obtain ⟨unspelled, conditional, path, nonempty, planned⟩ := exception
    obtain ⟨job, planned⟩ := Option.ne_none_iff_exists'.mp planned
    have behind := (always path job nonempty planned).behind unspelled
    obtain ⟨-, -, rfl, line⟩ := prepare?_eq_some_iff.mp planned
    have refers := accepted.references_path_iff.mpr (.inr conditional)
    rw [(argv?_eq_some_iff.mp line).2, if_pos refers, List.append_nil] at behind
    exact List.cons_ne_nil job.path [] (List.self_eq_append_right.mp behind)
  · rintro (spelled | unconditional | none) path job nonempty planned
    · exact targetIn_of_place accepted spelled nonempty planned
    · by_cases spelled : d.Spells "\x7bpath\x7d"
      · exact targetIn_of_place accepted spelled nonempty planned
      · exact targetIn_of_no_reference accepted spelled unconditional planned
    · rw [none path nonempty] at planned
      cases planned

open scoped Regex.SizeRule

/-- The target is in every command line of a command with a place for it between quotes. -/
theorem targetIn_quoting : ∃ d, LinterDefinition.ofSpec "lint" quotingSpec = .ok d ∧
    ∀ path job, path ≠ "" → prepare? d quotedFlag path = some job → TargetIn d quotedFlag job := by
  obtain ⟨d, checked, command⟩ : ∃ d, LinterDefinition.ofSpec "lint" quotingSpec = .ok d ∧
      d.command = quotingSpec.command := exists_ok_of_map (by decide +kernel)
  have spelled : d.Spells "\x7bpath\x7d" := by
    rw [Spells, command]
    exact ⟨["sh", "-c", "lint \x7bpath\x7d", "\x7bflag\x7d", "\x7btests=-t\x7d"],
      by decide, "lint \x7bpath\x7d", by decide, by decide⟩
  exact ⟨d, checked, (targetIn_iff (accepted_of_ofSpec checked) quotedFlag).1.mpr (.inl spelled)⟩

/-- A command with a condition on the target and no place for it. -/
def conditionalSpec : LinterSpec :=
  { command := "lint \x7bpath=-x\x7d", pattern := "(?P<path>f)" }

/-- The target is left out where it is referred to without a place. -/
theorem target_left_out : ∃ d job, LinterDefinition.ofSpec "lint" conditionalSpec = .ok d ∧
    prepare? d ∅ "f.go" = some job ∧ ¬ d.Spells "\x7bpath\x7d" ∧
    ∀ element ∈ job.program :: job.args, ¬ "f.go".toList <:+: element.toList := by
  obtain ⟨d, checked, evaluated⟩ : ∃ d, LinterDefinition.ofSpec "lint" conditionalSpec = .ok d ∧
      (d.command, prepare? d ∅ "f.go") = (conditionalSpec.command,
        some ⟨0, "lint", "f.go", "lint", ["-x"]⟩) := exists_ok_of_map (by decide +kernel)
  obtain ⟨command, planned⟩ := Prod.mk.inj evaluated
  refine ⟨d, _, checked, planned, ?_, by decide⟩
  rintro ⟨words, split, word, member, inside⟩
  have ofCommand : Command.splitWords d.command = some ["lint", "\x7bpath=-x\x7d"] := by
    rw [command]
    decide
  obtain rfl := Option.some.inj (split.symm.trans ofCommand)
  have absent : ∀ word ∈ ["lint", "\x7bpath=-x\x7d"],
      ¬ "\x7bpath\x7d".toList <:+: word.toList := by decide
  exact absent word member inside

end Job

end LintRun
