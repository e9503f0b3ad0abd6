import Mathlib.Data.List.Chain
import LintRun.Proofs.Template.Grammar

/-!
# Reading and writing templates

The parts of a template are **joined** when no literal part among them is empty and no two literal
parts are adjacent. What is read as parts is joined, since all literal text before a placeholder
becomes one part (`isJoined_of_reads`). Joined parts that are well-formed can be read
(`reads_of_isJoined`), and a text is written by only one list of parts that can be read. So reading
and writing are inverse to each other (`parse_write_inverse`).
-/

set_option autoImplicit false

namespace LintRun

/-- Whether a part is literal text. -/
def Segment.IsLiteral : Segment → Prop
  | .literal _ => True
  | _ => False

instance : DecidablePred Segment.IsLiteral
  | .literal _ => inferInstanceAs (Decidable True)
  | .value _ | .conditional .. => inferInstanceAs (Decidable False)

instance : DecidablePred Segment.IsWellFormed
  | .literal text => inferInstanceAs (Decidable (Text.Braceless text.toList))
  | .value name => inferInstanceAs (Decidable (Segment.value name).IsPlaceholder)
  | .conditional name text =>
    inferInstanceAs (Decidable (Segment.conditional name text).IsPlaceholder)

theorem Segment.not_isLiteral_of_isPlaceholder {s : Segment} (placeholder : s.IsPlaceholder) :
    ¬ s.IsLiteral := by
  cases s with
  | literal text => exact absurd placeholder id
  | value name => exact id
  | conditional name text => exact id

namespace Template

open Text

variable {text : String} {cs : List Char} {s : Segment} {segments rest : List Segment}

/-- Whether no literal part is empty and no two literal parts are adjacent. -/
structure IsJoined (segments : List Segment) : Prop where
  nonempty : .literal "" ∉ segments
  separated : segments.IsChain fun a b => ¬ (a.IsLiteral ∧ b.IsLiteral)

theorem literalSegments_toList (nonempty : text ≠ "") :
    literalSegments text.toList = [.literal text] := by
  rw [literalSegments, if_neg (mt String.toList_eq_nil_iff.mp nonempty), String.ofList_toList]

/-- Characters make one literal part, which is not empty, or none. -/
theorem literalSegments_cases (cs : List Char) :
    literalSegments cs = [] ∨ ∃ text, text ≠ "" ∧ literalSegments cs = [.literal text] := by
  by_cases empty : cs = []
  · exact .inl (if_pos empty)
  · refine .inr ⟨.ofList cs, ?_, if_neg empty⟩
    rwa [ne_eq, ← String.toList_eq_nil_iff, String.toList_ofList]

theorem isJoined_literalSegments (cs : List Char) : IsJoined (literalSegments cs) := by
  rcases literalSegments_cases cs with none | ⟨text, nonempty, one⟩
  · rw [none]
    exact ⟨List.not_mem_nil, .nil⟩
  · rw [one]
    refine ⟨fun member => nonempty ?_, .singleton _⟩
    exact (Segment.literal.inj (List.mem_singleton.mp member)).symm

/-- A placeholder may stand before any parts that are joined. -/
theorem IsJoined.placeholder (joined : IsJoined rest) (placeholder : s.IsPlaceholder) :
    IsJoined (s :: rest) where
  nonempty member := by
    rcases List.mem_cons.mp member with rfl | later
    · exact placeholder
    · exact joined.nonempty later
  separated := joined.separated.cons fun _ _ both =>
    Segment.not_isLiteral_of_isPlaceholder placeholder both.1

/-- Literal text may stand before joined parts that begin with no literal part. -/
theorem IsJoined.literalSegments_append (joined : IsJoined (s :: rest)) (other : ¬ s.IsLiteral)
    (cs : List Char) : IsJoined (literalSegments cs ++ s :: rest) where
  nonempty member := by
    rcases List.mem_append.mp member with before | later
    · exact (isJoined_literalSegments cs).nonempty before
    · exact joined.nonempty later
  separated := by
    refine (isJoined_literalSegments cs).separated.append joined.separated
      fun a _ b first both => ?_
    obtain rfl := Option.some.inj first
    exact other both.2

theorem isJoined_of_reads (reads : Reads segments) : IsJoined segments := by
  induction reads with
  | last _ => exact isJoined_literalSegments _
  | @placeholder before s rest _ placeholder _ ih =>
    exact (ih.placeholder placeholder).literalSegments_append
      (Segment.not_isLiteral_of_isPlaceholder placeholder) before

/-- Literal text can be read before parts that begin with no literal part. -/
theorem Reads.literal (reads : Reads rest) (other : ∀ s ∈ rest.head?, ¬ s.IsLiteral)
    (braceless : Braceless text.toList) (nonempty : text ≠ "") :
    Reads (.literal text :: rest) := by
  have alone := literalSegments_toList nonempty
  cases reads with
  | @last after _ =>
    rcases literalSegments_cases after with none | ⟨_, _, one⟩
    · rw [none, ← alone]
      exact .last braceless
    · rw [one] at other
      exact absurd trivial (other _ rfl)
  | @placeholder before s rest unopened placeholder reads =>
    rcases literalSegments_cases before with none | ⟨_, _, one⟩
    · rw [none, List.nil_append, ← List.singleton_append, ← alone]
      exact .placeholder braceless.1 placeholder reads
    · rw [one] at other
      exact absurd trivial (other _ rfl)

/-- **Joined parts that are well-formed can be read.** -/
theorem reads_of_isJoined (joined : IsJoined segments)
    (wellFormed : ∀ s ∈ segments, s.IsWellFormed) :
    Reads segments := by
  induction segments with
  | nil => exact @Reads.last [] (by decide)
  | cons s rest ih =>
    have ofHead := wellFormed s List.mem_cons_self
    have reads : Reads rest :=
      ih ⟨fun member => joined.nonempty (List.mem_cons_of_mem s member), joined.separated.tail⟩
        fun other later => wellFormed other (List.mem_cons_of_mem s later)
    cases s with
    | literal text =>
      refine reads.literal (fun next first isLiteral => ?_) ofHead fun empty => ?_
      · exact joined.separated.rel_head? first ⟨trivial, isLiteral⟩
      · exact joined.nonempty (empty ▸ List.mem_cons_self)
    | value name => exact @Reads.placeholder [] (.value name) rest List.not_mem_nil ofHead reads
    | conditional name text =>
      exact @Reads.placeholder [] (.conditional name text) rest List.not_mem_nil ofHead reads

/-- What a text is read as: its own parts that can be read, and the text itself. -/
theorem parse_eq_ok_iff {source : String} {t : Template} :
    parse source = .ok t ↔ t.source = source ∧ Reads t.segments ∧ write t.segments = source := by
  constructor
  · intro parsed
    obtain ⟨segments, read, made⟩ := exists_ok_of_bind parsed
    obtain rfl := Except.ok.inj made
    obtain ⟨reads, written⟩ := readSegments_eq_ok_iff.mp read
    exact ⟨rfl, reads, String.toList_injective written⟩
  · obtain ⟨text, segments⟩ := t
    rintro ⟨same, reads, written⟩
    obtain rfl : text = source := same
    obtain rfl : write segments = text := written
    rw [parse, readSegments_of_reads reads]
    rfl

/-- **Reading and writing are inverse to each other.** The parts that an accepted text is read as
are joined and write the text. Joined parts that are well-formed are what the text is read as that
they write. -/
theorem parse_write_inverse (source : String) (segments : List Segment) :
    (∀ t, parse source = .ok t → write t.segments = source ∧ IsJoined t.segments) ∧
    (IsJoined segments → (∀ s ∈ segments, s.IsWellFormed) →
      parse (write segments) = .ok { source := write segments, segments }) := by
  constructor
  · intro t read
    obtain ⟨-, reads, written⟩ := parse_eq_ok_iff.mp read
    exact ⟨written, isJoined_of_reads reads⟩
  · intro joined wellFormed
    exact parse_eq_ok_iff.mpr ⟨rfl, reads_of_isJoined joined wellFormed, rfl⟩

/-- A command with a placeholder between two texts, and a text that appears with a name and has
equality signs of its own. -/
def checkCommand : List Segment :=
  [.literal "check ", .value "path", .conditional "tests" " =-t=", .literal " ="]

/-- The command is read from what it writes, and what is read of that writes it again. -/
theorem parse_write_checkCommand :
    IsJoined checkCommand ∧ (∀ s ∈ checkCommand, s.IsWellFormed) ∧
      parse (write checkCommand) = .ok { source := write checkCommand, segments := checkCommand } ∧
      ∃ t, parse (write checkCommand) = .ok t ∧ write t.segments = write checkCommand ∧
        IsJoined t.segments := by
  have joined : IsJoined checkCommand := ⟨by decide, by decide⟩
  have wellFormed : ∀ s ∈ checkCommand, s.IsWellFormed := by decide
  have read := (parse_write_inverse "" checkCommand).2 joined wellFormed
  exact ⟨joined, wellFormed, read, _, read, (parse_write_inverse _ checkCommand).1 _ read⟩

end Template

end LintRun
