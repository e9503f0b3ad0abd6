import LintRun.Path
import Mathlib.Data.List.DropRight

/-!
# The components of paths

A path is cut into parts at its slashes, and joining the parts gives the path back
(`joinPieces_pieces`). Each part leaves a component, or nothing if it is empty or a dot
(`namesOf`), whatever stands beside it. So the components of a path are known from its parts
(`components_of_isAbsolute`), and those by which a source file is known even without the parts that
leave nothing (`sourceKey_eq`).
-/

set_option autoImplicit false

namespace LintRun.Path

/-! ## Parts -/

theorem pieces_ne_nil (cs : List Char) : pieces cs ≠ [] := by
  induction cs with
  | nil => exact List.cons_ne_nil _ _
  | cons c rest ih =>
    rw [pieces]
    split
    · exact List.cons_ne_nil _ _
    · split <;> exact List.cons_ne_nil _ _

theorem pieces_slash (rest : List Char) : pieces ('/' :: rest) = [] :: pieces rest := by
  rw [pieces, if_pos rfl]

theorem pieces_letter {c : Char} (letter : c ≠ '/') {rest piece : List Char}
    {more : List (List Char)} (split : pieces rest = piece :: more) :
    pieces (c :: rest) = (c :: piece) :: more := by
  rw [pieces, if_neg letter, split]

theorem joinPieces_cons (piece : List Char) {more : List (List Char)} (several : more ≠ []) :
    joinPieces (piece :: more) = piece ++ '/' :: joinPieces more := by
  rw [joinPieces, List.intercalate_cons_of_ne_nil several, List.append_assoc]
  rfl

theorem joinPieces_letter (c : Char) (piece : List Char) (more : List (List Char)) :
    joinPieces ((c :: piece) :: more) = c :: joinPieces (piece :: more) := by
  cases more with
  | nil => rw [joinPieces, joinPieces, List.intercalate_singleton, List.intercalate_singleton]
  | cons next rest =>
    rw [joinPieces_cons _ (List.cons_ne_nil next rest),
      joinPieces_cons _ (List.cons_ne_nil next rest)]
    rfl

/-- Joining the parts of a text gives the text back. -/
theorem joinPieces_pieces (cs : List Char) : joinPieces (pieces cs) = cs := by
  induction cs with
  | nil => rfl
  | cons c rest ih =>
    by_cases slash : c = '/'
    · rw [slash, pieces_slash, joinPieces_cons [] (pieces_ne_nil rest), ih]
      rfl
    · obtain ⟨piece, more, split⟩ := List.exists_cons_of_ne_nil (pieces_ne_nil rest)
      rw [pieces_letter slash split, joinPieces_letter, ← split, ih]

/-- No part has a slash in it. -/
theorem slash_not_mem_of_mem_pieces {cs piece : List Char} (member : piece ∈ pieces cs) :
    '/' ∉ piece := by
  induction cs generalizing piece with
  | nil =>
    rw [List.mem_singleton.mp member]
    exact List.not_mem_nil
  | cons c rest ih =>
    by_cases slash : c = '/'
    · rw [slash, pieces_slash] at member
      rcases List.mem_cons.mp member with rfl | later
      · exact List.not_mem_nil
      · exact ih later
    · obtain ⟨first, more, split⟩ := List.exists_cons_of_ne_nil (pieces_ne_nil rest)
      rw [pieces_letter slash split] at member
      rw [split] at ih
      rcases List.mem_cons.mp member with rfl | later
      · intro inside
        rcases List.mem_cons.mp inside with same | inFirst
        · exact slash same.symm
        · exact ih List.mem_cons_self inFirst
      · exact ih (List.mem_cons_of_mem first later)

theorem pieces_clean {piece : List Char} (clean : '/' ∉ piece) : pieces piece = [piece] := by
  induction piece with
  | nil => rfl
  | cons c rest ih =>
    obtain ⟨letter, cleanRest⟩ := List.ne_and_not_mem_of_not_mem_cons clean
    exact pieces_letter (Ne.symm letter) (ih cleanRest)

/-- A slash stands between parts and in none of them. -/
theorem pieces_append_slash (before after : List Char) :
    pieces (before ++ '/' :: after) = pieces before ++ pieces after := by
  induction before with
  | nil => exact pieces_slash after
  | cons c before ih =>
    by_cases slash : c = '/'
    · rw [slash, List.cons_append, pieces_slash, pieces_slash, ih, List.cons_append]
    · obtain ⟨piece, more, split⟩ := List.exists_cons_of_ne_nil (pieces_ne_nil before)
      rw [split] at ih
      exact (pieces_letter slash ih).trans
        (congrArg (· ++ pieces after) (pieces_letter slash split).symm)

/-- Parts without slashes are found again when they have been joined. -/
theorem pieces_joinPieces {parts : List (List Char)} (nonempty : parts ≠ [])
    (clean : ∀ piece ∈ parts, '/' ∉ piece) : pieces (joinPieces parts) = parts := by
  induction parts with
  | nil => exact absurd rfl nonempty
  | cons piece more ih =>
    have cleanPiece := clean piece List.mem_cons_self
    by_cases single : more = []
    · rw [single, joinPieces, List.intercalate_singleton, pieces_clean cleanPiece]
    · rw [joinPieces_cons piece single, pieces_append_slash, pieces_clean cleanPiece,
        ih single fun other later => clean other (List.mem_cons_of_mem piece later)]
      rfl

/-! ## What parts leave -/

theorem componentOf_cases (piece : List Char) :
    componentOf piece = .up ∨ ∃ text, componentOf piece = .name text := by
  rw [componentOf]
  split
  · exact .inl rfl
  · exact .inr ⟨_, rfl⟩

theorem componentOf_injective : Function.Injective componentOf := by
  intro piece other same
  rw [componentOf, componentOf] at same
  split at same <;> split at same
  · rename_i dots dots'
    rw [dots, dots']
  · cases same
  · cases same
  · exact String.ofList_injective (Component.name.inj same)

variable {parts others : List (List Char)} {piece : List Char} {path : String}

/-- The parts that leave a component. -/
def properParts (parts : List (List Char)) : List (List Char) :=
  parts.filter (!isTrivial ·)

/-- The components that the parts of a path leave, apart from the start of the path. -/
def namesOf (parts : List (List Char)) : List Component :=
  (properParts parts).map componentOf

theorem namesOf_append (parts others : List (List Char)) :
    namesOf (parts ++ others) = namesOf parts ++ namesOf others := by
  rw [namesOf, properParts, List.filter_append, List.map_append]
  rfl

theorem namesOf_cons_of_isTrivial (trivial : isTrivial piece = true) :
    namesOf (piece :: parts) = namesOf parts := by
  rw [namesOf, properParts, List.filter_cons_of_neg (by rw [trivial]; exact Bool.false_ne_true)]
  rfl

theorem namesOf_cons (proper : isTrivial piece = false) :
    namesOf (piece :: parts) = componentOf piece :: namesOf parts := by
  rw [namesOf, properParts, List.filter_cons_of_pos (by rw [proper]; rfl)]
  rfl

theorem namesOf_eq_nil (trivial : ∀ piece ∈ parts, isTrivial piece = true) :
    namesOf parts = [] := by
  rw [namesOf, properParts, List.filter_eq_nil_iff.mpr fun piece member => ?_]
  · rfl
  · rw [trivial piece member]
    exact Bool.false_ne_true

theorem namesOf_dropWhile (parts : List (List Char)) :
    namesOf (parts.dropWhile isTrivial) = namesOf parts := by
  conv_rhs => rw [← List.takeWhile_append_dropWhile (p := isTrivial) (l := parts), namesOf_append,
    namesOf_eq_nil fun piece member => List.mem_takeWhile_imp member, List.nil_append]

theorem trimPieces_eq (parts : List (List Char)) : trimPieces parts = parts.rdropWhile isTrivial :=
  rfl

theorem namesOf_trimPieces (parts : List (List Char)) :
    namesOf (trimPieces parts) = namesOf parts := by
  conv_rhs => rw [← List.rdropWhile_append_rtakeWhile (p := isTrivial) (l := parts),
    namesOf_append, namesOf_eq_nil fun piece member => List.mem_rtakeWhile_imp member,
    List.append_nil, ← trimPieces_eq]

theorem namesOf_dropNames (n : Nat) (parts : List (List Char)) :
    namesOf (dropNames n parts) = (namesOf parts).drop n := by
  induction parts generalizing n with
  | nil => cases n <;> rfl
  | cons piece parts ih =>
    cases n with
    | zero => rfl
    | succ n =>
      rw [dropNames]
      split
      · rename_i trivial
        rw [ih, namesOf_cons_of_isTrivial trivial]
      · rename_i proper
        rw [ih, namesOf_cons (Bool.eq_false_iff.mpr proper), List.drop_succ_cons]

theorem dropNames_suffix (n : Nat) (parts : List (List Char)) : dropNames n parts <:+ parts := by
  induction parts generalizing n with
  | nil => cases n <;> exact List.suffix_rfl
  | cons piece parts ih =>
    cases n with
    | zero => exact List.suffix_rfl
    | succ n =>
      rw [dropNames]
      split
      · exact (ih _).trans (List.suffix_cons _ _)
      · exact (ih _).trans (List.suffix_cons _ _)

/-- No component that a part leaves is the start of a path. -/
theorem ne_start_of_mem_namesOf {component : Component} (member : component ∈ namesOf parts) :
    component ≠ .root ∧ component ≠ .here := by
  obtain ⟨piece, -, rfl⟩ := List.mem_map.mp member
  rcases componentOf_cases piece with up | ⟨text, named⟩
  · exact up ▸ ⟨Component.noConfusion, Component.noConfusion⟩
  · exact named ▸ ⟨Component.noConfusion, Component.noConfusion⟩

theorem filter_here_namesOf (parts : List (List Char)) :
    (namesOf parts).filter (· ≠ .here) = namesOf parts :=
  List.filter_eq_self.mpr fun _ member => decide_eq_true (ne_start_of_mem_namesOf member).2

/-! ## Parts and slashes -/

theorem namesOf_pieces_slash (after : List Char) :
    namesOf (pieces ('/' :: after)) = namesOf (pieces after) := by
  rw [pieces_slash, namesOf_cons_of_isTrivial rfl]

theorem namesOf_pieces_joinPieces (clean : ∀ piece ∈ parts, '/' ∉ piece) :
    namesOf (pieces (joinPieces parts)) = namesOf parts := by
  by_cases none : parts = []
  · rw [none]
    rfl
  · rw [pieces_joinPieces none clean]

/-! ## The start of a path -/

theorem toList_of_isAbsolute (absolute : isAbsolute path = true) :
    path.toList = '/' :: path.toList.drop 1 := by
  rw [isAbsolute, beq_iff_eq, List.head?_eq_some_iff] at absolute
  obtain ⟨rest, split⟩ := absolute
  rw [split]
  rfl

/-- The components of an absolute path. -/
theorem components_of_isAbsolute (absolute : isAbsolute path = true) :
    components path = .root :: namesOf (pieces path.toList) := by
  rw [components, absolute, if_pos rfl]
  rfl

/-- Parts make up a relative path if the first of them leaves a component. -/
theorem isAbsolute_joinPieces {piece : List Char} {more : List (List Char)}
    (proper : isTrivial piece = false) (clean : '/' ∉ piece) :
    isAbsolute (.ofList (joinPieces (piece :: more))) = false := by
  cases piece with
  | nil => cases proper
  | cons c rest =>
    have letter : c ≠ '/' := (List.ne_and_not_mem_of_not_mem_cons clean).1.symm
    rw [isAbsolute, String.toList_ofList, joinPieces_letter, List.head?_cons]
    simpa using letter

theorem isAbsolute_iff_head? : isAbsolute path = true ↔ (components path).head? = some .root := by
  cases absolute : isAbsolute path with
  | true => exact iff_of_true rfl (by rw [components_of_isAbsolute absolute, List.head?_cons])
  | false =>
    refine iff_of_false Bool.false_ne_true fun root => ?_
    rw [components, absolute, if_neg Bool.false_ne_true] at root
    split at root
    · cases root
    · exact (ne_start_of_mem_namesOf (List.mem_of_head? root)).1 rfl

/-- A source file is known by the start of its path, if it is absolute, and by what its parts
leave. -/
theorem sourceKey_eq (path : String) : sourceKey path =
    (if isAbsolute path then [.root] else []) ++ namesOf (pieces path.toList) := by
  rw [sourceKey, components]
  change List.filter _ (_ ++ namesOf (pieces path.toList)) = _
  rw [List.filter_append, filter_here_namesOf]
  congr 1
  split
  · rfl
  · split <;> rfl

theorem isAbsolute_iff_root_mem : isAbsolute path = true ↔ .root ∈ sourceKey path := by
  rw [sourceKey_eq, List.mem_append]
  constructor
  · intro absolute
    rw [if_pos absolute]
    exact .inl (List.mem_singleton_self _)
  · rintro (start | name)
    · split at start
      · assumption
      · exact absurd start List.not_mem_nil
    · exact absurd rfl (ne_start_of_mem_namesOf name).1

/-- An absolute path has no dot at its start. -/
theorem components_eq_sourceKey (absolute : isAbsolute path = true) :
    components path = sourceKey path := by
  rw [components_of_isAbsolute absolute, sourceKey_eq, if_pos absolute]
  rfl

end LintRun.Path
