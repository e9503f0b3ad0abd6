import LintRun.Proofs.Path.Components

/-!
# Spellings of paths

A path can be spelled in several ways: with slashes repeated, with a slash at the end or with dots
for parts. A path is **plain** when it has none of these, so that every part of it leaves a
component. Plain paths that are known as one source file are spelled alike (`eq_of_sourceKey`), and
a plain path stays plain when it is seen from a directory (`isPlain_relativize`).
-/

set_option autoImplicit false

namespace LintRun.Path

/-! ## Plain paths -/

/-- The parts of a path, without the slash at the start of an absolute one. -/
def partsOf (path : String) : List (List Char) :=
  pieces (if isAbsolute path then path.toList.drop 1 else path.toList)

/-- Whether every part of a path leaves a component. -/
def isPlain (path : String) : Bool :=
  (partsOf path).all (!isTrivial ·)

variable {path other : String}

theorem partsOf_of_isAbsolute (absolute : isAbsolute path = true) :
    partsOf path = pieces (path.toList.drop 1) := by
  rw [partsOf, if_pos absolute]

theorem partsOf_of_not_isAbsolute (relative : isAbsolute path = false) :
    partsOf path = pieces path.toList := by
  rw [partsOf, relative]
  rfl

theorem not_isTrivial_of_isPlain (plain : isPlain path = true) :
    ∀ piece ∈ partsOf path, isTrivial piece = false := by
  intro piece member
  simpa using List.all_eq_true.mp plain piece member

theorem namesOf_of_plain {parts : List (List Char)}
    (plain : ∀ piece ∈ parts, isTrivial piece = false) : namesOf parts = parts.map componentOf := by
  have whole : properParts parts = parts :=
    List.filter_eq_self.mpr fun piece member => by rw [plain piece member]; rfl
  rw [namesOf, whole]

/-- A plain path is known as a source file by the components of its parts. -/
theorem sourceKey_of_isPlain (plain : isPlain path = true) : sourceKey path =
    (if isAbsolute path then [.root] else []) ++ (partsOf path).map componentOf := by
  rw [sourceKey_eq, ← namesOf_of_plain (not_isTrivial_of_isPlain plain)]
  refine congrArg _ ?_
  cases absolute : isAbsolute path with
  | true =>
    rw [toList_of_isAbsolute absolute, namesOf_pieces_slash, partsOf_of_isAbsolute absolute]
  | false => rw [partsOf_of_not_isAbsolute absolute]

/-- A path is made of its parts and, if it is absolute, the slash at its start. -/
theorem toList_eq (path : String) :
    path.toList = (if isAbsolute path then ['/'] else []) ++ joinPieces (partsOf path) := by
  cases absolute : isAbsolute path with
  | true =>
    rw [partsOf_of_isAbsolute absolute, joinPieces_pieces]
    exact toList_of_isAbsolute absolute
  | false =>
    rw [partsOf_of_not_isAbsolute absolute, joinPieces_pieces]
    rfl

/-- **Plain paths that are known as one source file are spelled alike.** -/
theorem eq_of_sourceKey (plain : isPlain path = true) (plain' : isPlain other = true)
    (sameFile : sourceKey path = sourceKey other) : path = other := by
  have sameStart : isAbsolute path = isAbsolute other := by
    rw [Bool.eq_iff_iff, isAbsolute_iff_root_mem, isAbsolute_iff_root_mem, sameFile]
  rw [sourceKey_of_isPlain plain, sourceKey_of_isPlain plain', sameStart] at sameFile
  have sameParts : partsOf path = partsOf other :=
    (List.map_inj_right fun _ _ same => componentOf_injective same).mp
      (List.append_cancel_left sameFile)
  refine String.toList_injective ?_
  rw [toList_eq path, toList_eq other, sameStart, sameParts]

/-! ## Paths seen from a directory -/

theorem dropNames_of_plain {parts : List (List Char)}
    (plain : ∀ piece ∈ parts, isTrivial piece = false) (n : Nat) :
    dropNames n parts = parts.drop n := by
  induction parts generalizing n with
  | nil => cases n <;> rfl
  | cons piece rest ih =>
    cases n with
    | zero => rfl
    | succ n =>
      rw [dropNames, plain piece List.mem_cons_self]
      exact ih (fun other later => plain other (List.mem_cons_of_mem piece later)) n

theorem dropWhile_isTrivial_of_plain {parts : List (List Char)}
    (plain : ∀ piece ∈ parts, isTrivial piece = false) : parts.dropWhile isTrivial = parts := by
  cases parts with
  | nil => rfl
  | cons piece rest => rw [List.dropWhile_cons, plain piece List.mem_cons_self]; rfl

theorem trimPieces_of_plain {parts : List (List Char)}
    (plain : ∀ piece ∈ parts, isTrivial piece = false) : trimPieces parts = parts := by
  rw [trimPieces, dropWhile_isTrivial_of_plain fun piece member =>
    plain piece (List.mem_reverse.mp member), List.reverse_reverse]

/-- Parts that are not trivial make up a plain relative path. -/
theorem isPlain_joinPieces {parts : List (List Char)} (nonempty : parts ≠ [])
    (plain : ∀ piece ∈ parts, isTrivial piece = false) (clean : ∀ piece ∈ parts, '/' ∉ piece) :
    isPlain (.ofList (joinPieces parts)) = true := by
  have relative : isAbsolute (.ofList (joinPieces parts)) = false := by
    obtain ⟨piece, more, rfl⟩ := List.exists_cons_of_ne_nil nonempty
    exact isAbsolute_joinPieces (plain piece List.mem_cons_self) (clean piece List.mem_cons_self)
  rw [isPlain, partsOf_of_not_isAbsolute relative, String.toList_ofList,
    pieces_joinPieces nonempty clean, List.all_eq_true]
  intro piece member
  rw [plain piece member]
  rfl

/-- **A plain path is plain as seen from any directory.** -/
theorem isPlain_relativize (directory : String) (plain : isPlain path = true) :
    isPlain (relativize directory path) = true := by
  have all := not_isTrivial_of_isPlain plain
  rw [relativize]
  cases absolute : isAbsolute path with
  | false => exact plain
  | true =>
    rw [if_pos rfl, stripDirectory?]
    rw [partsOf_of_isAbsolute absolute] at all
    cases root : components directory with
    | nil =>
      simp only
      rw [trimPieces_of_plain all, joinPieces_pieces, ← toList_of_isAbsolute absolute,
        String.ofList_toList]
      split <;> exact plain
    | cons first rest =>
      simp only
      by_cases below : (first :: rest).isPrefixOf (components path) = true
      · -- What is left of the parts is a plain path of its own, or nothing.
        have left : ∀ piece ∈ (pieces (path.toList.drop 1)).drop rest.length,
            isTrivial piece = false := fun piece member => all piece (List.mem_of_mem_drop member)
        rw [if_pos below, List.length_cons, Nat.add_sub_cancel, dropNames_of_plain all,
          dropWhile_isTrivial_of_plain left, trimPieces_of_plain left]
        dsimp only
        split
        · exact plain
        · rename_i nonempty
          refine isPlain_joinPieces (fun none => nonempty ?_) left fun piece member =>
            slash_not_mem_of_mem_pieces (List.mem_of_mem_drop member)
          rw [none]
          rfl
      · rw [if_neg below]
        exact plain

end LintRun.Path
