import LintRun.Proofs.Path.Components

/-!
# Paths put together

A relative path that is joined to a directory leads on from the components of the directory
(`components_join`). So a path that is seen from a directory, joined to it again, has the components
that it had (`components_join_relativize`): it loses the components of the directory if it is
strictly below it (`sourceKey_relativize`), and else nothing at all (`relativize_eq_self`).

A source file is known by components that are spelled and read back (`sourceKey_ofComponents`).
-/

set_option autoImplicit false

namespace LintRun.Path

variable {parts others : List (List Char)} {piece : List Char} {directory path rest : String}

/-! ## Joined paths -/

theorem join_of_isAbsolute (absolute : isAbsolute path = true) : join directory path = path := by
  rw [join, if_pos absolute]

/-- A relative path keeps its parts when it is joined to a directory. -/
theorem exists_pieces_join (directory : String) (relative : isAbsolute path = false) :
    ∃ front, pieces (join directory path).toList = front ++ pieces path.toList ∧
      namesOf front = namesOf (pieces directory.toList) := by
  rw [join, relative, if_neg Bool.false_ne_true]
  split
  · rename_i ended
    rcases Bool.or_eq_true_iff.mp ended with empty | slash
    · obtain rfl : directory = "" := of_decide_eq_true empty
      exact ⟨[], by rw [String.empty_append]; rfl, rfl⟩
    · obtain ⟨before, split⟩ := List.getLast?_eq_some_iff.mp (eq_of_beq slash)
      refine ⟨pieces before, ?_, ?_⟩
      · rw [String.toList_append, split, List.append_assoc]
        exact pieces_append_slash before path.toList
      · rw [split, pieces_append_slash, namesOf_append]
        exact (List.append_nil _).symm
  · refine ⟨pieces directory.toList, ?_, rfl⟩
    rw [String.toList_append, String.toList_append, List.append_assoc]
    exact pieces_append_slash directory.toList path.toList

theorem namesOf_join (directory : String) (relative : isAbsolute path = false) :
    namesOf (pieces (join directory path).toList) =
      namesOf (pieces directory.toList) ++ namesOf (pieces path.toList) := by
  obtain ⟨front, split, same⟩ := exists_pieces_join directory relative
  rw [split, namesOf_append, same]

theorem isAbsolute_join (absolute : isAbsolute directory = true) (path : String) :
    isAbsolute (join directory path) = true := by
  rw [join]
  split
  · assumption
  · have start := toList_of_isAbsolute absolute
    split
    · rw [isAbsolute, String.toList_append, start]
      rfl
    · rw [isAbsolute, String.toList_append, String.toList_append, start]
      rfl

/-- A relative path leads on from the directory to which it is joined. -/
theorem components_join (absolute : isAbsolute directory = true)
    (relative : isAbsolute path = false) :
    components (join directory path) = components directory ++ sourceKey path := by
  rw [components_of_isAbsolute (isAbsolute_join absolute path), namesOf_join directory relative,
    components_of_isAbsolute absolute, sourceKey_eq, relative]
  rfl

/-! ## Paths seen from a directory -/

/-- Whether a path leads on from a directory, component by component. -/
def StrictlyBelow (directory path : String) : Prop :=
  ∃ below, below ≠ [] ∧ components path = components directory ++ below

/-- The parts of a path without those at both ends that leave no component. -/
def trimmed (parts : List (List Char)) : List (List Char) :=
  trimPieces (parts.dropWhile isTrivial)

theorem subset_trimmed (parts : List (List Char)) : trimmed parts ⊆ parts := fun _ member =>
  (List.dropWhile_suffix isTrivial).subset ((List.rdropWhile_prefix isTrivial _).subset member)

theorem namesOf_trimmed (parts : List (List Char)) : namesOf (trimmed parts) = namesOf parts :=
  (namesOf_trimPieces _).trans (namesOf_dropWhile parts)

theorem isTrivial_head_trimmed {more : List (List Char)} (same : trimmed parts = piece :: more) :
    isTrivial piece = false := by
  obtain ⟨others, begins⟩ := List.rdropWhile_prefix isTrivial (parts.dropWhile isTrivial)
  rw [← trimPieces_eq, ← trimmed, same] at begins
  have first := List.head_dropWhile_not isTrivial (l := parts) (begins ▸ List.cons_ne_nil piece _)
  simpa only [← begins, List.cons_append, List.head_cons] using first

theorem isAbsolute_trimmed (clean : ∀ piece ∈ parts, '/' ∉ piece) :
    isAbsolute (.ofList (joinPieces (trimmed parts))) = false := by
  cases same : trimmed parts with
  | nil => rfl
  | cons piece more =>
    have member : piece ∈ parts := subset_trimmed parts (same ▸ List.mem_cons_self)
    exact isAbsolute_joinPieces (isTrivial_head_trimmed same) (clean piece member)

/-- If no component is left, nothing is. -/
theorem trimmed_eq_nil (none : namesOf parts = []) : trimmed parts = [] := by
  cases same : trimmed parts with
  | nil => rfl
  | cons piece more =>
    rw [← namesOf_trimmed, same, namesOf_cons (isTrivial_head_trimmed same)] at none
    cases none

section Stripped

variable (absolute : isAbsolute path = true)
  (stripped : stripDirectory? directory path = some rest)

include absolute stripped

/-- From a directory without components an absolute path is seen as it is, but for its end. -/
theorem stripDirectory?_of_nil (start : components directory = []) : isAbsolute rest = true ∧
    components rest = components path ∧ stripDirectory? directory rest = some rest := by
  rw [stripDirectory?, start] at stripped
  obtain rfl := Option.some.inj stripped
  set trimmed := trimPieces (pieces (path.toList.drop 1)) with trim
  have clean : ∀ piece ∈ trimmed, '/' ∉ piece := fun piece member =>
    slash_not_mem_of_mem_pieces ((List.rdropWhile_prefix isTrivial _).subset member)
  have absolute' : isAbsolute (.ofList ('/' :: joinPieces trimmed)) = true := by
    rw [isAbsolute, String.toList_ofList]
    rfl
  refine ⟨absolute', ?_, ?_⟩
  · rw [components_of_isAbsolute absolute', components_of_isAbsolute absolute,
      toList_of_isAbsolute absolute, String.toList_ofList, namesOf_pieces_slash,
      namesOf_pieces_slash, namesOf_pieces_joinPieces clean, trim, namesOf_trimPieces]
  · have again : trimPieces (pieces (joinPieces trimmed)) = trimmed := by
      by_cases none : trimmed = []
      · rw [none]
        rfl
      · rw [pieces_joinPieces none clean, trim]
        exact List.rdropWhile_idempotent _ _
    rw [stripDirectory?, start, String.toList_ofList]
    exact congrArg (fun parts => some (String.ofList ('/' :: joinPieces parts))) again

/-- From any other directory an absolute path is seen as a relative one that leads on from the
directory. -/
theorem stripDirectory?_of_ne_nil (start : components directory ≠ []) :
    isAbsolute directory = true ∧ isAbsolute rest = false ∧
      components path = components directory ++ sourceKey rest ∧
      (sourceKey rest = [] → rest = "") := by
  obtain ⟨first, others, start⟩ := List.exists_cons_of_ne_nil start
  rw [stripDirectory?, start] at stripped
  dsimp only at stripped
  rw [List.length_cons, Nat.add_sub_cancel] at stripped
  split at stripped
  · rename_i below
    obtain ⟨left, split⟩ := List.isPrefixOf_iff_prefix.mp below
    have root : isAbsolute directory = true := by
      rw [isAbsolute_iff_head?] at absolute ⊢
      rw [start, List.head?_cons]
      rwa [← split] at absolute
    have names : namesOf (pieces (path.toList.drop 1)) = others ++ left := by
      rw [components_of_isAbsolute absolute, toList_of_isAbsolute absolute,
        namesOf_pieces_slash, List.cons_append] at split
      exact (List.cons.inj split).2.symm
    obtain ⟨parts, dropped⟩ :
      ∃ parts, parts = dropNames others.length (pieces (path.toList.drop 1)) := ⟨_, rfl⟩
    have remains : namesOf parts = left := by
      rw [dropped, namesOf_dropNames, names, List.drop_left]
    have clean : ∀ piece ∈ parts, '/' ∉ piece := fun piece member =>
      slash_not_mem_of_mem_pieces ((dropNames_suffix _ _).subset (dropped ▸ member))
    rw [← dropped, ← trimmed] at stripped
    obtain rfl := Option.some.inj stripped
    have relative := isAbsolute_trimmed clean
    have known : sourceKey (.ofList (joinPieces (trimmed parts))) = left := by
      have cleanTrimmed : ∀ piece ∈ trimmed parts, '/' ∉ piece := fun piece member =>
        clean piece (subset_trimmed parts member)
      rw [sourceKey_eq, relative, String.toList_ofList, namesOf_pieces_joinPieces cleanTrimmed,
        namesOf_trimmed, remains]
      rfl
    refine ⟨root, relative, ?_, fun none => ?_⟩
    · rw [start, known, split]
    · rw [trimmed_eq_nil (remains.trans (known.symm.trans none))]
      rfl
  · cases stripped

end Stripped

/-- **A path is as it was unless it is strictly below the directory from which it is seen.** -/
theorem relativize_eq_self (other : isAbsolute path = false ∨ ¬ StrictlyBelow directory path) :
    relativize directory path = path := by
  rw [relativize]
  split
  · rename_i absolute
    have apart := other.resolve_left (by rw [absolute]; exact Bool.noConfusion)
    cases stripped : stripDirectory? directory path with
    | none => rfl
    | some rest =>
      dsimp only
      split
      · rfl
      · rename_i nonempty
        refine absurd ?_ apart
        by_cases start : components directory = []
        · refine ⟨components path, ?_, by rw [start, List.nil_append]⟩
          rw [components_of_isAbsolute absolute]
          exact List.cons_ne_nil _ _
        · obtain ⟨-, -, split, empty⟩ := stripDirectory?_of_ne_nil absolute stripped start
          exact ⟨sourceKey rest, fun none => nonempty (empty none), split⟩
  · rfl

/-- What a path can be as seen from a directory: itself, an absolute path with the same components
that stays as it is, or a relative path that leads on from the directory. -/
theorem relativize_cases (directory path : String) :
    relativize directory path = path ∨
    (isAbsolute (relativize directory path) = true ∧
      components (relativize directory path) = components path ∧
      relativize directory (relativize directory path) = relativize directory path) ∨
    (isAbsolute directory = true ∧ isAbsolute (relativize directory path) = false ∧
      components path = components directory ++ sourceKey (relativize directory path) ∧
      sourceKey (relativize directory path) ≠ []) := by
  rw [relativize]
  split
  · rename_i absolute
    cases stripped : stripDirectory? directory path with
    | none => exact .inl rfl
    | some rest =>
      dsimp only
      split
      · exact .inl rfl
      · rename_i nonempty
        refine .inr ?_
        by_cases start : components directory = []
        · obtain ⟨absolute', same, again⟩ := stripDirectory?_of_nil absolute stripped start
          refine .inl ⟨absolute', same, ?_⟩
          rw [relativize, if_pos absolute', again]
          exact if_neg nonempty
        · obtain ⟨root, relative, split, empty⟩ :=
            stripDirectory?_of_ne_nil absolute stripped start
          exact .inr ⟨root, relative, split, fun none => nonempty (empty none)⟩
  · exact .inl rfl

/-- A path stays as it is when it is seen from the directory once more. -/
theorem relativize_relativize (directory path : String) :
    relativize directory (relativize directory path) = relativize directory path := by
  rcases relativize_cases directory path with same | ⟨-, -, again⟩ | ⟨-, relative, -⟩
  · rw [same, same]
  · exact again
  · exact relativize_eq_self (.inl relative)

/-- **Seen from a directory and joined to it again, a path has the components that it had.** -/
theorem components_join_relativize (directory path : String) :
    components (join directory (relativize directory path)) =
      components (join directory path) := by
  rcases relativize_cases directory path with
    same | ⟨absolute, same, -⟩ | ⟨root, relative, leads, -⟩
  · rw [same]
  · have absolute' : isAbsolute path = true := by
      rwa [isAbsolute_iff_head?, ← same, ← isAbsolute_iff_head?]
    rw [join_of_isAbsolute absolute, join_of_isAbsolute absolute', same]
  · have absolute : isAbsolute path = true := by
      rw [isAbsolute_iff_head?, leads, components_of_isAbsolute root]
      rfl
    rw [components_join root relative, join_of_isAbsolute absolute, leads]

/-- **A path strictly below a directory loses the components of the directory.** -/
theorem sourceKey_relativize {below : List Component} (absolute : isAbsolute directory = true)
    (leads : components path = components directory ++ below) (strictly : below ≠ []) :
    sourceKey (relativize directory path) = below := by
  have absolute' : isAbsolute path = true := by
    rw [isAbsolute_iff_head?, leads, components_of_isAbsolute absolute]
    rfl
  have start : components directory ≠ [] := by
    rw [components_of_isAbsolute absolute]
    exact List.cons_ne_nil _ _
  obtain ⟨rest, stripped⟩ : ∃ rest, stripDirectory? directory path = some rest := by
    rw [stripDirectory?]
    split
    · exact ⟨_, rfl⟩
    · rw [if_pos (List.isPrefixOf_iff_prefix.mpr ⟨below, leads.symm⟩)]
      exact ⟨_, rfl⟩
  obtain ⟨-, -, split, -⟩ := stripDirectory?_of_ne_nil absolute' stripped start
  have key : sourceKey rest = below := List.append_cancel_left (split.symm.trans leads)
  have nonempty : rest ≠ "" := by
    rintro rfl
    exact strictly key.symm
  rw [relativize, if_pos absolute', stripped]
  dsimp only
  rw [if_neg nonempty, key]

/-! ## The ends of paths -/

/-- Whether a path ends in a name and not in a slash or a dot. -/
def EndsInName (path : String) : Prop :=
  ∀ piece ∈ (pieces path.toList).getLast?, isTrivial piece = false

theorem endsInName_join (ended : EndsInName path) (directory : String) :
    EndsInName (join directory path) := by
  cases absolute : isAbsolute path with
  | true => rwa [join_of_isAbsolute absolute]
  | false =>
    obtain ⟨front, split, -⟩ := exists_pieces_join directory absolute
    rw [EndsInName, split, List.getLast?_append_of_ne_nil _ (pieces_ne_nil _)]
    exact ended

theorem endsInName_joinPieces (clean : ∀ piece ∈ parts, '/' ∉ piece) (some_part : parts ≠ [])
    (ended : ∀ piece ∈ parts.getLast?, isTrivial piece = false) :
    EndsInName (.ofList (joinPieces parts)) := by
  rwa [EndsInName, String.toList_ofList, pieces_joinPieces some_part clean]

theorem endsInName_relativize (ended : EndsInName path) (directory : String) :
    EndsInName (relativize directory path) := by
  rw [relativize]
  split
  · rename_i absolute
    cases stripped : stripDirectory? directory path with
    | none => exact ended
    | some rest =>
      dsimp only
      split
      · exact ended
      · rename_i nonempty
        rw [stripDirectory?] at stripped
        split at stripped
        · obtain rfl := Option.some.inj stripped
          have whole : trimPieces (pieces (path.toList.drop 1)) = pieces (path.toList.drop 1) := by
            refine List.rdropWhile_eq_self_iff.mpr fun some_part => ?_
            rw [EndsInName, toList_of_isAbsolute absolute, pieces_slash,
              List.getLast?_cons_of_ne_nil some_part] at ended
            rw [ended _ (List.getLast?_eq_some_getLast some_part)]
            exact Bool.false_ne_true
          rwa [whole, joinPieces_pieces, ← toList_of_isAbsolute absolute, String.ofList_toList]
        · split at stripped
          · obtain rfl := Option.some.inj stripped
            refine endsInName_joinPieces (fun piece member => ?_) (fun none => ?_) ?_
            · exact slash_not_mem_of_mem_pieces
                ((dropNames_suffix _ _).subset (subset_trimmed _ member))
            · exact nonempty (by rw [none]; rfl)
            · intro piece last
              obtain ⟨some_part, rfl⟩ := List.mem_getLast?_eq_getLast last
              exact Bool.eq_false_iff.mpr (List.rdropWhile_last_not _ _ some_part)
          · cases stripped
  · exact ended

/-! ## Components that are spelled -/

/-- Whether some components are those of a path without a dot at its start. -/
def IsKey (key : List Component) : Prop :=
  ∃ parts : List (List Char), (∀ piece ∈ parts, '/' ∉ piece) ∧
    (key = namesOf parts ∨ key = .root :: namesOf parts)

theorem isKey_sourceKey (path : String) : IsKey (sourceKey path) := by
  refine ⟨pieces path.toList, fun piece member => slash_not_mem_of_mem_pieces member, ?_⟩
  rw [sourceKey_eq]
  split
  · exact .inr rfl
  · exact .inl rfl

theorem text_componentOf (piece : List Char) : (componentOf piece).text = .ofList piece := by
  rw [componentOf]
  split
  · rename_i dots
    rw [dots]
    rfl
  · rfl

theorem namesOf_properParts (parts : List (List Char)) :
    namesOf (properParts parts) = namesOf parts := by
  rw [namesOf, properParts, properParts, List.filter_filter]
  simp only [Bool.and_self, namesOf, properParts]

theorem isTrivial_of_mem_properParts (member : piece ∈ properParts parts) :
    isTrivial piece = false := by
  have kept := (List.mem_filter.mp member).2
  simpa using kept

theorem intercalate_namesOf (parts : List (List Char)) :
    "/".intercalate ((namesOf parts).map Component.text) =
      .ofList (joinPieces (properParts parts)) := by
  have texts : ((namesOf parts).map Component.text).map String.toList = properParts parts := by
    rw [namesOf, List.map_map, List.map_map]
    refine (List.map_congr_left fun piece _ => ?_).trans (List.map_id _)
    rw [Function.comp_apply, Function.comp_apply, text_componentOf, String.toList_ofList]
    rfl
  refine String.toList_injective ?_
  rw [String.toList_intercalate, texts]
  exact String.toList_ofList.symm

theorem ofComponents_namesOf (parts : List (List Char)) :
    ofComponents (namesOf parts) = .ofList (joinPieces (properParts parts)) := by
  rw [← intercalate_namesOf]
  unfold ofComponents
  split
  · rename_i same
    have member : Component.root ∈ namesOf parts := same ▸ List.mem_cons_self
    exact absurd rfl (ne_start_of_mem_namesOf member).1
  · rfl

theorem ofComponents_root (parts : List (List Char)) :
    ofComponents (.root :: namesOf parts) = .ofList ('/' :: joinPieces (properParts parts)) := by
  rw [ofComponents, intercalate_namesOf]
  exact String.toList_injective (by rw [String.toList_append]; simp)

/-- Components are spelled as an absolute path if the first of them is the start of one. -/
theorem isAbsolute_ofComponents_iff {key : List Component} (isKey : IsKey key) :
    isAbsolute (ofComponents key) = true ↔ .root ∈ key := by
  obtain ⟨parts, clean, rfl | rfl⟩ := isKey
  · refine iff_of_false ?_ fun root => (ne_start_of_mem_namesOf root).1 rfl
    rw [ofComponents_namesOf, Bool.not_eq_true]
    cases same : properParts parts with
    | nil => rfl
    | cons piece more =>
      have member : piece ∈ properParts parts := same ▸ List.mem_cons_self
      exact isAbsolute_joinPieces (isTrivial_of_mem_properParts member)
        (clean piece (List.mem_of_mem_filter member))
  · refine iff_of_true ?_ List.mem_cons_self
    rw [ofComponents_root, isAbsolute, String.toList_ofList]
    rfl

/-- **Components are read back from the path that is spelled with them.** -/
theorem sourceKey_ofComponents {key : List Component} (isKey : IsKey key) :
    sourceKey (ofComponents key) = key := by
  have start := isAbsolute_ofComponents_iff isKey
  obtain ⟨parts, clean, ofParts⟩ := isKey
  have cleanParts : ∀ piece ∈ properParts parts, '/' ∉ piece := fun piece member =>
    clean piece (List.mem_of_mem_filter member)
  rw [sourceKey_eq]
  rcases ofParts with rfl | rfl
  · rw [if_neg fun absolute => (ne_start_of_mem_namesOf (start.mp absolute)).1 rfl,
      ofComponents_namesOf, String.toList_ofList, namesOf_pieces_joinPieces cleanParts,
      namesOf_properParts, List.nil_append]
  · rw [if_pos (start.mpr List.mem_cons_self), ofComponents_root, String.toList_ofList,
      namesOf_pieces_slash, namesOf_pieces_joinPieces cleanParts, namesOf_properParts]
    rfl

/-- A path that is spelled with a name ends in one. -/
theorem endsInName_ofComponents {key : List Component} (isKey : IsKey key)
    (named : ∃ component ∈ key, component ≠ .root) : EndsInName (ofComponents key) := by
  obtain ⟨parts, clean, ofParts⟩ := isKey
  have some_part : properParts parts ≠ [] := by
    obtain ⟨component, member, other⟩ := named
    have left : component ∈ namesOf parts := by
      rcases ofParts with rfl | rfl
      · exact member
      · exact (List.mem_cons.mp member).resolve_left other
    exact fun none => List.not_mem_nil (none ▸ left : component ∈ ([] : List _).map componentOf)
  have ended : EndsInName (.ofList (joinPieces (properParts parts))) :=
    endsInName_joinPieces (fun piece member => clean piece (List.mem_of_mem_filter member))
      some_part fun piece last => isTrivial_of_mem_properParts (List.mem_of_getLast? last)
  rcases ofParts with rfl | rfl
  · rwa [ofComponents_namesOf]
  · rw [EndsInName, String.toList_ofList] at ended
    rwa [ofComponents_root, EndsInName, String.toList_ofList, pieces_slash,
      List.getLast?_cons_of_ne_nil (pieces_ne_nil _)]

end LintRun.Path
