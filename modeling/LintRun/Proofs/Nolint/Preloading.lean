import LintRun.Proofs.Lists
import LintRun.Proofs.Nolint.SourceKeys
import LintRun.Proofs.Path.Order
import Mathlib

/-!
# Files that are read ahead

A file below the root of a run can be **spelled** in many ways (`Path.Spells`): absolute, under the
root, or relative to it, and with any number of slashes and dots. It is read ahead of the issues in
it if it is found at a target, and it is found (`FoundAt`) that is the file itself or the
directory that it is in, whichever way either is spelled.

However the linters and the targets spell it, a file that is read ahead is known by the same key as
the file of an issue (`sourceKey_mem_sourceFiles`). Otherwise directives that have been used would
be found unused.
-/

set_option autoImplicit false

namespace LintRun

namespace Path

variable {root path file : String} {names : List String}

/-! ## Spellings below a root -/

/-- Whether a text is the name of a file or directory, as a component of a path. -/
structure IsName (name : String) : Prop where
  clean : '/' ∉ name.toList
  nonempty : name ≠ ""
  notDot : name ≠ "."
  notDots : name ≠ ".."

/-- The parts of a path that leave a component, as texts. -/
def texts (path : String) : List String :=
  (properParts (pieces path.toList)).map .ofList

/-- Whether a path spells the way along some names from a root: under the root if it is absolute,
or relative to it. -/
def Spells (root path : String) (names : List String) : Prop :=
  texts path = (if isAbsolute path then texts root else []) ++ names

/-- The components of names. -/
def keyOf (names : List String) : List Component :=
  names.map .name

theorem IsName.isTrivial (isName : IsName file) : Path.isTrivial file.toList = false := by
  have other : file.toList ≠ [] ∧ file.toList ≠ ['.'] :=
    ⟨fun same => isName.nonempty (String.toList_injective same),
      fun same => isName.notDot (String.toList_injective same)⟩
  simpa [Path.isTrivial] using other

theorem componentOf_of_isName (isName : IsName file) : componentOf file.toList = .name file := by
  have other : file.toList ≠ ['.', '.'] := fun same =>
    isName.notDots (String.toList_injective same)
  rw [componentOf, if_neg other, String.ofList_toList]

theorem namesOf_eq (path : String) :
    namesOf (pieces path.toList) = (texts path).map fun text => componentOf text.toList := by
  rw [texts, List.map_map, namesOf]
  exact List.map_congr_left fun piece _ => by rw [Function.comp_apply, String.toList_ofList]

theorem map_componentOf (normal : ∀ name ∈ names, IsName name) :
    (names.map fun text => componentOf text.toList) = keyOf names :=
  List.map_congr_left fun name member => componentOf_of_isName (normal name member)

theorem keyOf_ne_nil (some_name : names ≠ []) : keyOf names ≠ [] :=
  mt List.map_eq_nil_iff.mp some_name

section Spells

variable (absolute : isAbsolute root = true) (normal : ∀ name ∈ names, IsName name)
  (spells : Spells root path names)

include absolute normal spells

/-- Joined to the root, every spelling has the components of the root and then the names. -/
theorem components_join_of_spells :
    components (join root path) = components root ++ keyOf names := by
  have parts := congrArg (List.map fun text => componentOf text.toList) spells
  rw [← namesOf_eq, List.map_append, map_componentOf normal] at parts
  cases start : isAbsolute path with
  | true =>
    rw [start, if_pos rfl, ← namesOf_eq] at parts
    rw [join_of_isAbsolute start, components_of_isAbsolute start, components_of_isAbsolute absolute,
      parts, List.cons_append]
  | false =>
    rw [start, if_neg Bool.false_ne_true, List.map_nil, List.nil_append] at parts
    rw [components_join absolute start, sourceKey_eq, start, parts]
    rfl

/-- Every spelling is known by the names as it is seen from the root. -/
theorem sourceKey_relativize_of_spells (some_name : names ≠ []) :
    sourceKey (relativize root path) = keyOf names := by
  have leads := components_join_of_spells absolute normal spells
  cases start : isAbsolute path with
  | true =>
    rw [join_of_isAbsolute start] at leads
    exact sourceKey_relativize absolute leads (keyOf_ne_nil some_name)
  | false =>
    rw [components_join absolute start] at leads
    rw [relativize_eq_self (.inl start)]
    exact List.append_cancel_left leads

end Spells

/-- An absolute path with these components is a spelling under the root. -/
theorem spells_of_components (absolute : isAbsolute root = true)
    (absolute' : isAbsolute path = true) (normal : ∀ name ∈ names, IsName name)
    (leads : components path = components root ++ keyOf names) : Spells root path names := by
  rw [components_of_isAbsolute absolute, components_of_isAbsolute absolute', List.cons_append]
    at leads
  have parts := (List.cons.inj leads).2
  rw [namesOf_eq, namesOf_eq, ← map_componentOf normal, ← List.map_append] at parts
  have injective : Function.Injective fun text : String => componentOf text.toList :=
    fun _ _ same => String.toList_injective (componentOf_injective same)
  rw [Spells, absolute', if_pos rfl]
  exact (List.map_inj_right fun _ _ same => injective same).mp parts

/-- A name leads on from a directory. -/
theorem components_join_name (absolute : isAbsolute path = true) (isName : IsName file) :
    components (join path file) = components path ++ [.name file] := by
  have relative : isAbsolute file = false := by
    have single : isAbsolute (.ofList (joinPieces [file.toList])) = false :=
      isAbsolute_joinPieces isName.isTrivial isName.clean
    rwa [joinPieces, List.intercalate_singleton, String.ofList_toList] at single
  rw [components_join absolute relative, sourceKey_eq, relative, pieces_clean isName.clean,
    namesOf_cons isName.isTrivial, componentOf_of_isName isName]
  rfl

end Path

namespace NolintFilter

variable {filesAt : String → List String} {root target path : String} {targets : List String}
  {names dirs : List String} {file : String} {key : SourceKey}

/-! ## What targets list -/

/-- Whether a file below the root, in a directory along some names, is found at a target. -/
inductive FoundAt (filesAt : String → List String) (root target : String) (dirs : List String)
    (file : String) : Prop where
  /-- The target is the file. -/
  | itself (spells : Path.Spells root target (dirs ++ [file]))
      (found : filesAt (Path.join root target) = [Path.join root target])
  /-- The target is the directory, and the names of its files are put behind it. -/
  | among (files : List String) (spells : Path.Spells root target dirs)
      (found : filesAt (Path.join root target) = files.map (Path.join (Path.join root target)))
      (member : file ∈ files)

theorem mem_sourceFiles_iff : key ∈ sourceFiles filesAt root targets ↔
    ∃ target ∈ targets, ∃ path ∈ filesAt (Path.join root target), keyBelow root path = key := by
  rw [sourceFiles, List.mem_mergeSort, List.mem_eraseDups, List.mem_map]
  simp only [List.mem_flatMap]
  constructor
  · rintro ⟨path, ⟨target, asked, found⟩, rfl⟩
    exact ⟨target, asked, path, found, rfl⟩
  · rintro ⟨target, asked, path, found, rfl⟩
    exact ⟨path, ⟨target, asked, found⟩, rfl⟩

theorem filter_here_keyOf (names : List String) :
    (Path.keyOf names).filter (· ≠ .here) = Path.keyOf names := by
  refine List.filter_eq_self.mpr fun component member => decide_eq_true ?_
  obtain ⟨name, -, rfl⟩ := List.mem_map.mp member
  exact Path.Component.noConfusion

theorem keyBelow_of_leads
    (leads : Path.components path = Path.components root ++ Path.keyOf names) :
    keyBelow root path = Path.keyOf names := by
  have below : (Path.components root).isPrefixOf (Path.components path) = true :=
    List.isPrefixOf_iff_prefix.mpr ⟨_, leads.symm⟩
  rw [keyBelow, if_pos below, leads, List.drop_left, filter_here_keyOf]

/-- What a path leaves below the root can be spelled. -/
theorem isKey_keyBelow (absolute : Path.isAbsolute root = true) (path : String) :
    Path.IsKey (keyBelow root path) := by
  rw [keyBelow]
  split
  · rename_i below
    obtain ⟨left, split⟩ := List.isPrefixOf_iff_prefix.mp below
    have absolute' : Path.isAbsolute path = true := by
      rw [Path.isAbsolute_iff_head?, ← split, Path.components_of_isAbsolute absolute]
      rfl
    have remains : left = Path.namesOf (Path.dropNames
        (Path.namesOf (Path.pieces root.toList)).length (Path.pieces path.toList)) := by
      rw [Path.components_of_isAbsolute absolute, Path.components_of_isAbsolute absolute',
        List.cons_append] at split
      rw [Path.namesOf_dropNames, ← (List.cons.inj split).2, List.drop_left]
    rw [← split, List.drop_left, remains, Path.filter_here_namesOf]
    exact ⟨_, fun piece member => Path.slash_not_mem_of_mem_pieces
      ((Path.dropNames_suffix _ _).subset member), .inl rfl⟩
  · exact Path.isKey_sourceKey path

/-- A target at which a file is found gives a path of the file, which is known by its names. -/
theorem FoundAt.exists_path (foundAt : FoundAt filesAt root target dirs file)
    (absolute : Path.isAbsolute root = true) (normal : ∀ name ∈ dirs ++ [file], Path.IsName name) :
    ∃ path ∈ filesAt (Path.join root target), Path.isAbsolute path = true ∧
      Path.components path = Path.components root ++ Path.keyOf (dirs ++ [file]) := by
  have absolute' := Path.isAbsolute_join absolute target
  cases foundAt with
  | itself spells found =>
    refine ⟨_, found ▸ List.mem_singleton_self _, absolute', ?_⟩
    exact Path.components_join_of_spells absolute normal spells
  | among files spells found member =>
    refine ⟨Path.join (Path.join root target) file, found ▸ List.mem_map_of_mem member,
      Path.isAbsolute_join absolute' file, ?_⟩
    rw [Path.components_join_name absolute' (normal file List.mem_concat_self),
      Path.components_join_of_spells absolute
        (fun name member => normal name (List.mem_append_left _ member)) spells,
      List.append_assoc, Path.keyOf, Path.keyOf, List.map_append]
    rfl

/-- Source files are listed once, in the order of their paths. -/
theorem sourceFiles_ascending (filesAt : String → List String) (root : String)
    (targets : List String) : (sourceFiles filesAt root targets).Pairwise fun a b =>
      Path.compareComponents a b = .lt :=
  Lists.strictly_ascending_mergeSort Path.compareComponents (Lists.nodup_eraseDups _)

/-- **A file that is read ahead is known by the same key as the file of an issue.** However the
linters and the targets spell the file, it is listed once, by this key, and every key is that of
its own spelling. -/
theorem sourceKey_mem_sourceFiles {p : Policy} (absolute : Path.isAbsolute p.root = true)
    (normal : ∀ name ∈ dirs ++ [file], Path.IsName name) (asked : target ∈ targets)
    (foundAt : FoundAt filesAt p.root target dirs file) :
    (∃ listed ∈ filesAt (Path.join p.root target), Path.Spells p.root listed (dirs ++ [file]) ∧
      keyBelow p.root listed ∈ sourceFiles filesAt p.root targets ∧
      ∀ printed, Path.Spells p.root printed (dirs ++ [file]) →
        Path.sourceKey (OutputReader.reportedPath p printed) = keyBelow p.root listed) ∧
    (sourceFiles filesAt p.root targets).count (Path.keyOf (dirs ++ [file])) = 1 ∧
    (sourceFiles filesAt p.root targets).Pairwise (fun a b => Path.compareComponents a b = .lt) ∧
    ∀ key ∈ sourceFiles filesAt p.root targets, Path.sourceKey (Path.ofComponents key) = key := by
  have ascending := sourceFiles_ascending filesAt p.root targets
  obtain ⟨listed, found, absolute', leads⟩ := foundAt.exists_path absolute normal
  have known := keyBelow_of_leads leads
  have member : Path.keyOf (dirs ++ [file]) ∈ sourceFiles filesAt p.root targets :=
    mem_sourceFiles_iff.mpr ⟨target, asked, listed, found, known⟩
  refine ⟨⟨listed, found, Path.spells_of_components absolute absolute' normal leads,
    known ▸ member, fun printed spells => ?_⟩, ?_, ascending, fun key listed => ?_⟩
  · rw [known, OutputReader.reportedPath]
    exact Path.sourceKey_relativize_of_spells absolute normal spells (List.concat_ne_nil _ _)
  · exact List.count_eq_one_of_mem (Lists.nodup_of_strictly_ascending ascending) member
  · obtain ⟨_, _, path, _, rfl⟩ := mem_sourceFiles_iff.mp listed
    exact Path.sourceKey_ofComponents (isKey_keyBelow absolute path)

/-- A directory with a file in it. -/
def host : Host where
  tree := { nodes := [(["work"], .directory), (["work", "pkg"], .directory),
    (["work", "pkg", "a.go"], .file [])] }
  here := ["work"]

theorem foundAt_directory : FoundAt host.filesAt "/work" ".//pkg/" ["pkg"] "a.go" := by
  have joined : Path.join "/work" ".//pkg/" = "/work/.//pkg/" := by decide
  refine .among ["a.go"] ?_ ?_ List.mem_cons_self
  · unfold Path.Spells
    decide
  · rw [joined, List.map_singleton]
    cbv

open scoped Regex.SizeRule in
theorem sourceKey_mem_sourceFiles_slashes : ∃ p,
    ({ root := some "/work" } : PolicyBuilder).build {} = .ok p ∧
    FoundAt host.filesAt "/work" ".//pkg/" ["pkg"] "a.go" ∧
    Path.sourceKey (OutputReader.reportedPath p "/work/./pkg//a.go") ∈
      sourceFiles host.filesAt "/work" ["..", ".//pkg/"] := by
  obtain ⟨p, built, atRoot⟩ := OutputReader.exists_rooted
  have normal : ∀ name ∈ ["pkg"] ++ ["a.go"], Path.IsName name :=
    List.forall_mem_cons.mpr ⟨⟨by decide, by decide, by decide, by decide⟩,
      List.forall_mem_singleton.mpr ⟨by decide, by decide, by decide, by decide⟩⟩
  have absolute : Path.isAbsolute p.root = true := by
    rw [atRoot]
    decide
  obtain ⟨⟨listed, -, -, member, known⟩, -⟩ := sourceKey_mem_sourceFiles absolute normal
    (List.mem_cons_of_mem ".." List.mem_cons_self) (atRoot ▸ foundAt_directory)
  rw [atRoot] at member known
  refine ⟨p, built, foundAt_directory, ?_⟩
  rw [known "/work/./pkg//a.go" (by unfold Path.Spells; decide)]
  exact member

end NolintFilter

end LintRun
