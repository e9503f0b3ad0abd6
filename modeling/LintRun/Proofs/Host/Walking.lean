import LintRun.Host
import LintRun.Proofs.Path.Joining

/-!
# Where paths lead

A path is followed part by part, and a part that leaves no component is passed where it stands
(`walk_passed`). So absolute paths lead to the same file if they leave the same components
(`readText_congr`), provided that both end in a name: a slash or a dot behind a name asks for a
directory, and a file is none.
-/

set_option autoImplicit false

namespace LintRun

namespace FileTree

variable {t : FileTree} {followLast : Bool} {links : Nat} {here : Place} {part : String}
  {rest rest' : List String}

/-- Whether a part of a path is passed where it stands. -/
def isPassed (part : String) : Bool :=
  part == "" || part == "."

theorem isPassed_iff : isPassed part = true ↔ part = "" ∨ part = "." := by
  rw [isPassed, Bool.or_eq_true, beq_iff_eq, beq_iff_eq]

/-- Whether there is a directory is asked again for the next part. -/
theorem walk_passed (passed : isPassed part = true) (more : rest ≠ []) :
    walk t followLast links here (part :: rest) = walk t followLast links here rest := by
  obtain ⟨next, others, rfl⟩ := List.exists_cons_of_ne_nil more
  rw [walk]
  cases directory : t.isDirectoryAt here with
  | false => rw [walk, directory]; rfl
  | true => rw [Bool.not_true, if_neg Bool.false_ne_true, if_pos (isPassed_iff.mp passed)]

/-- Paths that begin alike and go on in ways that always lead to the same place lead to the same
place. -/
theorem walk_append_congr (front : List String)
    (same : ∀ links here, walk t followLast links here rest = walk t followLast links here rest')
    (ends : rest = [] ↔ rest' = []) (links : Nat) (here : Place) :
    walk t followLast links here (front ++ rest) =
      walk t followLast links here (front ++ rest') := by
  -- A link puts its own path before what is left, so the outer induction is on the links.
  induction links generalizing front here with
  | zero =>
    induction front generalizing here with
    | nil => exact same _ here
    | cons part front ih =>
      have alike : front ++ rest = [] ↔ front ++ rest' = [] := by
        simp only [List.append_eq_nil_iff, ends]
      rw [List.cons_append, List.cons_append, walk, walk]
      simp only [ih, alike]
  | succ links outer =>
    induction front generalizing here with
    | nil => exact same _ here
    | cons part front ih =>
      have alike : front ++ rest = [] ↔ front ++ rest' = [] := by
        simp only [List.append_eq_nil_iff, ends]
      rw [List.cons_append, List.cons_append, walk, walk]
      simp only [ih, alike, ← List.append_assoc, outer]

/-- A path that ends in a name leads where it leads without the parts that are passed. -/
theorem walk_filter (ended : ∀ part ∈ rest.getLast?, isPassed part = false) (links : Nat)
    (here : Place) : walk t followLast links here (rest.filter (!isPassed ·)) =
      walk t followLast links here rest := by
  induction rest generalizing links here with
  | nil => rfl
  | cons part rest ih =>
    by_cases single : rest = []
    · subst single
      rw [List.filter_cons_of_pos (by rw [ended part rfl]; rfl)]
      rfl
    · have endedRest : ∀ part ∈ rest.getLast?, isPassed part = false := fun last member =>
        ended last (by rw [List.getLast?_cons_of_ne_nil single]; exact member)
      obtain ⟨last, isLast⟩ := Option.isSome_iff_exists.mp (List.getLast?_isSome.mpr single)
      have kept : rest.filter (!isPassed ·) ≠ [] := List.ne_nil_of_mem (List.mem_filter.mpr
        ⟨List.mem_of_getLast? isLast, by rw [endedRest last isLast]; rfl⟩)
      cases passed : isPassed part with
      | true =>
        rw [List.filter_cons_of_neg (by rw [passed]; exact Bool.false_ne_true), ih endedRest,
          walk_passed passed single]
      | false =>
        rw [List.filter_cons_of_pos (by rw [passed]; rfl)]
        exact walk_append_congr [part] (ih endedRest) (iff_of_false kept single) links here

/-- After the first part a path is followed from another place, or from behind the path of a
link. -/
theorem walk_cons_cases {place : Place} (more : rest ≠ [])
    (led : walk t followLast links here (part :: rest) = .ok place) :
    (∃ from', walk t followLast links from' rest = .ok place) ∨
    ∃ fewer target from', links = fewer + 1 ∧
      walk t followLast fewer from' (parts target ++ rest) = .ok place := by
  rw [walk] at led
  split at led
  · cases led
  · split at led
    · exact .inl ⟨_, led⟩
    · split at led
      · exact .inl ⟨_, led⟩
      · split at led
        · cases led
        · rw [if_neg fun both => more both.1] at led
          cases links with
          | zero => cases led
          | succ fewer => exact .inr ⟨fewer, _, _, rfl, led⟩
        · exact .inl ⟨_, led⟩

/-- Parts that are passed can stand behind the name of a directory only. -/
theorem isDirectoryAt_of_walk (front : List String) (passed : isPassed part = true) {place : Place}
    (led : walk t followLast links here (front ++ [part]) = .ok place) :
    t.isDirectoryAt place = true := by
  induction links using Nat.strong_induction_on generalizing front here with
  | _ links outer =>
    induction front generalizing here with
    | nil =>
      rw [List.nil_append, walk] at led
      split at led
      · cases led
      · rename_i directory
        rw [if_pos (isPassed_iff.mp passed), walk] at led
        obtain rfl := Except.ok.inj led
        simpa using directory
    | cons first front ih =>
      have more : front ++ [part] ≠ [] :=
        List.append_ne_nil_of_right_ne_nil _ (List.cons_ne_nil _ _)
      rcases walk_cons_cases more led with ⟨_, goesOn⟩ | ⟨fewer, target, _, rfl, goesOn⟩
      · exact ih goesOn
      · rw [← List.append_assoc] at goesOn
        exact outer fewer (Nat.lt_succ_self _) _ goesOn

end FileTree

open LintRun.Path (pieces namesOf isTrivial properParts)

variable {path other : String}

theorem FileTree.isPassed_ofList (piece : List Char) :
    isPassed (.ofList piece) = isTrivial piece := by
  have same (other : List Char) : (String.ofList piece == .ofList other) = (piece == other) := by
    rw [Bool.eq_iff_iff, beq_iff_eq, beq_iff_eq, String.ofList_inj]
  rw [isPassed, isTrivial, ← same, ← same]

theorem FileTree.filter_parts (path : String) : (parts path).filter (!isPassed ·) =
    (properParts (pieces path.toList)).map .ofList := by
  rw [parts, List.filter_map, properParts]
  congr 2
  funext piece
  rw [Function.comp_apply, isPassed_ofList]

/-- An absolute path that ends in a name is followed along its names. -/
theorem FileTree.resolve_of_endsInName (t : FileTree) (directory : Place) (followLast : Bool)
    (absolute : Path.isAbsolute path = true) (ended : Path.EndsInName path) :
    t.resolve directory path followLast =
      t.walk followLast maxLinks [] ((properParts (pieces path.toList)).map .ofList) := by
  have nonempty : path ≠ "" := by
    rintro rfl
    cases absolute
  have endedParts : ∀ part ∈ (parts path).getLast?, isPassed part = false := by
    intro part member
    rw [parts, List.getLast?_map] at member
    obtain ⟨piece, last, rfl⟩ := Option.map_eq_some_iff.mp member
    rw [isPassed_ofList, ended piece last]
  rw [resolve, if_neg nonempty, if_pos absolute, ← filter_parts, walk_filter endedParts]

/-- **Absolute paths with the same components are paths of one file** if they end in names. -/
theorem Host.readText_congr (h : Host) (absolute : Path.isAbsolute path = true)
    (ended : Path.EndsInName path) (ended' : Path.EndsInName other)
    (same : Path.components path = Path.components other) : h.readText path = h.readText other := by
  have absolute' : Path.isAbsolute other = true := by
    rwa [Path.isAbsolute_iff_head?, ← same, ← Path.isAbsolute_iff_head?]
  rw [Path.components_of_isAbsolute absolute, Path.components_of_isAbsolute absolute'] at same
  have sameParts : properParts (pieces path.toList) = properParts (pieces other.toList) :=
    (List.map_inj_right fun _ _ same => Path.componentOf_injective same).mp (List.cons.inj same).2
  rw [readText, FileTree.find?, FileTree.resolve_of_endsInName _ _ _ absolute ended, sameParts,
    ← FileTree.resolve_of_endsInName _ h.here _ absolute' ended', ← FileTree.find?, ← readText]

/-- A path that does not end in a name leads to a directory, if anywhere. -/
theorem FileTree.endsInName_of_find? {t : FileTree} {directory : Place} {node : FileNode}
    (found : t.find? directory path = some node) (other : node ≠ .directory) :
    Path.EndsInName path := by
  intro piece last
  refine Bool.eq_false_iff.mpr fun trivial => other ?_
  obtain ⟨front, split⟩ := List.getLast?_eq_some_iff.mp last
  rw [find?] at found
  cases led : t.resolve directory path true with
  | error fault =>
    rw [led] at found
    cases found
  | ok place =>
    rw [led] at found
    rw [resolve] at led
    split at led
    · cases led
    · rw [parts, split, List.map_append] at led
      have there := isDirectoryAt_of_walk _ ((isPassed_ofList piece).trans trivial) led
      have same : t.node? place = some .directory := eq_of_beq there
      exact Option.some.inj (found.symm.trans same)

/-- A path that can be read ends in a name. -/
theorem Host.endsInName_of_readText {h : Host} {text : String} (read : h.readText path = .ok text) :
    Path.EndsInName path := by
  rw [readText] at read
  cases found : h.tree.find? h.here path with
  | none =>
    rw [found] at read
    cases read
  | some node =>
    refine FileTree.endsInName_of_find? found ?_
    rintro rfl
    rw [found] at read
    cases read

end LintRun
