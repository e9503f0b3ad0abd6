import LintRun.Pipeline
import LintRun.Proofs.Host.Walking
import LintRun.Proofs.Output.Lines
import LintRun.Proofs.Results

/-!
# Source files by their paths

The path of an issue is stored as it is seen from the root of the run: a path strictly below the
root loses the components of the root, and any other path stays as it is. Which file is meant does
not depend on it (`OutputReader.reportedPath_same_file`). Joined to the root, the path that is
stored has the components of the path that was captured, and to store it again changes nothing.

That the same file is read does not follow from the components alone, since a slash or a dot behind
the name of a file leaves no component and yet lets reading fail. But a path that can be read ends
in a name, and so does the one that is stored for it (`readText_relativize`), and a path that is
made of components ends in a name anyway (`sourceText_relativize`).
-/

set_option autoImplicit false

namespace LintRun

open LintRun.Path (namesOf pieces IsKey)

variable {root path : String}

namespace NolintFilter

/-- A file is read by its key whether its path is seen from the root or not. -/
theorem sourceText_relativize (host : Host) (root path : String) :
    sourceText host.readText root (Path.sourceKey (Path.relativize root path)) =
      sourceText host.readText root (Path.sourceKey path) := by
  rcases Path.relativize_cases root path with
    same | ⟨-, same, -⟩ | ⟨absolute, relative, leads, some_name⟩
  · rw [same]
  · rw [Path.sourceKey, Path.sourceKey, same]
  · have absolute' : Path.isAbsolute path = true := by
      rw [Path.isAbsolute_iff_head?, leads, Path.components_of_isAbsolute absolute]
      rfl
    have isKey := Path.isKey_sourceKey (Path.relativize root path)
    have isKey' := Path.isKey_sourceKey path
    rw [Path.components_eq_sourceKey absolute'] at leads
    obtain ⟨component, member⟩ := List.exists_mem_of_ne_nil _ some_name
    have other : component ≠ .root := by
      rintro rfl
      exact Bool.false_ne_true (relative.symm.trans (Path.isAbsolute_iff_root_mem.mpr member))
    rw [sourceText, sourceText]
    refine congrArg Except.toOption (host.readText_congr (Path.isAbsolute_join absolute _) ?_ ?_ ?_)
    · exact Path.endsInName_join (Path.endsInName_ofComponents isKey ⟨_, member, other⟩) root
    · exact Path.endsInName_join (Path.endsInName_ofComponents isKey'
        ⟨component, leads ▸ List.mem_append_right _ member, other⟩) root
    · have relative' : Path.isAbsolute (Path.ofComponents (Path.sourceKey
          (Path.relativize root path))) = false := by
        rw [← relative, Bool.eq_iff_iff, Path.isAbsolute_ofComponents_iff isKey,
          Path.isAbsolute_iff_root_mem]
      have absolute'' : Path.isAbsolute (Path.ofComponents (Path.sourceKey path)) = true := by
        rw [Path.isAbsolute_ofComponents_iff isKey', ← Path.isAbsolute_iff_root_mem]
        exact absolute'
      rw [Path.components_join absolute relative', Path.sourceKey_ofComponents isKey,
        Path.join_of_isAbsolute absolute'', Path.components_eq_sourceKey absolute'',
        Path.sourceKey_ofComponents isKey', leads]

/-- Whoever can read a file by a path can read it by the path as it is seen from the root. -/
theorem readText_relativize {host : Host} {text : String}
    (read : host.readText (Path.join root path) = .ok text) :
    host.readText (Path.join root (Path.relativize root path)) = .ok text := by
  have same := Path.components_join_relativize root path
  by_cases changed : Path.relativize root path = path
  · rw [changed]
    exact read
  · have absolute : Path.isAbsolute path = true :=
      (Bool.eq_false_or_eq_true _).resolve_right fun relative =>
        changed (Path.relativize_eq_self (.inl relative))
    have ended := Host.endsInName_of_readText read
    rw [Path.join_of_isAbsolute absolute] at same read ended
    rw [← read]
    refine (host.readText_congr absolute ended ?_ same.symm).symm
    exact Path.endsInName_join (Path.endsInName_relativize ended root) root

end NolintFilter

/-- **A path that is stored in an issue means the file that has been reported.** -/
theorem OutputReader.reportedPath_same_file {p : Policy} (captured : path ≠ "") :
    reportedPath p path ≠ "" ∧
    Path.components (Path.join p.root (reportedPath p path)) =
      Path.components (Path.join p.root path) ∧
    (∀ host : Host,
      NolintFilter.sourceText host.readText p.root (Path.sourceKey (reportedPath p path)) =
        NolintFilter.sourceText host.readText p.root (Path.sourceKey path) ∧
      ∀ text, host.readText (Path.join p.root path) = .ok text →
        host.readText (Path.join p.root (reportedPath p path)) = .ok text) ∧
    reportedPath p (reportedPath p path) = reportedPath p path ∧
    (Path.isAbsolute path = false ∨ ¬ Path.StrictlyBelow p.root path →
      reportedPath p path = path) :=
  ⟨Path.relativize_ne_empty p.root captured, Path.components_join_relativize p.root path,
    fun host => ⟨NolintFilter.sourceText_relativize host p.root path, fun _ read =>
      NolintFilter.readText_relativize read⟩,
    Path.relativize_relativize p.root path, Path.relativize_eq_self⟩

namespace OutputReader

open scoped Regex.SizeRule

/-- A policy with a root. -/
theorem exists_rooted : ∃ p, ({ root := some "/work" } : PolicyBuilder).build {} = .ok p ∧
    p.root = "/work" :=
  exists_ok_of_map (by decide +kernel)

/-- A directory with slashes and a dot in it, below the root. -/
theorem reportedPath_same_file_below : ∃ p,
    ({ root := some "/work" } : PolicyBuilder).build {} = .ok p ∧
    reportedPath p "/work//./pkg//a.go" = "pkg//a.go" ∧
    Path.components (Path.join "/work" "pkg//a.go") = Path.components "/work//./pkg//a.go" := by
  obtain ⟨p, built, atRoot⟩ := exists_rooted
  have stored : reportedPath p "/work//./pkg//a.go" = "pkg//a.go" := by
    rw [reportedPath, atRoot]
    decide
  have captured : "/work//./pkg//a.go" ≠ "" := by decide
  obtain ⟨-, same, -⟩ := reportedPath_same_file (p := p) captured
  rw [stored, atRoot] at same
  exact ⟨p, built, stored, same⟩

end OutputReader

end LintRun
