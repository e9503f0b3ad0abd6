import LintRun.Nolint.Filter

/-!
# Source files of a run

To tell which directives suppress nothing, a run reads the files that its targets stand for:
a target that is a file stands for itself, and a directory for the files directly in it.
-/

set_option autoImplicit false

namespace LintRun.NolintFilter

/-- The components of a path without those of the root and without dots: a path below the root
is known as it is seen from the root. -/
def keyBelow (root path : String) : SourceKey :=
  let rootComponents := Path.components root
  let components := Path.components path
  let rest :=
    if rootComponents.isPrefixOf components then components.drop rootComponents.length
    else components
  rest.filter (· ≠ .here)

/-- The source files of some targets, each one once, in the order of their paths.  `filesAt`
tells the paths of the files that a path stands for. -/
def sourceFiles (filesAt : String → List String) (root : String) (targets : List String) :
    List SourceKey :=
  let paths := targets.flatMap fun target => filesAt (Path.join root target)
  (paths.map (keyBelow root)).eraseDups.mergeSort fun a b => (Path.compareComponents a b).isLE

/-- The text of a source file of a run with the given root. -/
def sourceText {ε : Type} (readText : String → Except ε String) (root : String)
    (key : SourceKey) : Option String :=
  (readText (Path.join root (Path.ofComponents key))).toOption

end LintRun.NolintFilter
