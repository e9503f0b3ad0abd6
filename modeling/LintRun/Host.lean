import LintRun.Error
import LintRun.Host.FileTree

/-!
# Hosts

The host is what a run finds around it: the files, and the directory that relative paths are
seen from.
-/

set_option autoImplicit false

namespace LintRun

/-- The surroundings of a run. -/
structure Host where
  tree : FileTree
  /-- The current directory. -/
  here : Place
  /-- What the clock reads. -/
  clock : Duration := .zero
  /-- How many jobs the machine can run at a time, if it tells. -/
  processors : Option Nat := none
deriving Inhabited

namespace Host

/-- Whether a path leads to a plain file. -/
def isFile (h : Host) (path : String) : Bool :=
  (h.tree.find? h.here path).any FileTree.isFile

/-- The text of the file that a path leads to. -/
def readText (h : Host) (path : String) : Except FileFault String :=
  match h.tree.find? h.here path with
  | none => .error .missing
  | some .directory => .error .directory
  | some node =>
    match (FileTree.content? node).bind Text.decode? with
    | some text => .ok text
    | none => .error .notText

/-- The paths of the plain files that a path leads to: the file itself unless it is a link, or
the files in the directory that it leads to. -/
def filesAt (h : Host) (path : String) : List String :=
  match h.tree.resolve h.here path false with
  | .error _ => []
  | .ok place =>
    match h.tree.node? place with
    | some (.file _) | some (.program _) => [path]
    | some .directory | some (.link _) =>
      match h.tree.resolve h.here path true with
      | .error _ => []
      | .ok place =>
        ((h.tree.namesIn place).filter fun name =>
          (h.tree.node? (place ++ [name])).any FileTree.isFile).map (Path.join path)
    | _ => []

end Host

end LintRun
