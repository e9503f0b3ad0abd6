import LintRun.CommandLine.Run
import LintRun.Host.System
import LintRun.Shell.Process

/-!
# The program

The program looks at the files around it, carries out its command line on what it saw, and
prints what comes out.  It never ends if nothing comes out.
-/

set_option autoImplicit false

namespace LintRun

/-- The place of a path that is seen from a directory, without looking at links. -/
def placeOf (here : Place) (path : String) : Place :=
  ((Path.components path).foldl (fun place component =>
    match component with
    | .root => []
    | .here => place
    | .up => place.dropLast
    | .name text => place ++ [text]) here)

/-- Adds a file or a directory, with everything in it, to the tree at a place. -/
partial def addEntry (place : Place) (tree : FileTree) (entry : IO.FS.DirEntry) : IO FileTree := do
  let place := place ++ [entry.fileName]
  try
    match (← entry.path.symlinkMetadata).type with
    | .dir => (← entry.path.readDir).foldlM (addEntry place) (tree.makeDirectories place)
    | .file => return tree.create place (.file (← IO.FS.readBinFile entry.path).toList)
    | _ => return tree
  catch _ => return tree

/-- Adds the file that an argument names, if it does name one. -/
def addNamed (here : Place) (tree : FileTree) (path : String) : IO FileTree := do
  try return tree.create (placeOf here path) (.file (← IO.FS.readBinFile path).toList)
  catch _ => return tree

/-- The files in the current directory and those that the arguments name. -/
def observe (args : List String) : IO Host := do
  let directory ← IO.currentDir
  let here := placeOf [] directory.toString
  let tree ← (← directory.readDir).foldlM (addEntry here) (FileTree.system.makeDirectories here)
  return { tree := ← args.foldlM (addNamed here) tree, here }

/-- Waits for ever. -/
partial def waitForEver : IO UInt32 := do
  IO.sleep 1000
  waitForEver

/-- What is printed for a user whose command line is not carried out. -/
def usageText : String :=
  "Usage: lintmux [OPTIONS] [PATHS]... [COMMAND]\n"

end LintRun

open LintRun in
open scoped Regex.SizeRule in
/-- Carries out the command line. -/
def main (args : List String) : IO UInt32 := do
  match CommandLine.parse args with
  | .error fault =>
    match fault with
    | .version => IO.print CommandLine.versionText
    | .help => IO.print usageText
    | _ => IO.eprint usageText
    return .ofNat fault.status
  | .ok request =>
    match CommandLine.carryOut Shell.launch (← observe args) request with
    | .ok none => waitForEver
    | .ok (some outcome) =>
      outcome.warnings.forM IO.eprintln
      IO.print outcome.stdout
      return .ofNat outcome.status
    | .error e =>
      IO.eprintln e.message
      return 2
