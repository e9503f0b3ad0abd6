import LintRun.Path
import LintRun.Text.Utf8

/-!
# File trees

A file tree says what is found at each place of a file system.  A **place** is the list of the
names that lead to it from the root, without dots; the root itself is always a directory.  A
path is followed name by name, and a symbolic link on the way puts its own path before what is
left of it.
-/

set_option autoImplicit false

namespace LintRun

/-- The names that lead to a file from the root. -/
abbrev Place := List String

/-- What is found at a place. -/
inductive FileNode where
  | file (content : List UInt8)
  | directory
  | link (target : String)
  /-- A program that the system provides. -/
  | program (name : String)
  /-- A file that takes everything and gives nothing. -/
  | sink
  /-- A file that gives zeros without end. -/
  | zeros
deriving DecidableEq, Repr

/-- Why a path leads to nothing. -/
inductive AccessFault where
  | missing
  | notDirectory
  | linkLoop
deriving DecidableEq, Repr

/-- The system's words for why a path leads to nothing. -/
def AccessFault.message : AccessFault → String
  | .missing => "No such file or directory"
  | .notDirectory => "Not a directory"
  | .linkLoop => "Too many levels of symbolic links"

/-- What is found at each place. -/
structure FileTree where
  nodes : List (Place × FileNode) := []
deriving Repr, Inhabited

namespace FileTree

/-- What is found at a place, links not followed. -/
def node? (t : FileTree) (place : Place) : Option FileNode :=
  if place = [] then some .directory else (t.nodes.find? (·.1 == place)).map (·.2)

/-- Whether there is a directory at a place. -/
def isDirectoryAt (t : FileTree) (place : Place) : Bool :=
  t.node? place == some .directory

/-- The tree with something at a place, which replaces what was there. -/
def put (t : FileTree) (place : Place) (node : FileNode) : FileTree :=
  { nodes := t.nodes.filter (·.1 != place) ++ [(place, node)] }

/-- The tree without what is at a place. -/
def remove (t : FileTree) (place : Place) : FileTree :=
  { nodes := t.nodes.filter (·.1 != place) }

/-- The tree with directories at a place and all the way to it. -/
def makeDirectories (t : FileTree) (place : Place) : FileTree :=
  (List.range (place.length + 1)).foldl (fun t n =>
    if (t.node? (place.take n)).isSome then t else t.put (place.take n) .directory) t

/-- The tree with something at a place and directories all the way to it. -/
def create (t : FileTree) (place : Place) (node : FileNode) : FileTree :=
  if node = .directory then t.makeDirectories place
  else (t.makeDirectories place.dropLast).put place node

/-- The names of what is in the directory at a place. -/
def namesIn (t : FileTree) (place : Place) : List String :=
  t.nodes.filterMap fun e =>
    match e.1.getLast? with
    | some name => if e.1.dropLast = place then some name else none
    | none => none

/-- The parts of a path between slashes. -/
def parts (path : String) : List String :=
  (Path.pieces path.toList).map .ofList

/-- How many links may be followed on one way. -/
def maxLinks : Nat := 40

/-- Follows the parts of a path from a place.  A link at the end is followed only if that is
asked for. -/
def walk (t : FileTree) (followLast : Bool) (links : Nat) (here : Place) (path : List String) :
    Except AccessFault Place :=
  match path with
  | [] => .ok here
  | part :: rest =>
    if !t.isDirectoryAt here then .error .notDirectory
    else if part = "" ∨ part = "." then walk t followLast links here rest
    else if part = ".." then walk t followLast links here.dropLast rest
    else
      match t.node? (here ++ [part]) with
      | none => .error .missing
      | some (.link target) =>
        if rest = [] ∧ followLast = false then .ok (here ++ [part])
        else
          match links with
          | 0 => .error .linkLoop
          | links + 1 =>
            walk t followLast links (if Path.isAbsolute target then [] else here)
              (parts target ++ rest)
      | some _ => walk t followLast links (here ++ [part]) rest
termination_by (links, path.length)

/-- The place that a path leads to, seen from a directory. -/
def resolve (t : FileTree) (directory : Place) (path : String) (followLast : Bool) :
    Except AccessFault Place :=
  if path = "" then .error .missing
  else walk t followLast maxLinks (if Path.isAbsolute path then [] else directory) (parts path)

/-- What a path leads to, seen from a directory. -/
def find? (t : FileTree) (directory : Place) (path : String) : Option FileNode :=
  match t.resolve directory path true with
  | .ok place => t.node? place
  | .error _ => none

/-- The content of a file. -/
def content? : FileNode → Option (List UInt8)
  | .file content => some content
  | .sink => some []
  | .program _ => some []
  | .directory | .link _ | .zeros => none

/-- Whether a node is a plain file. -/
def isFile : FileNode → Bool
  | .file _ | .program _ => true
  | _ => false

end FileTree

/-- The path of a place. -/
def Place.path (place : Place) : String :=
  "/" ++ "/".intercalate place

end LintRun
