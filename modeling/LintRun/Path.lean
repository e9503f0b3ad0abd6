/-!
# Paths

A path is text whose parts are separated by slashes.  Two paths mean the same file when they
have the same components: repeated slashes, a slash at the end and dots in the middle leave no
component.  Only a dot at the start of a relative path is a component of its own.
-/

set_option autoImplicit false

namespace LintRun.Path

/-- A component of a path. -/
inductive Component where
  /-- The slash at the start of an absolute path. -/
  | root
  /-- A dot at the start of a relative path. -/
  | here
  /-- Two dots, for the directory around. -/
  | up
  | name (text : String)
deriving DecidableEq, Repr

/-- The place of a component among components of different kinds. -/
def Component.rank : Component → Nat
  | .root => 0
  | .here => 1
  | .up => 2
  | .name _ => 3

/-- The order of components: by kind, and names by their text. -/
def Component.compare (a b : Component) : Ordering :=
  match a, b with
  | .name s, .name t => Ord.compare s t
  | a, b => Ord.compare a.rank b.rank

/-- The text of a component. -/
def Component.text : Component → String
  | .root => "/"
  | .here => "."
  | .up => ".."
  | .name text => text

/-- The parts of a text between slashes; there is always at least one. -/
def pieces : List Char → List (List Char)
  | [] => [[]]
  | c :: rest =>
    if c = '/' then [] :: pieces rest
    else
      match pieces rest with
      | [] => [[c]]
      | piece :: more => (c :: piece) :: more

/-- Parts with slashes between them. -/
def joinPieces (parts : List (List Char)) : List Char :=
  ['/'].intercalate parts

/-- Whether a part between slashes leaves no component. -/
def isTrivial (piece : List Char) : Bool :=
  piece == [] || piece == ['.']

/-- The component of a part that leaves one. -/
def componentOf (piece : List Char) : Component :=
  if piece = ['.', '.'] then .up else .name (.ofList piece)

/-- Whether a path is absolute. -/
def isAbsolute (path : String) : Bool :=
  path.toList.head? == some '/'

/-- The components of a path. -/
def components (path : String) : List Component :=
  let parts := pieces path.toList
  let start : List Component :=
    if isAbsolute path then [.root]
    else if parts.head? = some ['.'] then [.here]
    else []
  start ++ (parts.filter (!isTrivial ·)).map componentOf

/-- The order of paths, component by component. -/
def compareComponents : List Component → List Component → Ordering
  | [], [] => .eq
  | [], _ :: _ => .lt
  | _ :: _, [] => .gt
  | a :: as, b :: bs => (a.compare b).then (compareComponents as bs)

/-- The text of a path with the given components. -/
def ofComponents : List Component → String
  | .root :: rest => "/" ++ "/".intercalate (rest.map Component.text)
  | cs => "/".intercalate (cs.map Component.text)

/-- Leaves out a number of components at the start of some parts. -/
def dropNames : Nat → List (List Char) → List (List Char)
  | 0, parts => parts
  | _ + 1, [] => []
  | n + 1, piece :: rest =>
    if isTrivial piece then dropNames (n + 1) rest else dropNames n rest

/-- Leaves out parts without component at the end. -/
def trimPieces (parts : List (List Char)) : List (List Char) :=
  (parts.reverse.dropWhile isTrivial).reverse

/-- The rest of an absolute path after the components of a directory, as it is spelled between
the first and the last component of the rest. -/
def stripDirectory? (directory path : String) : Option String :=
  let parts := pieces (path.toList.drop 1)
  match components directory with
  | [] => some (.ofList ('/' :: joinPieces (trimPieces parts)))
  | cs =>
    if cs.isPrefixOf (components path) then
      let rest := (dropNames (cs.length - 1) parts).dropWhile isTrivial
      some (.ofList (joinPieces (trimPieces rest)))
    else
      none

/-- A path as seen from a directory: an absolute path strictly below the directory loses the
directory, and any other path stays as it is. -/
def relativize (directory path : String) : String :=
  if isAbsolute path then
    match stripDirectory? directory path with
    | some rest => if rest = "" then path else rest
    | none => path
  else
    path

/-- A path as seen from inside a directory: an absolute path stands for itself. -/
def join (directory path : String) : String :=
  if isAbsolute path then path
  else if directory = "" || directory.toList.getLast? == some '/' then directory ++ path
  else directory ++ "/" ++ path

/-- The components by which a source file is known: those of its path without a dot at the
start. -/
def sourceKey (path : String) : List Component :=
  (components path).filter (· ≠ .here)

end LintRun.Path
