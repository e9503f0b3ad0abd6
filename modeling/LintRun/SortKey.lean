import LintRun.Error
import LintRun.Issue

/-!
# Sorting issues

Issues are sorted by a list of keys, each of which orders the issues that the keys before it
leave equal.  The sort is stable: issues that all keys leave equal keep their order.
-/

set_option autoImplicit false

namespace LintRun

/-- What issues are sorted by. -/
inductive SortKey where
  /-- Nothing: the key leaves all issues equal. -/
  | none
  | path
  | line
  | column
  | severity
  | message
  | linter
deriving DecidableEq, Repr

namespace SortKey

/-- Every key, in the order in which messages list them. -/
def all : List SortKey :=
  [.none, .path, .line, .column, .severity, .message, .linter]

/-- The name of a key. -/
def name : SortKey → String
  | .none => "none"
  | .path => "path"
  | .line => "line"
  | .column => "column"
  | .severity => "severity"
  | .message => "message"
  | .linter => "linter"

/-- The key of a name. -/
def ofName? (name : String) : Option SortKey :=
  all.find? (·.name == name)

/-- The order of two issues by one key. -/
def compare (key : SortKey) (a b : Issue) : Ordering :=
  match key with
  | .none => .eq
  | .path => Ord.compare a.path b.path
  | .line => Ord.compare a.line b.line
  | .column => Ord.compare a.col b.col
  | .severity => Ord.compare a.severity.rank b.severity.rank
  | .message => Ord.compare a.message b.message
  | .linter => Ord.compare a.linterLabel b.linterLabel

/-- The order of two issues by the first key that tells them apart. -/
def compareBy : List SortKey → Issue → Issue → Ordering
  | [], _, _ => .eq
  | key :: keys, a, b => (key.compare a b).then (compareBy keys a b)

/-- The keys of a list of names. -/
def ofNames (names : List String) : Except ConfigError (List SortKey) :=
  names.mapM fun name =>
    match ofName? name with
    | some key => .ok key
    | .none => .error (.sortKey name)

end SortKey

/-- The issues in the order of a list of keys. -/
def sortIssues (keys : List SortKey) (issues : List Issue) : List Issue :=
  issues.mergeSort fun a b => (SortKey.compareBy keys a b).isLE

end LintRun
