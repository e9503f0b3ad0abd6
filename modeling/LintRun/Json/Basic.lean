/-!
# Values of documents

A document holds one value: nothing, a truth value, a number, a text, a list of values, or an
object, which gives values to names.  A number remembers no more than whether it is a whole
number without sign, because nothing else about a number matters to a configuration or to a
report.
-/

set_option autoImplicit false

namespace LintRun

/-- A value of a document. -/
inductive Json where
  | null
  | bool (value : Bool)
  /-- A whole number without sign. -/
  | natural (value : Nat)
  /-- Any other number, as it is written. -/
  | number (text : String)
  | text (value : String)
  | array (elements : List Json)
  /-- Values of names, in the order in which the names were first met. -/
  | object (entries : List (String × Json))
deriving Inhabited, Repr

namespace Json

/-- The value of a name among the entries of an object. -/
def find? (entries : List (String × Json)) (name : String) : Option Json :=
  (entries.find? (·.1 == name)).map (·.2)

/-- The entries of an object in which a name has a new value. -/
def put (name : String) (value : Json) : List (String × Json) → List (String × Json)
  | [] => [(name, value)]
  | e :: rest => if e.1 = name then (name, value) :: rest else e :: put name value rest

/-- The truth value that a value is. -/
def asBool? : Json → Option Bool
  | bool value => some value
  | _ => none

/-- The text that a value is. -/
def asText? : Json → Option String
  | text value => some value
  | _ => none

/-- The number below 2^64 that a value is. -/
def asWord64? : Json → Option UInt64
  | natural value => if value < UInt64.size then some (.ofNat value) else none
  | _ => none

/-- The texts that a value is a list of. -/
def asTexts? : Json → Option (List String)
  | array elements => elements.mapM asText?
  | _ => none

/-- The entries of an object, each with its value read. -/
def asEntries? {α : Type} (read : Json → Option α) : Json → Option (List (String × α))
  | object entries => entries.mapM fun e => (read e.2).map (e.1, ·)
  | _ => none

/-- Reads a value that may be null instead. -/
def asOptional? {α : Type} (read : Json → Option α) : Json → Option (Option α)
  | null => some none
  | value => (read value).map some

end Json

end LintRun
