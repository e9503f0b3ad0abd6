import LintRun.Config
import LintRun.Json.Relaxed

/-!
# Configurations as documents

A configuration is written as an object with one entry for each field, and read back from it.
A reader leaves out what is as it would be anyway, so an absent field has its default, but a
name that is no field is refused: it is a misspelled one.  A list stands for an object too: it
gives the first fields in their order.

The main point is that reading undoes writing.
-/

set_option autoImplicit false

namespace LintRun

namespace Json

/-- The object of a dictionary. -/
def ofDict {α : Type} (write : α → Json) (d : Dict α) : Json :=
  .object (d.entries.map fun e => (e.1, write e.2))

/-- The list of some texts. -/
def ofTexts (texts : List String) : Json :=
  .array (texts.map .text)

/-- A value that may be absent, which null stands for. -/
def ofOptional {α : Type} (write : α → Json) : Option α → Json
  | some value => write value
  | none => .null

/-- The dictionary that a value is an object of. -/
def asDict? {α : Type} (read : Json → Option α) (value : Json) : Option (Dict α) :=
  (value.asEntries? read).map .ofList

/-- The entries of a record with these fields.  An object must have no other names, and a list
gives values to the first fields, of which there must be enough. -/
def asRecord? (fields : List String) : Json → Option (List (String × Json))
  | object entries => if entries.all (fields.contains ·.1) then some entries else none
  | array elements =>
    if elements.length ≤ fields.length then some (fields.zip elements) else none
  | _ => none

/-- Reads the field of a record, which has a default when it is absent. -/
def field? {α : Type} (entries : List (String × Json)) (name : String) (default : α)
    (read : Json → Option α) : Option α :=
  match find? entries name with
  | some value => read value
  | none => some default

end Json

namespace LinterSpec

/-- The fields of a specification. -/
def fields : List String :=
  ["command", "pattern", "severity", "fast", "partial_output", "stderr"]

/-- The specification as an object.  What it does not state is left out. -/
def toJson (s : LinterSpec) : Json :=
  .object (
    [("command", .text s.command), ("pattern", .text s.pattern)] ++
    (s.severity.map (("severity", Json.text ·))).toList ++
    [("fast", .bool s.fast)] ++
    (s.partialOutput.map (("partial_output", Json.bool ·))).toList ++
    (s.stderr.map (("stderr", Json.bool ·))).toList)

/-- Reads a specification. -/
def ofJson? (value : Json) : Option LinterSpec := do
  let entries ← value.asRecord? fields
  return {
    command := ← Json.field? entries "command" "" Json.asText?
    pattern := ← Json.field? entries "pattern" "" Json.asText?
    severity := ← Json.field? entries "severity" none (Json.asOptional? Json.asText?)
    fast := ← Json.field? entries "fast" false Json.asBool?
    partialOutput := ← Json.field? entries "partial_output" none (Json.asOptional? Json.asBool?)
    stderr := ← Json.field? entries "stderr" none (Json.asOptional? Json.asBool?) }

end LinterSpec

namespace LinterEntry

/-- The entry as a text or an object. -/
def toJson : LinterEntry → Json
  | shorthand text => .text text
  | spec s => s.toJson

/-- Reads an entry. -/
def ofJson? : Json → Option LinterEntry
  | .text text => some (shorthand text)
  | value => (LinterSpec.ofJson? value).map spec

end LinterEntry

namespace Config

/-- The fields of a configuration. -/
def fields : List String :=
  ["enable", "disable", "enable_all", "disable_all", "fast", "linters", "severity",
    "message_overrides", "format", "concurrency", "deadline", "exclude", "include", "sort",
    "aggregate", "errors", "json", "checkstyle", "tests", "vars", "warn_unmatched_nolint"]

/-- The configuration as an object. -/
def toJson (c : Config) : Json :=
  .object [
    ("enable", .ofTexts c.enable),
    ("disable", .ofTexts c.disable),
    ("enable_all", .bool c.enableAll),
    ("disable_all", .bool c.disableAll),
    ("fast", .bool c.fast),
    ("linters", .ofDict LinterEntry.toJson c.linters),
    ("severity", .ofDict .text c.severity),
    ("message_overrides", .ofDict .text c.messageOverrides),
    ("format", .ofOptional .text c.format),
    ("concurrency", .ofOptional (.natural ·.toNat) c.concurrency),
    ("deadline", .ofOptional .text c.deadline),
    ("exclude", .ofTexts c.exclude),
    ("include", .ofTexts c.keep),
    ("sort", .ofTexts c.sort),
    ("aggregate", .bool c.aggregate),
    ("errors", .bool c.errors),
    ("json", .bool c.json),
    ("checkstyle", .bool c.checkstyle),
    ("tests", .bool c.tests),
    ("vars", .ofDict .text c.vars),
    ("warn_unmatched_nolint", .bool c.warnUnmatchedNolint)]

/-- Reads a configuration. -/
def ofJson? (value : Json) : Option Config := do
  let entries ← value.asRecord? fields
  let bool (name : String) : Option Bool := Json.field? entries name false Json.asBool?
  let texts (name : String) : Option (List String) := Json.field? entries name [] Json.asTexts?
  let text (name : String) : Option (Option String) :=
    Json.field? entries name none (Json.asOptional? Json.asText?)
  let dict (name : String) : Option (Dict String) :=
    Json.field? entries name ∅ (Json.asDict? Json.asText?)
  return {
    enable := ← texts "enable"
    disable := ← texts "disable"
    enableAll := ← bool "enable_all"
    disableAll := ← bool "disable_all"
    fast := ← bool "fast"
    linters := ← Json.field? entries "linters" ∅ (Json.asDict? LinterEntry.ofJson?)
    severity := ← dict "severity"
    messageOverrides := ← dict "message_overrides"
    format := ← text "format"
    concurrency := ← Json.field? entries "concurrency" none (Json.asOptional? Json.asWord64?)
    deadline := ← text "deadline"
    exclude := ← texts "exclude"
    keep := ← texts "include"
    sort := ← texts "sort"
    aggregate := ← bool "aggregate"
    errors := ← bool "errors"
    json := ← bool "json"
    checkstyle := ← bool "checkstyle"
    tests := ← bool "tests"
    vars := ← dict "vars"
    warnUnmatchedNolint := ← bool "warn_unmatched_nolint" }

/-- Reads a configuration from a document; `origin` names the document in errors.  An empty
document is the configuration of defaults. -/
def parse (document origin : String) : Except ConfigError Config :=
  match Json.readRelaxed? document with
  | none => .error (.file origin .malformed)
  | some value =>
    match ofJson? (value.getD (.object [])) with
    | some config => .ok config
    | none => .error (.file origin .wrongShape)

end Config

end LintRun
