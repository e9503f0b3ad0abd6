import LintRun.Config.Document
import LintRun.Proofs.Dictionaries

/-!
# Configurations are read back

What is written for a configuration is read back as this configuration (`ofJson?_toJson`): every
field is written under a name of its own and with a value that is read back, be it as null or, in
the specification of a linter, by leaving the field out.

Reading is strict about names. An object that has a name which is no field is refused, and so is a
configuration with a linter whose specification has such a name (`document_roundTrip`).
-/

set_option autoImplicit false

namespace LintRun

variable {α β : Type}

/-! ## Values -/

theorem mapM_eq_none {f : α → Option β} {xs : List α} {x : α} (member : x ∈ xs)
    (fails : f x = none) : xs.mapM f = none := by
  induction xs with
  | nil => exact absurd member List.not_mem_nil
  | cons y rest ih =>
    rw [List.mapM_cons]
    rcases List.mem_cons.mp member with rfl | later
    · rw [fails]
      rfl
    · rw [ih later]
      cases f y <;> rfl

theorem mapM_map_eq_some {write : α → β} {read : β → Option α} {xs : List α}
    (inverse : ∀ x ∈ xs, read (write x) = some x) : (xs.map write).mapM read = some xs := by
  induction xs with
  | nil => rfl
  | cons x rest ih =>
    rw [List.map_cons, List.mapM_cons, inverse x List.mem_cons_self,
      ih fun y later => inverse y (List.mem_cons_of_mem x later)]
    rfl

namespace Dict

theorem insertEntry_of_above {name : String} {value : α} {entries : List (String × α)}
    (above : ∀ e ∈ entries, e.1 < name) :
    insertEntry name value entries = entries ++ [(name, value)] := by
  induction entries with
  | nil => rfl
  | cons e rest ih =>
    have below := above e List.mem_cons_self
    rw [insertEntry, if_neg (String.lt_asymm below), if_neg (String.ne_of_lt below).symm,
      ih fun other later => above other (List.mem_cons_of_mem e later), List.cons_append]

/-- A dictionary is the dictionary of its entries. -/
theorem ofList_entries (d : Dict α) : ofList d.entries = d := by
  have extended : ∀ (rest : List (String × α)) (first : Dict α),
      (first.entries ++ rest).Pairwise (·.1 < ·.1) →
        (first.insertAll rest).entries = first.entries ++ rest := by
    intro rest
    induction rest with
    | nil => exact fun first _ => (List.append_nil _).symm
    | cons e rest ih =>
      intro first ascending
      have inserted : (first.insert e.1 e.2).entries = first.entries ++ [e] :=
        insertEntry_of_above fun other member =>
          (List.pairwise_append.mp ascending).2.2 other member e List.mem_cons_self
      have whole := ih (first.insert e.1 e.2) (by
        rwa [inserted, List.append_assoc, List.singleton_append])
      rwa [inserted, List.append_assoc, List.singleton_append] at whole
  have entries : (ofList d.entries).entries = d.entries := extended d.entries empty d.ascending
  obtain ⟨es, ascending⟩ := d
  generalize ofList es = other at entries
  obtain ⟨others, othersAscending⟩ := other
  subst entries
  rfl

end Dict

namespace Json

theorem asTexts?_ofTexts (texts : List String) : (ofTexts texts).asTexts? = some texts :=
  mapM_map_eq_some fun _ _ => rfl

theorem asOptional?_ofOptional {write : α → Json} {read : Json → Option α}
    (inverse : ∀ value, read (write value) = some value) (some_value : ∀ value, write value ≠ null)
    (value : Option α) : asOptional? read (ofOptional write value) = some value := by
  cases value with
  | none => rfl
  | some value =>
    rw [ofOptional, asOptional?, inverse]
    · rfl
    · exact some_value value

theorem asDict?_ofDict {write : α → Json} {read : Json → Option α}
    (inverse : ∀ value, read (write value) = some value) (d : Dict α) :
    asDict? read (ofDict write d) = some d := by
  have entries : asEntries? read (ofDict write d) = some d.entries :=
    mapM_map_eq_some fun e _ => by rw [inverse]; rfl
  rw [asDict?, entries, Option.map_some, Dict.ofList_entries]

theorem asWord64?_toNat (word : UInt64) : (natural word.toNat).asWord64? = some word := by
  rw [asWord64?, if_pos word.toNat_lt, UInt64.ofNat_toNat]

/-- Reading goes on with the value of a field that the record has. -/
theorem field?_bind {entries : List (String × Json)} {name : String} {value : Json} {default : α}
    {read : Json → Option α} {result : α} {next : α → Option β} {whole : Option β}
    (found : find? entries name = some value) (ofValue : read value = some result)
    (rest : next result = whole) : (field? entries name default read).bind next = whole := by
  rw [field?, found]
  dsimp only
  rw [ofValue]
  exact rest

/-- An object with a name that is no field is not a record. -/
theorem asRecord?_of_unknown {fields : List String} {entries : List (String × Json)}
    (unknown : ∃ e ∈ entries, e.1 ∉ fields) : asRecord? fields (object entries) = none := by
  obtain ⟨e, member, noField⟩ := unknown
  refine if_neg fun all => noField ?_
  exact List.contains_iff_mem.mp (List.all_eq_true.mp all e member)

end Json

/-! ## Linters -/

namespace LinterSpec

/-- What is left out is read as not stated. -/
theorem ofJson?_toJson (s : LinterSpec) : ofJson? s.toJson = some s := by
  obtain ⟨command, pattern, severity, fast, partialOutput, stderr⟩ := s
  cases severity <;> cases partialOutput <;> cases stderr <;> rfl

theorem ofJson?_of_unknown {entries : List (String × Json)}
    (unknown : ∃ e ∈ entries, e.1 ∉ fields) : ofJson? (.object entries) = none := by
  rw [ofJson?, Json.asRecord?_of_unknown unknown]
  rfl

end LinterSpec

/-- A text is a shorthand and an object is a specification, so that neither is read as the other. -/
theorem LinterEntry.ofJson?_toJson (entry : LinterEntry) : ofJson? entry.toJson = some entry := by
  cases entry with
  | shorthand text => rfl
  | spec s => exact congrArg (Option.map spec) s.ofJson?_toJson

/-! ## Configurations -/

namespace Config

/-- The names that are written for a configuration are its fields. -/
theorem exists_entries_toJson (c : Config) :
    ∃ entries, c.toJson = .object entries ∧ entries.map (·.1) = fields :=
  ⟨_, rfl, rfl⟩

/-- **What is written for a configuration is read back.** -/
theorem ofJson?_toJson (c : Config) : ofJson? c.toJson = some c := by
  have text : ∀ given, Json.asOptional? Json.asText? (.ofOptional .text given) = some given :=
    Json.asOptional?_ofOptional (fun _ => rfl) nofun
  have number : ∀ given : Option UInt64,
      Json.asOptional? Json.asWord64? (.ofOptional (.natural ·.toNat) given) = some given :=
    Json.asOptional?_ofOptional Json.asWord64?_toNat nofun
  have dict : ∀ d, Json.asDict? Json.asText? (.ofDict .text d) = some d :=
    Json.asDict?_ofDict fun _ => rfl
  have linters : ∀ d, Json.asDict? LinterEntry.ofJson? (.ofDict LinterEntry.toJson d) = some d :=
    Json.asDict?_ofDict LinterEntry.ofJson?_toJson
  have texts : ∀ given, Json.asTexts? (.ofTexts given) = some given := Json.asTexts?_ofTexts
  exact Json.field?_bind rfl (texts c.enable) <|
    Json.field?_bind rfl (texts c.disable) <|
    Json.field?_bind rfl rfl <|
    Json.field?_bind rfl rfl <|
    Json.field?_bind rfl rfl <|
    Json.field?_bind rfl (linters c.linters) <|
    Json.field?_bind rfl (dict c.severity) <|
    Json.field?_bind rfl (dict c.messageOverrides) <|
    Json.field?_bind rfl (text c.format) <|
    Json.field?_bind rfl (number c.concurrency) <|
    Json.field?_bind rfl (text c.deadline) <|
    Json.field?_bind rfl (texts c.exclude) <|
    Json.field?_bind rfl (texts c.keep) <|
    Json.field?_bind rfl (texts c.sort) <|
    Json.field?_bind rfl rfl <|
    Json.field?_bind rfl rfl <|
    Json.field?_bind rfl rfl <|
    Json.field?_bind rfl rfl <|
    Json.field?_bind rfl rfl <|
    Json.field?_bind rfl (dict c.vars) <|
    Json.field?_bind rfl rfl rfl

theorem ofJson?_of_unknown {entries : List (String × Json)}
    (unknown : ∃ e ∈ entries, e.1 ∉ fields) : ofJson? (.object entries) = none := by
  rw [ofJson?, Json.asRecord?_of_unknown unknown]
  rfl

/-- A configuration is read only if its linters are. -/
theorem exists_linters_of_ofJson? {value : Json} {c : Config} (read : ofJson? value = some c) :
    ∃ entries linters, value.asRecord? fields = some entries ∧
      Json.field? entries "linters" ∅ (Json.asDict? LinterEntry.ofJson?) = some linters := by
  rw [ofJson?] at read
  obtain ⟨entries, record, rest⟩ := Option.bind_eq_some_iff.mp read
  -- Five fields come before the linters.
  obtain ⟨_, _, rest⟩ := Option.bind_eq_some_iff.mp rest
  obtain ⟨_, _, rest⟩ := Option.bind_eq_some_iff.mp rest
  obtain ⟨_, _, rest⟩ := Option.bind_eq_some_iff.mp rest
  obtain ⟨_, _, rest⟩ := Option.bind_eq_some_iff.mp rest
  obtain ⟨_, _, rest⟩ := Option.bind_eq_some_iff.mp rest
  obtain ⟨linters, found, -⟩ := Option.bind_eq_some_iff.mp rest
  exact ⟨entries, linters, record, found⟩

theorem ofJson?_of_unknown_in_linter {entries linters spec : List (String × Json)} {name : String}
    (found : Json.find? entries "linters" = some (.object linters))
    (member : (name, .object spec) ∈ linters) (unknown : ∃ e ∈ spec, e.1 ∉ LinterSpec.fields) :
    ofJson? (.object entries) = none := by
  cases read : ofJson? (.object entries) with
  | none => rfl
  | some c =>
    obtain ⟨record, read, same, ofLinters⟩ := exists_linters_of_ofJson? read
    obtain rfl : entries = record := by
      rw [Json.asRecord?] at same
      split at same
      · exact Option.some.inj same
      · cases same
    have refused : LinterEntry.ofJson? (.object spec) = none :=
      congrArg (Option.map LinterEntry.spec) (LinterSpec.ofJson?_of_unknown unknown)
    have noEntries : Json.asEntries? LinterEntry.ofJson? (.object linters) = none :=
      mapM_eq_none member (by rw [refused]; rfl)
    rw [Json.field?, found] at ofLinters
    dsimp only at ofLinters
    rw [Json.asDict?, noEntries] at ofLinters
    cases ofLinters

/-- **A configuration survives being written and read, and misspelled names do not.** The names that
are written are the fields of a configuration. An object that has any other name is refused, and so
is one in which the object of a linter has a name that is no field of a specification. -/
theorem document_roundTrip :
    (∀ c : Config, ofJson? c.toJson = some c ∧
      ∃ entries, c.toJson = .object entries ∧ entries.map (·.1) = fields) ∧
    (∀ entries : List (String × Json), (∃ e ∈ entries, e.1 ∉ fields) →
      ofJson? (.object entries) = none) ∧
    ∀ (entries linters spec : List (String × Json)) (name : String),
      Json.find? entries "linters" = some (.object linters) → (name, .object spec) ∈ linters →
      (∃ e ∈ spec, e.1 ∉ LinterSpec.fields) → ofJson? (.object entries) = none :=
  ⟨fun c => ⟨ofJson?_toJson c, exists_entries_toJson c⟩, fun _ => ofJson?_of_unknown,
    fun _ _ _ _ => ofJson?_of_unknown_in_linter⟩

/-- A linter in short form and one with a severity but without anything said of its error output. -/
def sample : Config where
  linters := .ofList [("spell", .shorthand "spell:PATH:LINE:MESSAGE"),
    ("golint", .spec { severity := some "error" })]
  concurrency := some 4

theorem document_roundTrip_sample :
    ofJson? sample.toJson = some sample ∧
    (∃ e ∈ [("enabel", Json.array [])], e.1 ∉ fields) ∧
    ofJson? (.object [("enabel", .array [])]) = none ∧
    (∃ e ∈ [("cmd", Json.text "spell")], e.1 ∉ LinterSpec.fields) ∧
    ofJson? (.object [("linters", .object [("spell", .object [("cmd", .text "spell")])])]) =
      none := by
  obtain ⟨roundTrip, unknown, unknownInLinter⟩ := document_roundTrip
  have misspelled : ∃ e ∈ [("enabel", Json.array [])], e.1 ∉ fields :=
    ⟨_, List.mem_singleton_self _, by decide⟩
  have misspelledInLinter : ∃ e ∈ [("cmd", Json.text "spell")], e.1 ∉ LinterSpec.fields :=
    ⟨_, List.mem_singleton_self _, by decide⟩
  exact ⟨(roundTrip sample).1, misspelled, unknown _ misspelled, misspelledInLinter,
    unknownInLinter _ _ _ "spell" rfl (List.mem_singleton_self _) misspelledInLinter⟩

end Config

end LintRun
