import LintRun.Proofs.Output.Lines
import LintRun.Proofs.Regex.Alternatives
import LintRun.Proofs.Regex.Following
import LintRun.Proofs.Text.Blanks

/-!
# What the short patterns read

A linter **reports** a finding as a path, a line, perhaps a column, and a message, with colons
between them. The patterns `PATH:LINE:COL:MESSAGE` and `PATH:LINE:MESSAGE` read what has been
reported (`readLine_shorthands`). The path must end in `.go` and have no `.go:` inside, for the
pattern takes the first one for its end; the numbers end where the digits end, since a colon follows
them, and the message takes the rest of the line. So it does not matter whether the message looks
like another position, as in `a.go:1:2: b.go:3:4: x`.
-/

set_option autoImplicit false

namespace LintRun

/-- A path and a message that can be told from a line that reports them with numbers between them:
the path is relative, ends in `.go` and has no other end in it, and the message has no white space
at its ends. -/
structure Reportable (path message : String) : Prop where
  relative : Path.isAbsolute path = false
  ends : ".go".toList <:+ path.toList
  uncut : ¬ ".go:".toList <:+: path.toList
  path_inLine : '\n' ∉ path.toList
  message_inLine : '\n' ∉ message.toList
  trimmed : Text.trim message = message

namespace Reportable

variable {path message : String}

theorem nonempty (report : Reportable path message) : path ≠ "" := by
  rintro rfl
  exact absurd report.ends (by decide)

theorem trimChars_message (report : Reportable path message) :
    Text.trimChars message.toList = message.toList :=
  String.ofList_injective (report.trimmed.trans message.ofList_toList.symm)

theorem trimEnd_message (report : Reportable path message) :
    Text.trimEnd message = message := by
  rw [Text.trimEnd, (Text.of_trimChars_eq_self report.trimChars_message).1, message.ofList_toList]

theorem head_message (report : Reportable path message) :
    ∀ c ∈ message.toList.head?, Text.isBlank c = false :=
  (Text.of_trimChars_eq_self report.trimChars_message).2

end Reportable

namespace OutputPattern

open Regex (Node CharSet Thread spelled)

/-! ## The patterns -/

/-- Any character but a line feed. -/
def dot : CharSet :=
  [(0, 9), (11, CharSet.lastCodePoint)]

/-- A path up to the first `.go` after which the rest of the pattern matches. -/
def pathNode : Node :=
  .group 1 (some "path") (.cat (Node.anyNumber false (.set dot)) (spelled ".go".toList))

def numberNode (index : Nat) (name : String) : Node :=
  .group index (some name) (.run true CharSet.digit)

/-- White space and then the rest of the line. -/
def messageNode (index : Nat) : Node :=
  .cat (Node.anyNumber true (.set CharSet.space))
    (.cat (.group index (some "message") (Node.anyNumber true (.set dot))) (.look .textEnd))

/-- A part with a colon and another part after it. -/
def colon (before after : Node) : Node :=
  .cat before (.cat (spelled [':']) after)

/-- The pattern of reports with columns. -/
def withColumn : Node :=
  .cat (.look .textStart)
    (colon pathNode (colon (numberNode 2 "line") (colon (numberNode 3 "col") (messageNode 4))))

/-- The pattern of reports without columns. -/
def withoutColumn : Node :=
  .cat (.look .textStart) (colon pathNode (colon (numberNode 2 "line") (messageNode 3)))

theorem exists_compile_withColumn :
    ∃ r, @Regex.compile .strictest (expandPattern "PATH:LINE:COL:MESSAGE") = .ok r ∧
      r.node = withColumn :=
  exists_ok_of_map (by decide)

theorem exists_compile_withoutColumn :
    ∃ r, @Regex.compile .strictest (expandPattern "PATH:LINE:MESSAGE") = .ok r ∧
      r.node = withoutColumn :=
  exists_ok_of_map (by decide)

/-! ## Passing what has been reported -/

/-- The digits of a number. -/
def digits (n : UInt32) : List Char :=
  (toString n).toList

section Passing

variable {α : Type} {t : Thread} {follow : Thread → Option α} {a : α} {node : Node}
  {path message more : List Char}

theorem has_dot {c : Char} (other : c ≠ '\n') : dot.has c.toNat = true := by
  have beyond : c.toNat ≠ 10 := fun same => other (Char.toNat_inj.mp same)
  have valid : c.toNat ≤ CharSet.lastCodePoint := by
    rcases c.valid with low | ⟨-, high⟩
    · exact (low.trans (by decide)).le
    · exact Nat.le_of_lt_succ high
  rw [dot, Unicode.Ranges.has, if_neg (Nat.not_lt_zero _)]
  split
  · rfl
  · rw [Unicode.Ranges.has, if_neg (by omega), if_pos valid]

/-- After a part that ends before a colon the colon is passed too. -/
theorem first?_colon (next : t.rest = ':' :: more) :
    (Node.cat (spelled [':']) node).first? follow t = node.first? follow (t.past [':'] more) := by
  refine (Regex.first?_spelled (List.cons_ne_nil _ _) t).trans ?_
  rw [next, if_pos ⟨more, rfl⟩]
  rfl

theorem append_prefix_of_prefix_drop {first second cs : List Char} (begins : first <+: cs)
    (goesOn : second <+: cs.drop first.length) : first ++ second <+: cs := by
  obtain ⟨rest, rfl⟩ := begins
  rw [List.drop_left] at goesOn
  exact (List.prefix_append_right_inj first).mpr goesOn

/-- The path ends where it has been reported to end: before that there is no `.go` with a colon
after it. -/
theorem first?_path (ends : ".go".toList <:+ path) (uncut : ¬ ".go:".toList <:+: path)
    (inLine : '\n' ∉ path) (next : t.rest = path ++ ':' :: more)
    (succeeds : node.first? follow ((t.capture 1 path (':' :: more)).past [':'] more) = some a) :
    (colon pathNode node).first? follow t = some a := by
  obtain ⟨stem, rfl⟩ := ends
  have inside : ∀ c ∈ stem, dot.has c.toNat = true := fun c member =>
    has_dot fun same => inLine (List.mem_append_left _ (same ▸ member))
  rw [List.append_assoc] at next
  refine Regex.first?_reluctant (t := t.enter) next inside
    (fun former latter split nonempty => ?_) ?_
  · rw [Regex.first?_spelled (by decide)]
    refine ite_eq_right_iff.mpr fun go => ?_
    refine (Regex.first?_spelled (List.cons_ne_nil _ _) _).trans (if_neg fun colon => ?_)
    have early : ".go:".toList <+: latter ++ (".go".toList ++ ':' :: more) :=
      append_prefix_of_prefix_drop go colon
    have within : latter ++ ".go".toList <+: latter ++ (".go".toList ++ ':' :: more) :=
      (List.prefix_append_right_inj latter).mpr (List.prefix_append _ _)
    have long : ".go:".toList.length ≤ (latter ++ ".go".toList).length := by
      rw [List.length_append]
      exact Nat.add_le_add_right (List.length_pos_iff.mpr nonempty) 3
    have inPath : latter ++ ".go".toList <:+ stem ++ ".go".toList :=
      ⟨former, by rw [split, List.append_assoc]⟩
    exact uncut ((List.prefix_of_prefix_length_le early within long).isInfix.trans inPath.isInfix)
  · refine (Regex.first?_spelled (by decide) _).trans ?_
    rw [Thread.rest_past, if_pos (List.prefix_append _ _), List.drop_left, Thread.past_past]
    exact (first?_colon rfl).trans succeeds

/-- A number ends where its digits end. -/
theorem first?_number {index : Nat} {n : UInt32} {name : String}
    (next : t.rest = digits n ++ ':' :: more)
    (succeeds : node.first? follow ((t.capture index (digits n) (':' :: more)).past [':'] more) =
      some a) :
    (colon (numberNode index name) node).first? follow t = some a := by
  refine Regex.first?_run (t := t.enter) next (Text.toString_ne_nil n.toNat)
    (fun c member => Text.has_digit (Text.isDigit_of_mem_toString member)) ?_
    ((first?_colon rfl).trans succeeds)
  intro c first
  obtain rfl := Option.some.inj first
  decide

/-- The message takes the rest of the line. -/
theorem first?_message {index : Nat} (inLine : '\n' ∉ message)
    (plain : ∀ c ∈ message.head?, Text.isBlank c = false) (next : t.rest = ' ' :: message) :
    (messageNode index).first? some t = some ((t.past [' '] message).capture index message []) := by
  have blank : ∀ c ∈ [' '], CharSet.space.has c.toNat = true := by
    rw [List.forall_mem_singleton, Text.has_space]
    decide
  have apart : t.rest = [' '] ++ message := next
  refine Regex.first?_anyNumber apart blank (fun c first => ?_) ?_
  · rw [Text.has_space, plain c first]
  · refine Regex.first?_anyNumber (t := (t.past [' '] message).enter) (List.append_nil message).symm
      (fun c member => has_dot fun same => inLine (same ▸ member)) nofun rfl

end Passing

/-! ## What is captured -/

/-- The place before a text. -/
def textStart (whole : List Char) : Thread :=
  { index := 0, before := none, rest := whole }

section Reports

variable {path message : String} {line col : UInt32} {whole : List Char}

/-- What is captured of a report with a column. -/
theorem exists_first?_withColumn (report : Reportable path message)
    (written : whole = path.toList ++
      ':' :: (digits line ++ ':' :: (digits col ++ ':' :: ' ' :: message.toList))) :
    ∃ t, withColumn.first? some (textStart whole) = some t ∧ t.Recalls whole
      [(4, message.toList), (3, digits col), (2, digits line), (1, path.toList)] := by
  have start := Thread.Recalls.start whole
  have afterPath := (start.capture 1 written).past [':'] rfl
  have afterLine := (afterPath.capture 2 rfl).past [':'] rfl
  have afterCol := (afterLine.capture 3 rfl).past [':'] rfl
  have afterBlank := afterCol.past [' '] rfl
  refine ⟨_, ?_, afterBlank.capture 4 (List.append_nil message.toList).symm⟩
  exact first?_path report.ends report.uncut report.path_inLine written
    (first?_number rfl (first?_number rfl
      (first?_message report.message_inLine report.head_message rfl)))

/-- What is captured of a report without a column. -/
theorem exists_first?_withoutColumn (report : Reportable path message)
    (written : whole = path.toList ++ ':' :: (digits line ++ ':' :: ' ' :: message.toList)) :
    ∃ t, withoutColumn.first? some (textStart whole) = some t ∧ t.Recalls whole
      [(3, message.toList), (2, digits line), (1, path.toList)] := by
  have start := Thread.Recalls.start whole
  have afterPath := (start.capture 1 written).past [':'] rfl
  have afterLine := (afterPath.capture 2 rfl).past [':'] rfl
  have afterBlank := afterLine.past [' '] rfl
  refine ⟨_, ?_, afterBlank.capture 3 (List.append_nil message.toList).symm⟩
  exact first?_path report.ends report.uncut report.path_inLine written
    (first?_number rfl (first?_message report.message_inLine report.head_message rfl))

end Reports

/-- What a pattern captures when backtracking succeeds at the start of a line. -/
theorem captures?_of_first? {pattern : OutputPattern} {line : String} {t : Thread}
    {texts : List (Nat × List Char)} (advances : pattern.regex.node.loopsAdvance = true)
    (easy : pattern.regex.node.effort false ≤ Regex.maxEffort)
    (found : pattern.regex.node.first? some (textStart line.toList) = some t)
    (recalls : t.Recalls line.toList texts) : pattern.captures? line =
      some fun name => ((pattern.regex.groupNumber? name).bind (texts.lookup ·)).map .ofList := by
  rw [captures?, Regex.find?, Node.find_of_first? advances easy found]
  refine congrArg some (funext fun name => ?_)
  dsimp only [Regex.groupSpan?]
  cases pattern.regex.groupNumber? name with
  | none => rfl
  | some group =>
    rw [Option.bind_some, Option.bind_some, ← recalls.captured group, Option.map_map]
    rfl

/-- A small pattern is one with its tree, whichever linter it is read for. -/
theorem exists_compile [Regex.SizeRule] {text : String} {node : Node} (linter : String)
    (read : ∃ r, @Regex.compile .strictest (expandPattern text) = .ok r ∧ r.node = node)
    (path : (node.names.lookup "path").isSome = true) :
    ∃ pattern, compile linter text = .ok pattern ∧ pattern.regex.node = node := by
  obtain ⟨r, read, rfl⟩ := read
  have group : r.hasGroup "path" = true := path
  refine ⟨⟨r, group⟩, ?_, rfl⟩
  rw [compile, Regex.compile_of_strictest read]
  exact dif_pos group

end OutputPattern

namespace OutputReader

open OutputPattern

variable {d : LinterDefinition} {p : Policy} {path : String} {line col : UInt32}

/-- The issue of a report, when nothing is said of its severity. -/
def reported (d : LinterDefinition) (p : Policy) (path : String) (line col : UInt32)
    (message : String) : Issue where
  linter := d.name
  path
  line
  col
  severity := (p.severityFor d.name <|> d.severity).getD .warning
  message

/-- A number is read from its captured digits. -/
theorem number_digits (n : UInt32) : number (some (.ofList (digits n))) = n := by
  rw [number, Option.bind_some, String.toList_ofList]
  exact congrArg (·.getD 0) (Text.readWord32?_trimChars_toString n)

theorem reportedPath_of_relative (relative : Path.isAbsolute path = false) :
    reportedPath p path = path := by
  rw [reportedPath, Path.relativize, relative, if_neg Bool.false_ne_true]

/-- A line is read as a report when path, numbers and message are captured and no severity is. -/
theorem readLine_of_captures {text said : String} {captures : String → Option String}
    (unset : p.messageOverride d.name = none) (relative : Path.isAbsolute path = false)
    (nonempty : path ≠ "") (trimmed : Text.trimEnd said = said)
    (matched : d.pattern.captures? text = some captures) (ofPath : captures "path" = some path)
    (ofLine : number (captures "line") = line) (ofCol : number (captures "col") = col)
    (ofSeverity : captures "severity" = none) (ofMessage : captures "message" = some said) :
    readLine d p text = some (reported d p path line col said) := by
  have shown : message d p captures = said := by
    rw [message, unset, ofMessage]
    exact trimmed
  have stated : severity d p captures = (p.severityFor d.name <|> d.severity).getD .warning := by
    rw [severity, ofSeverity]
    rfl
  rw [readLine, matched]
  dsimp only [Option.bind_eq_bind, Option.bind_some]
  rw [ofPath, Option.getD_some, if_neg nonempty, ofLine, ofCol, shown, stated,
    reportedPath_of_relative relative]
  rfl

/-- A report with a column is read by the pattern of such reports. -/
theorem readLine_withColumn {message : String} (ofPattern : d.pattern.regex.node = withColumn)
    (unset : p.messageOverride d.name = none) (report : Reportable path message) :
    readLine d p (path ++ ":" ++ toString line ++ ":" ++ toString col ++ ": " ++ message) =
      some (reported d p path line col message) := by
  have written : (path ++ ":" ++ toString line ++ ":" ++ toString col ++ ": " ++ message).toList =
      path.toList ++
        ':' :: (digits line ++ ':' :: (digits col ++ ':' :: ' ' :: message.toList)) := by
    simp only [String.toList_append, List.append_assoc]
    rfl
  obtain ⟨t, found, recalls⟩ := exists_first?_withColumn report written
  refine readLine_of_captures unset report.relative report.nonempty report.trimEnd_message
    (captures?_of_first? (by rw [ofPattern]; decide) (by rw [ofPattern]; decide)
      (ofPattern ▸ found) recalls) ?_ ?_ ?_ ?_ ?_
  all_goals rw [Regex.groupNumber?, ofPattern]
  · exact congrArg some path.ofList_toList
  · exact number_digits line
  · exact number_digits col
  · rfl
  · exact congrArg some message.ofList_toList

/-- A report without a column is read by the pattern of such reports. -/
theorem readLine_withoutColumn {message : String} (ofPattern : d.pattern.regex.node = withoutColumn)
    (unset : p.messageOverride d.name = none) (report : Reportable path message) :
    readLine d p (path ++ ":" ++ toString line ++ ": " ++ message) =
      some (reported d p path line 0 message) := by
  have written : (path ++ ":" ++ toString line ++ ": " ++ message).toList =
      path.toList ++ ':' :: (digits line ++ ':' :: ' ' :: message.toList) := by
    simp only [String.toList_append, List.append_assoc]
    rfl
  obtain ⟨t, found, recalls⟩ := exists_first?_withoutColumn report written
  refine readLine_of_captures unset report.relative report.nonempty report.trimEnd_message
    (captures?_of_first? (by rw [ofPattern]; decide) (by rw [ofPattern]; decide)
      (ofPattern ▸ found) recalls) ?_ ?_ ?_ ?_ ?_
  all_goals rw [Regex.groupNumber?, ofPattern]
  · exact congrArg some path.ofList_toList
  · exact number_digits line
  · rfl
  · rfl
  · exact congrArg some message.ofList_toList

/-- **The short patterns read what has been reported.** They can be read for every linter. A linter
with one of them and without a message template of its own gives an issue with the path, the line,
the column if there is one, and the message that it has reported. -/
theorem readLine_shorthands [Regex.SizeRule] (linter : String) :
    ∃ withColumn withoutColumn : OutputPattern,
      OutputPattern.compile linter "PATH:LINE:COL:MESSAGE" = .ok withColumn ∧
      OutputPattern.compile linter "PATH:LINE:MESSAGE" = .ok withoutColumn ∧
      ∀ (d : LinterDefinition) (p : Policy) (path : String) (line col : UInt32) (message : String),
        p.messageOverride d.name = none → Reportable path message →
        (d.pattern = withColumn →
          readLine d p (path ++ ":" ++ toString line ++ ":" ++ toString col ++ ": " ++ message) =
            some (reported d p path line col message)) ∧
        (d.pattern = withoutColumn →
          readLine d p (path ++ ":" ++ toString line ++ ": " ++ message) =
            some (reported d p path line 0 message)) := by
  obtain ⟨withColumn, read, ofColumn⟩ :=
    exists_compile linter exists_compile_withColumn (by decide)
  obtain ⟨withoutColumn, read', ofNoColumn⟩ :=
    exists_compile linter exists_compile_withoutColumn (by decide)
  refine ⟨withColumn, withoutColumn, read, read', ?_⟩
  intro d p path line col message unset report
  refine ⟨?_, ?_⟩
  · rintro same
    exact readLine_withColumn (same ▸ ofColumn) unset report
  · rintro same
    exact readLine_withoutColumn (same ▸ ofNoColumn) unset report

/-- A linter that reports columns. -/
def columned : LinterSpec :=
  { command := "vet", pattern := "PATH:LINE:COL:MESSAGE" }

open scoped Regex.SizeRule

theorem exists_columned {pattern : OutputPattern}
    (read : OutputPattern.compile "vet" columned.pattern = .ok pattern) :
    ∃ d, LinterDefinition.ofSpec "vet" columned = .ok d ∧ d.name = "vet" ∧ d.pattern = pattern := by
  obtain ⟨args, words⟩ :
      ∃ args, LinterDefinition.compileCommand "vet" columned.command = .ok args :=
    exists_ok_of_isSome (by decide +kernel)
  rw [LinterDefinition.ofSpec, words, read]
  exact ⟨_, rfl, rfl, rfl⟩

theorem exists_unset :
    ∃ p, ({ root := some "/work" } : PolicyBuilder).build {} = .ok p ∧
      p.messageOverride "vet" = none :=
  exists_ok_of_map (by decide +kernel)

/-- A message that looks like a place in another file. -/
theorem readLine_shorthands_message : ∃ d p, LinterDefinition.ofSpec "vet" columned = .ok d ∧
    ({ root := some "/work" } : PolicyBuilder).build {} = .ok p ∧
    (readLine d p "a.go:1:2: b.go:3:4: x").map (fun i => (i.path, i.line, i.col, i.message)) =
      some ("a.go", 1, 2, "b.go:3:4: x") := by
  obtain ⟨_, _, read, -, reads⟩ := readLine_shorthands "vet"
  obtain ⟨d, checked, named, ofPattern⟩ := exists_columned read
  obtain ⟨p, built, unset⟩ := exists_unset
  have report : Reportable "a.go" "b.go:3:4: x" :=
    ⟨by decide, by decide, by decide, by decide, by decide, by decide⟩
  obtain ⟨line, -⟩ := reads d p "a.go" 1 2 "b.go:3:4: x" (named ▸ unset) report
  exact ⟨d, p, checked, built, congrArg _ (line ofPattern)⟩

end OutputReader

end LintRun
