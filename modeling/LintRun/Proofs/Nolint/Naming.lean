import LintRun.Proofs.Aggregation.Groups
import LintRun.Proofs.Nolint.Record
import LintRun.Proofs.Nolint.Scanning
import LintRun.Proofs.Registry.Histories

/-!
# Directives that name a linter

A directive such as `// nolint: errcheck` is written for one linter. It does what it says exactly
for the names that can be written (`IsName`), those with at least one character and none but
letters, marks, digits, connectors and hyphens (`suppresses_named`). Any other text behind the colon
is read as far as it is a list. If it begins as names do, the directive suppresses the linters whose
names are read, as with a list that is meant as one. If it does not, then the colon and what follows
it are not read at all, and the directive suppresses every linter.

Linters may have such names (`misread_names`).
-/

set_option autoImplicit false

namespace LintRun.Directive

open Regex (CharSet)

/-! ## The directive on a line -/

variable {source : String} {d : Directive} {n : Nat} {k : Carrier} {issue : Issue} {name : String}

theorem eq_of_line_eq {other : Directive} (member : d ∈ readAll source)
    (member' : other ∈ readAll source) (same : other.line = d.line) : other = d := by
  have distinct : ((readAll source).map (·.line)).Nodup :=
    List.pairwise_map.mpr ((readAll_ascending source).imp UInt32.ne_of_lt)
  exact List.inj_on_of_nodup_map distinct member' member same

/-- Where a line is cut there is one directive, which a scan finds. -/
theorem exists_unique_scanned (number : UInt32)
    (here : (Text.linesOf source.toList)[n]? = some k.line) (numbered : number.toNat = n + 1) :
    ∃ d ∈ readAll source, Scanned k d ∧
      ∀ other ∈ readAll source, other.line = number ↔ other = d := by
  obtain ⟨d, recognized, rfl, scanned⟩ := exists_scanned number k
  have member : d ∈ readAll source :=
    mem_readAll_iff.mpr ⟨n, k.line, d.line, here, numbered, recognized⟩
  exact ⟨d, member, scanned, fun other member' => ⟨eq_of_line_eq member member', congrArg _⟩⟩

/-- On its line a directive suppresses a raw issue if it has no names or names its linter. -/
theorem suppresses_raw_iff (onLine : issue.line = d.line) (raw : issue.contributors = ∅) :
    d.suppresses issue = true ↔ d.linters = ∅ ∨ issue.linter ∈ d.linters := by
  rw [suppresses, appliesTo, onLine, beq_self_eq_true, Bool.true_or, Bool.true_and, covers,
    Issue.linters_of_raw raw, List.any_cons, List.any_nil, Bool.or_false, Bool.or_eq_true,
    NameSet.isEmpty_iff, NameSet.contains_iff]

/-! ## A name behind the word -/

namespace Carrier

/-- Whether a comment is a directive with a colon and a name, as in `// nolint: errcheck`. -/
def Names (k : Carrier) (name : String) : Prop :=
  k.rest = " nolint: ".toList ++ name.toList

variable {list : List Char}

theorem Names.afterWord_eq (named : k.Names name) : k.afterWord = ": ".toList ++ name.toList := by
  rw [afterWord, named]
  rfl

/-- The list of the directive is the name without the white space before it. -/
theorem Names.scopes_iff (named : k.Names name) : Scopes k.afterWord list ↔
    list = Text.trimStartChars name.toList ∧ StartsName list := by
  rw [named.afterWord_eq]
  constructor
  · rintro ⟨separator, split, separates, starts⟩
    refine ⟨?_, starts⟩
    rw [← separates.dropWhile_eq isBlank_colon starts, ← split]
    rfl
  · rintro ⟨rfl, starts⟩
    refine ⟨':' :: ' ' :: name.toList.takeWhile Text.isBlank, ?_, ⟨[], _, rfl, nofun, ?_⟩, starts⟩
    · rw [List.cons_append, List.cons_append, Text.trimStartChars, List.takeWhile_append_dropWhile]
      rfl
    · exact List.forall_mem_cons.mpr ⟨by decide, fun c member => List.mem_takeWhile_imp member⟩

theorem Names.linters_of_not_startsName (named : k.Names name) (scanned : Scanned k d)
    (nameless : ¬ StartsName (Text.trimStartChars name.toList)) : d.linters = ∅ := by
  refine scanned.unnamed fun list scopes => ?_
  obtain ⟨rfl, starts⟩ := named.scopes_iff.mp scopes
  exact nameless starts

theorem Names.linters_of_isLongest (named : k.Names name) (scanned : Scanned k d)
    {text : List Char} {names : List (List Char)}
    (longest : IsLongest (Text.trimStartChars name.toList) text names) :
    d.linters = .ofList (names.map .ofList) ∧ d.linters ≠ ∅ := by
  have starts : StartsName (Text.trimStartChars name.toList) := longest.startsName
  exact (scanned.named _ (named.scopes_iff.mpr ⟨rfl, starts⟩)).2 text names longest

end Carrier

theorem mem_ofList_iff {names : List (List Char)} :
    name ∈ NameSet.ofList (names.map .ofList) ↔ name.toList ∈ names := by
  rw [NameSet.mem_ofList, List.mem_map]
  constructor
  · rintro ⟨cs, member, rfl⟩
    rwa [String.toList_ofList]
  · exact fun member => ⟨name.toList, member, String.ofList_toList⟩

/-- What a directive with a name suppresses on its line, by the longest list with which the name
begins. -/
theorem suppresses_iff_mem (named : k.Names name) (scanned : Scanned k d) {text : List Char}
    {names : List (List Char)} (longest : IsLongest (Text.trimStartChars name.toList) text names)
    (onLine : issue.line = d.line) (raw : issue.contributors = ∅) :
    d.suppresses issue = true ↔ issue.linter.toList ∈ names := by
  obtain ⟨linters, nonempty⟩ := named.linters_of_isLongest scanned longest
  rw [suppresses_raw_iff onLine raw, or_iff_right nonempty, linters, mem_ofList_iff]

/-- A directive suppresses everything on its line if its name does not begin as names do. -/
theorem suppresses_of_not_startsName (named : k.Names name) (scanned : Scanned k d)
    (nameless : ¬ StartsName (Text.trimStartChars name.toList)) (onLine : issue.line = d.line) :
    d.suppresses issue = true := by
  have everywhere : d.linters.isEmpty = true :=
    (NameSet.isEmpty_iff _).mpr (named.linters_of_not_startsName scanned nameless)
  rw [suppresses, appliesTo, onLine, beq_self_eq_true, Bool.true_or, covers, everywhere]
  rfl

/-- A raw issue of a linter on a line. -/
def issueOf (linter : String) (line : UInt32) : Issue :=
  { linter, path := "main.go", line }

/-- A directive with a name does not suppress everything if the name begins as names do: no name of
its list is empty. -/
theorem not_suppresses_nameless (named : k.Names name) (scanned : Scanned k d)
    (starts : StartsName (Text.trimStartChars name.toList)) :
    d.suppresses (issueOf "" d.line) = false := by
  obtain ⟨text, names, longest⟩ := exists_longest starts
  refine Bool.eq_false_iff.mpr fun suppressed => ?_
  have member := (suppresses_iff_mem named scanned longest rfl rfl).mp suppressed
  exact (longest.listing.isName_of_mem _ member).nonempty rfl

/-- A name that can be written is the only one that its directive suppresses. -/
theorem suppresses_iff_of_isName (named : k.Names name) (scanned : Scanned k d)
    (isName : IsName name.toList) (onLine : issue.line = d.line) (raw : issue.contributors = ∅) :
    d.suppresses issue = true ↔ issue.linter = name := by
  have untrimmed : Text.trimStartChars name.toList = name.toList := by
    obtain ⟨c, rest, split⟩ := List.exists_cons_of_ne_nil isName.nonempty
    have first := isName.isBlank_of_mem c (split ▸ List.mem_cons_self)
    rw [split, Text.trimStartChars, List.dropWhile_cons_of_neg (Bool.eq_false_iff.mp first)]
  have longest : IsLongest (name.toList ++ []) name.toList [name.toList] :=
    isName.isLongest fun c first => absurd first (Option.not_mem_none c)
  rw [List.append_nil, ← untrimmed] at longest
  rw [suppresses_iff_mem named scanned longest onLine raw, untrimmed, List.mem_singleton,
    String.toList_inj]

/-- Only a name that can be written is the one that its directive suppresses. -/
theorem isName_of_suppresses_iff (named : k.Names name) (scanned : Scanned k d)
    (precise : ∀ linter, d.suppresses (issueOf linter d.line) = true ↔ linter = name) :
    IsName name.toList := by
  by_cases starts : StartsName (Text.trimStartChars name.toList)
  · obtain ⟨text, names, longest⟩ := exists_longest starts
    obtain ⟨first, more, rfl⟩ := List.exists_cons_of_ne_nil longest.listing.ne_nil
    have isName := longest.listing.isName_of_mem first List.mem_cons_self
    have suppressed : d.suppresses (issueOf (.ofList first) d.line) = true := by
      rw [suppresses_iff_mem named scanned longest rfl rfl]
      exact String.toList_ofList.symm ▸ List.mem_cons_self
    rw [← (precise _).mp suppressed, String.toList_ofList]
    exact isName
  · have everything : ∀ linter, linter = name := fun linter =>
      (precise linter).mp (suppresses_of_not_startsName named scanned starts rfl)
    exact absurd ((everything "").trans (everything "a").symm) (by decide)

/-- **A directive that is written for a linter suppresses the issues of this linter and no others
exactly if its name can be written.** It suppresses all issues on its line exactly if the text
behind the colon does not begin with a name, and otherwise those of the linters in the longest list
with which the text begins. -/
theorem suppresses_named (source : String) (n : Nat) (number : UInt32) (k : Carrier) (name : String)
    (here : (Text.linesOf source.toList)[n]? = some k.line) (numbered : number.toNat = n + 1)
    (named : k.Names name) :
    ∃ d ∈ readAll source, (∀ other ∈ readAll source, other.line = number ↔ other = d) ∧
      ((∀ issue : Issue, issue.line = number → issue.contributors = ∅ →
        (d.suppresses issue = true ↔ issue.linter = name)) ↔ IsName name.toList) ∧
      ((∀ issue : Issue, issue.line = number → d.suppresses issue = true) ↔
        ¬ StartsName (Text.trimStartChars name.toList)) ∧
      ∀ text names, IsLongest (Text.trimStartChars name.toList) text names →
        ∀ issue : Issue, issue.line = number → issue.contributors = ∅ →
          (d.suppresses issue = true ↔ issue.linter.toList ∈ names) := by
  obtain ⟨d, member, scanned, only⟩ := exists_unique_scanned number here numbered
  obtain rfl : d.line = number := (only d member).mpr rfl
  refine ⟨d, member, only, ⟨fun precise => ?_, fun isName issue onLine raw => ?_⟩,
    ⟨fun everything starts => ?_, fun nameless issue onLine => ?_⟩,
    fun text names longest issue onLine raw => ?_⟩
  · exact isName_of_suppresses_iff named scanned fun linter => precise _ rfl rfl
  · exact suppresses_iff_of_isName named scanned isName onLine raw
  · have suppressed := everything (issueOf "" d.line) rfl
    rw [not_suppresses_nameless named scanned starts] at suppressed
    cases suppressed
  · exact suppresses_of_not_startsName named scanned nameless onLine
  · exact suppresses_iff_mem named scanned longest onLine raw

/-! ## Comments behind code -/

theorem notInWord_colon : Regex.isWordChar false (some ':') = false := by
  rw [Regex.isWordChar, if_neg Bool.false_ne_true, CharSet.has_word_of_ascii (by decide)]
  decide

theorem isNamed_comment (name : String) : isNamed (" nolint: ".toList ++ name.toList) = true :=
  isNamed_iff.mpr ⟨[' '], ": ".toList ++ name.toList, rfl,
    List.forall_mem_singleton.mpr (by decide), notInWord_colon⟩

/-- No comment begins in the code. -/
theorem opens_code (rest : List Char) (i : Nat) (earlier : i < "code ".toList.length) :
    opens (("code ".toList ++ ("//".toList ++ rest)).drop i) = false := by
  have within : i < 5 := earlier
  obtain rfl | rfl | rfl | rfl | rfl : i = 0 ∨ i = 1 ∨ i = 2 ∨ i = 3 ∨ i = 4 := by omega
  all_goals rfl

/-- The line of some code with a directive behind it. -/
def comment (name : String) : Carrier where
  before := "code ".toList
  marker := "//".toList
  rest := " nolint: ".toList ++ name.toList
  isMarker := List.mem_cons_self
  named := isNamed_comment name
  first := opens_code _

theorem names_comment (name : String) : (comment name).Names name :=
  rfl

/-- A name of letters, digits, underscores and hyphens of ASCII. -/
theorem isName_of_ascii {cs : List Char} (nonempty : cs ≠ [])
    (ascii : (cs.all fun c => decide (c.toNat < 0x80) &&
      (CharSet.asciiWord.has c.toNat || (CharSet.single '-'.toNat).has c.toNat)) = true) :
    IsName cs where
  nonempty := nonempty
  inside c member := by
    obtain ⟨within, inside⟩ := Bool.and_eq_true_iff.mp (List.all_eq_true.mp ascii c member)
    rw [isNameChar_of_ascii (of_decide_eq_true within), inside]

theorem isName_errcheck : IsName "errcheck".toList :=
  isName_of_ascii (by decide) (by decide)

theorem suppresses_named_errcheck : (Text.linesOf "code // nolint: errcheck\n".toList)[0]? =
      some (comment "errcheck").line ∧ (comment "errcheck").Names "errcheck" ∧
    ∃ d ∈ readAll "code // nolint: errcheck\n",
      ∀ issue : Issue, issue.line = 1 → issue.contributors = ∅ →
        (d.suppresses issue = true ↔ issue.linter = "errcheck") := by
  have here : (Text.linesOf "code // nolint: errcheck\n".toList)[0]? =
      some (comment "errcheck").line :=
    (comment "errcheck").at_start [] (by decide) (by decide)
  obtain ⟨d, member, -, precise, -⟩ :=
    suppresses_named _ 0 1 _ _ here rfl (names_comment "errcheck")
  exact ⟨here, names_comment "errcheck", d, member, precise.mpr isName_errcheck⟩

/-! ## Names that are misread -/

/-- Of the issues on the first line of a source those are kept that the directive of the line does
not suppress, for there is no line before it. -/
theorem kept_first {issues : List Issue} (member : d ∈ readAll source)
    (only : ∀ other ∈ readAll source, other.line = 1 ↔ other = d)
    (onLine : ∀ issue ∈ issues, issue.line = 1) :
    (NolintFilter.apply (fun _ => some source) {} issues).1 = issues.filter (!d.suppresses ·) := by
  rw [NolintFilter.kept_of_fresh]
  refine List.filter_congr fun issue among => congrArg (!·) ?_
  have first := onLine issue among
  have judged : NolintFilter.suppressed (fun _ => some source) issue =
      (readAll source).any (·.suppresses issue) := by
    rw [NolintFilter.suppressed, first]
    rfl
  rw [judged, Bool.eq_iff_iff, List.any_eq_true]
  refine ⟨fun exists_other => ?_, fun suppressed => ⟨d, member, suppressed⟩⟩
  obtain ⟨other, among', suppressed⟩ := exists_other
  obtain ⟨n, numbered, -⟩ := exists_line among'
  have applies := (Bool.and_eq_true_iff.mp suppressed).1
  rw [appliesTo, first, Bool.or_eq_true, beq_iff_eq] at applies
  rcases applies with here | next
  · exact (only other among').mp here ▸ suppressed
  · -- No directive is on line zero.
    have zero : other.line = 0 := by simpa using (Bool.and_eq_true_iff.mp next).2
    rw [zero] at numbered
    exact absurd numbered.symm (Nat.succ_ne_zero n)

/-- The definition of a linter, whatever its name. -/
def plainly (name : String) : Registry.Call :=
  ⟨name, { command := "sh", pattern := "PATH:LINE:COL:MESSAGE" }⟩

theorem isName_go : IsName "go".toList :=
  isName_of_ascii (by decide) (by decide)

theorem isNameChar_dot : isNameChar '.' = false := by
  rw [isNameChar_of_ascii (by decide)]
  decide

theorem isNameChar_at : isNameChar '@' = false := by
  rw [isNameChar_of_ascii (by decide)]
  decide

/-- Of a name with a dot in it only what stands before the dot is read. -/
theorem isLongest_go : IsLongest ("go".toList ++ ".vet".toList) "go".toList ["go".toList] := by
  refine isName_go.isLongest fun c first => ?_
  obtain rfl : '.' = c := Option.some.inj first
  rw [isNameChar_dot]
  decide

theorem not_startsName_at : ¬ StartsName "@all".toList := by
  rintro ⟨c, first, inName⟩
  obtain rfl : '@' = c := Option.some.inj first
  rw [isNameChar_at] at inName
  cases inName

open scoped Regex.SizeRule in
/-- A registry can hold linters whose directives are misread: that of one linter suppresses another
and not the linter itself, and that of another linter suppresses all linters. -/
theorem misread_names :
    (∀ name ∈ ["go", "go.vet", "@all", "spell"], (Registry.run .empty
      (["go", "go.vet", "@all", "spell"].map plainly)).registry.contains name = true) ∧
    (NolintFilter.apply (fun _ => some "code // nolint: go.vet\n") {}
      [issueOf "go.vet" 1, issueOf "go" 1]).1 = [issueOf "go.vet" 1] ∧
    (NolintFilter.apply (fun _ => some "code // nolint: @all\n") {}
      [issueOf "@all" 1, issueOf "spell" 1]).1 = [] := by
  refine ⟨by decide +kernel, ?_, ?_⟩
  · have here : (Text.linesOf "code // nolint: go.vet\n".toList)[0]? =
        some (comment "go.vet").line := (comment "go.vet").at_start [] (by decide) (by decide)
    obtain ⟨d, member, scanned, only⟩ := exists_unique_scanned 1 here rfl
    have first : 1 = d.line := ((only d member).mpr rfl).symm
    have decided (linter : String) :
        d.suppresses (issueOf linter 1) = true ↔ linter.toList ∈ ["go".toList] :=
      suppresses_iff_mem (names_comment "go.vet") scanned isLongest_go first rfl
    have kept : d.suppresses (issueOf "go.vet" 1) = false :=
      Bool.eq_false_iff.mpr fun suppressed => absurd ((decided "go.vet").mp suppressed) (by decide)
    have dropped : d.suppresses (issueOf "go" 1) = true := (decided "go").mpr List.mem_cons_self
    have onLine : ∀ issue ∈ [issueOf "go.vet" 1, issueOf "go" 1], issue.line = 1 := by decide
    rw [kept_first member only onLine, List.filter_cons, List.filter_cons, kept, dropped]
    rfl
  · have here : (Text.linesOf "code // nolint: @all\n".toList)[0]? =
        some (comment "@all").line := (comment "@all").at_start [] (by decide) (by decide)
    obtain ⟨d, member, scanned, only⟩ := exists_unique_scanned 1 here rfl
    have first : 1 = d.line := ((only d member).mpr rfl).symm
    have dropped (linter : String) : d.suppresses (issueOf linter 1) = true :=
      suppresses_of_not_startsName (names_comment "@all") scanned not_startsName_at first
    have onLine : ∀ issue ∈ [issueOf "@all" 1, issueOf "spell" 1], issue.line = 1 := by decide
    rw [kept_first member only onLine, List.filter_cons, List.filter_cons, dropped, dropped]
    rfl

end LintRun.Directive
