import LintRun.Nolint.Directive
import LintRun.Proofs.Regex.CharSets
import LintRun.Proofs.Regex.Following
import LintRun.Proofs.Text.Blanks
import LintRun.Proofs.Text.Decimal
import LintRun.Proofs.Text.Lines
import Mathlib.Data.List.DropRight

/-!
# Directives alone on their lines

A directive is recognized at a comment marker that is followed by the word `nolint`, perhaps after
white space, and a line is cut at the first such marker (`Carrier`). The comment is **alone** on its
line if nothing but white space is ahead of it and, when it is closed again, behind it
(`Carrier.isAlone`). Repetitions of the marker's first character right before the marker, as in
`/// nolint`, belong to the comment.

Whether a directive speaks of the next line is decided by what stands before the marker, and by that
alone (`suppresses_next`). So the two notions come apart in two ways, and in no other: when the
marker is repeated, and when something stands behind a comment that is closed
(`standalone_unlike_alone`).
-/

set_option autoImplicit false

namespace LintRun.Directive

open Regex (CharSet Node)

/-! ## The comments that carry directives -/

/-- The markers that start comments. -/
def markers : List (List Char) :=
  ["//", "#", "/*", "--"].map String.toList

/-- Whether a text begins with the word of directives, perhaps after white space. -/
def isNamed (cs : List Char) : Bool :=
  let word := cs.dropWhile Text.isBlank
  word.take 6 == "nolint".toList && !Regex.isWordChar false (word.drop 6).head?

/-- Whether a text begins with a comment that carries a directive. -/
def opens (cs : List Char) : Bool :=
  markers.any fun marker => cs.take marker.length == marker && isNamed (cs.drop marker.length)

/-- What stands behind a comment that is closed by `*/`, nothing if it is not closed. -/
def afterClose : List Char → List Char
  | [] => []
  | '*' :: '/' :: rest => rest
  | _ :: rest => afterClose rest

/-- A line with a comment that carries a directive, cut at the marker of the first such comment. -/
structure Carrier where
  before : List Char
  marker : List Char
  rest : List Char
  isMarker : marker ∈ markers
  named : isNamed rest = true
  first : ∀ i < before.length, opens ((before ++ (marker ++ rest)).drop i) = false

namespace Carrier

/-- The line as it stands. -/
def line (k : Carrier) : List Char :=
  k.before ++ (k.marker ++ k.rest)

/-- The repetitions of the marker's first character right before the marker. -/
def extra (k : Carrier) : List Char :=
  k.before.rtakeWhile (k.marker.head? == some ·)

/-- What stands ahead of the comment. -/
def ahead (k : Carrier) : List Char :=
  k.before.rdropWhile (k.marker.head? == some ·)

/-- What stands behind the comment. Only a comment that begins with `/*` can be closed. -/
def behind (k : Carrier) : List Char :=
  if k.extra ++ k.marker = "/*".toList then afterClose k.rest else []

/-- Whether the line holds nothing but white space and the comment. -/
def isAlone (k : Carrier) : Bool :=
  k.ahead.all Text.isBlank && k.behind.all Text.isBlank

end Carrier

/-! ## Where the pattern leads -/

variable {cs : List Char}

theorem isNamed_iff : isNamed cs = true ↔ ∃ blank after : List Char,
    cs = blank ++ ("nolint".toList ++ after) ∧ (∀ c ∈ blank, Text.isBlank c = true) ∧
      Regex.isWordChar false after.head? = false := by
  rw [isNamed, Bool.and_eq_true, beq_iff_eq, Bool.not_eq_true']
  constructor
  · rintro ⟨word, ended⟩
    refine ⟨cs.takeWhile Text.isBlank, (cs.dropWhile Text.isBlank).drop 6, ?_,
      fun c member => List.mem_takeWhile_imp member, ended⟩
    rw [← word, List.take_append_drop, List.takeWhile_append_dropWhile]
  · rintro ⟨blank, after, rfl, all, ended⟩
    have word : (blank ++ ("nolint".toList ++ after)).dropWhile Text.isBlank =
        "nolint".toList ++ after := by
      rw [List.dropWhile_append_of_pos all]
      exact List.dropWhile_cons_of_neg (by decide)
    rw [word]
    exact ⟨rfl, ended⟩

theorem opens_iff : opens cs = true ↔
    ∃ marker ∈ markers, ∃ rest, cs = marker ++ rest ∧ isNamed rest = true := by
  simp only [opens, List.any_eq_true, Bool.and_eq_true, beq_iff_eq]
  refine exists_congr fun marker => and_congr_right fun _ => ⟨?_, ?_⟩
  · rintro ⟨begins, named⟩
    have split := List.take_append_drop marker.length cs
    rw [begins] at split
    exact ⟨_, split.symm, named⟩
  · rintro ⟨rest, rfl, named⟩
    rw [List.take_left, List.drop_left]
    exact ⟨rfl, named⟩

theorem notInWord_space : Regex.isWordChar false (some ' ') = false := by
  rw [Regex.isWordChar, if_neg Bool.false_ne_true, CharSet.has_word_of_ascii (by decide)]
  decide

theorem inWord_t : Regex.isWordChar false (some 't') = true := by
  rw [Regex.isWordChar, if_neg Bool.false_ne_true, CharSet.has_word_of_ascii (by decide)]
  decide

/-- The word of directives ends where no word goes on. -/
theorem holds_after_word {whole after : List Char} {i : Nat}
    (word : whole.drop i = "nolint".toList ++ after) :
    (Regex.Look.boundary .word false).holds (Regex.place whole (i + "nolint".toList.length)) =
      !Regex.isWordChar false after.head? :=
  Regex.holds_wordBoundary word rfl inWord_t

/-- The pattern leads anywhere exactly from the places before comments that carry directives, for
the names of linters may be left out. -/
theorem leads_node_iff {whole : List Char} {i : Nat} :
    (∃ j, node.Leads whole i j) ↔ opens (whole.drop i) = true := by
  have some_marker : (["//", "#", "/*", "--"].map literal) ≠ [] := List.cons_ne_nil _ _
  rw [opens_iff]
  constructor
  · rintro ⟨j, m, led, n, spaced, k, word, _, ⟨bounded, rfl⟩, -⟩
    obtain ⟨_, listed, leads⟩ := (Node.leads_choice_iff some_marker).mp led
    obtain ⟨marker, member, rfl⟩ := List.mem_map.mp listed
    obtain ⟨begins, rfl⟩ := Node.leads_spelled_iff.mp leads
    obtain ⟨blank, goesOn, rfl, all⟩ := Node.leads_anyNumber_iff.mp spaced
    obtain ⟨named, rfl⟩ := Node.leads_spelled_iff.mp word
    refine ⟨marker.toList, List.mem_map_of_mem member, _, begins, isNamed_iff.mpr ?_⟩
    refine ⟨blank, _, goesOn.trans (congrArg _ named), fun c member => ?_, ?_⟩
    · rw [← Text.has_space]
      exact all c member
    · exact Bool.not_eq_true' _ |>.mp ((holds_after_word named).symm.trans bounded)
  · rintro ⟨_, listed, rest, begins, named⟩
    obtain ⟨marker, member, rfl⟩ := List.mem_map.mp listed
    obtain ⟨blank, after, rfl, all, ended⟩ := isNamed_iff.mp named
    have goesOn := Regex.drop_add_of_drop begins
    have named := Regex.drop_add_of_drop goesOn
    have behind := Regex.drop_add_of_drop named
    have atMarker := Node.leads_spelled_iff.mpr ⟨begins.trans (congrArg _ goesOn.symm), rfl⟩
    have atBlank := Node.leads_anyNumber_iff.mpr ⟨blank, goesOn.trans (congrArg _ named.symm), rfl,
      fun c member => (Text.has_space c).trans (all c member)⟩
    have atWord := Node.leads_spelled_iff.mpr ⟨named.trans (congrArg _ behind.symm), rfl⟩
    have bounded := (holds_after_word named).trans (congrArg (!·) ended)
    exact ⟨_, _, (Node.leads_choice_iff some_marker).mpr ⟨_, List.mem_map_of_mem member, atMarker⟩,
      _, atBlank, _, atWord, _, ⟨bounded, rfl⟩, .inr rfl⟩

/-! ## The comment that decides -/

/-- A match starts where the first comment does that carries a directive. -/
theorem opens_start_of_match {line : List Char} {m : Regex.Match}
    (found : node.findByPreference line = some m) : opens (line.drop m.span.start) = true ∧
      ∀ i < m.span.start, opens (line.drop i) = false := by
  have start : Regex.Thread.At line { index := 0, before := none, rest := line } :=
    ⟨Nat.zero_le _, rfl, rfl⟩
  obtain ⟨-, leads, earliest⟩ := Node.first_of_findFrom (by decide) start found
  exact ⟨leads_node_iff.mp leads, fun i before => Bool.eq_false_iff.mpr fun opened =>
    earliest i (Nat.zero_le i) before (leads_node_iff.mpr opened)⟩

/-- The line of a directive is cut at the place where the pattern matches. -/
theorem exists_carrier {number : UInt32} {line : List Char} {d : Directive}
    (recognized : ofLine? number line = some d) : d.line = number ∧
      ∃ k : Carrier, k.line = line ∧ d.standalone = k.before.all Text.isBlank := by
  obtain ⟨m, found, rfl⟩ := Option.map_eq_some_iff.mp recognized
  obtain ⟨opened, first⟩ := opens_start_of_match found
  obtain ⟨marker, isMarker, rest, begins, named⟩ := opens_iff.mp opened
  have split : line.take m.span.start ++ (marker ++ rest) = line := by
    rw [← begins, List.take_append_drop]
  refine ⟨rfl, ⟨line.take m.span.start, marker, rest, isMarker, named, fun i earlier => ?_⟩,
    split, rfl⟩
  rw [split]
  exact first i (earlier.trans_le (List.length_take_le _ _))

namespace Carrier

variable {k k' : Carrier}

theorem opens_line (k : Carrier) : opens (k.line.drop k.before.length) = true :=
  opens_iff.mpr ⟨k.marker, k.isMarker, k.rest, by rw [line, List.drop_left], k.named⟩

theorem length_le_of_line_eq (same : k.line = k'.line) : k.before.length ≤ k'.before.length := by
  refine Nat.not_lt.mp fun later => ?_
  have unopened : opens (k.line.drop k'.before.length) = false := k.first _ later
  rw [same, k'.opens_line] at unopened
  cases unopened

/-- No marker begins with another one. -/
theorem marker_eq_of_isPrefix {marker marker' : List Char} (isMarker : marker ∈ markers)
    (isMarker' : marker' ∈ markers) (begins : marker <+: marker') : marker = marker' := by
  have apart : ∀ m ∈ markers, ∀ m' ∈ markers, m <+: m' → m = m' := by decide
  exact apart marker isMarker marker' isMarker' begins

/-- No other marker stands where a line is cut. -/
theorem marker_eq_of_begins {marker : List Char} (k : Carrier) (isMarker : marker ∈ markers)
    (begins : marker <+: k.marker ++ k.rest) : marker = k.marker := by
  rcases List.prefix_or_prefix_of_prefix begins (List.prefix_append k.marker k.rest) with one | one
  · exact marker_eq_of_isPrefix isMarker k.isMarker one
  · exact (marker_eq_of_isPrefix k.isMarker isMarker one).symm

/-- There is only one way to cut a line. -/
theorem line_injective (same : k.line = k'.line) : k = k' := by
  have length := (length_le_of_line_eq same).antisymm (length_le_of_line_eq same.symm)
  obtain ⟨ahead, comment⟩ := List.append_inj same length
  have begins : k.marker <+: k'.marker ++ k'.rest := comment ▸ List.prefix_append k.marker k.rest
  have marker := k'.marker_eq_of_begins k.isMarker begins
  rw [marker] at comment
  have rest := List.append_cancel_left comment
  obtain ⟨before, marker, rest, isMarker, named, first⟩ := k
  obtain ⟨before', marker', rest', isMarker', named', first'⟩ := k'
  subst ahead marker rest
  rfl

/-- The line at the start of a text. -/
theorem at_start (k : Carrier) (after : List Char) (unended : '\n' ∉ k.line)
    (unreturned : Text.dropReturn k.line = k.line) :
    (Text.linesOf (k.line ++ '\n' :: after))[0]? = some k.line := by
  rw [Text.linesOf_cut unended, List.getElem?_cons_zero, unreturned]

end Carrier

/-- A line has a directive exactly if there is a comment on it that carries one. -/
theorem isSome_ofLine?_iff {number : UInt32} {line : List Char} :
    (ofLine? number line).isSome = true ↔ ∃ k : Carrier, k.line = line := by
  constructor
  · intro recognized
    obtain ⟨d, recognized⟩ := Option.isSome_iff_exists.mp recognized
    obtain ⟨-, k, same, -⟩ := exists_carrier recognized
    exact ⟨k, same⟩
  · rintro ⟨k, rfl⟩
    obtain ⟨j, leads⟩ := leads_node_iff.mpr k.opens_line
    rw [ofLine?, Option.isSome_map, Node.isSome_findByPreference_iff (by decide)]
    exact ⟨k.before.length, j, List.length_append ▸ Nat.le_add_right _ _, leads⟩

/-! ## Lines of a source -/

section Lines

variable {source : String} {d : Directive} {n : Nat} {k : Carrier} {issue : Issue}

theorem toNat_line_of_numbered {number : Nat} {line : List Char}
    (found : (Text.word32? number).bind (ofLine? · line) = some d) : d.line.toNat = number := by
  obtain ⟨word, fits, found⟩ := Option.bind_eq_some_iff.mp found
  obtain ⟨m, -, rfl⟩ := Option.map_eq_some_iff.mp found
  exact Text.word32?_eq_some_iff.mp fits

/-- The directives of a source text come in the order of their lines, at most one on a line. -/
theorem readAll_ascending (source : String) :
    (readAll source).Pairwise (·.line < ·.line) := by
  have numbered : ((Text.linesOf source.toList).zipIdx 1).Pairwise (·.2 < ·.2) := by
    rw [← List.pairwise_map, List.zipIdx_map_snd]
    exact List.pairwise_lt_range'
  refine List.Pairwise.filterMap _ ?_ numbered
  intro a b less d ofA d' ofB
  rw [UInt32.lt_iff_toNat_lt, toNat_line_of_numbered ofA, toNat_line_of_numbered ofB]
  exact less

theorem mem_readAll_iff : d ∈ readAll source ↔ ∃ (n : Nat) (line : List Char) (number : UInt32),
    (Text.linesOf source.toList)[n]? = some line ∧ number.toNat = n + 1 ∧
      ofLine? number line = some d := by
  simp only [readAll, List.mem_filterMap, Prod.exists, List.mk_mem_zipIdx_iff_le_and_getElem?_sub,
    Option.bind_eq_some_iff, Text.word32?_eq_some_iff]
  constructor
  · rintro ⟨line, _, ⟨positive, here⟩, number, rfl, recognized⟩
    obtain ⟨n, numbered⟩ := Nat.exists_eq_add_of_le' positive
    rw [numbered, Nat.add_sub_cancel] at here
    exact ⟨n, line, number, here, numbered, recognized⟩
  · rintro ⟨n, line, number, here, numbered, recognized⟩
    exact ⟨line, n + 1, ⟨Nat.le_add_left 1 n, here⟩, number, numbered, recognized⟩

/-- Whether a directive is standalone is decided by what stands before the marker on its line. -/
theorem exists_line (recognized : d ∈ readAll source) : ∃ n, d.line.toNat = n + 1 ∧
    (∃ k : Carrier, (Text.linesOf source.toList)[n]? = some k.line) ∧
    ∀ k : Carrier, (Text.linesOf source.toList)[n]? = some k.line →
      d.standalone = k.before.all Text.isBlank := by
  obtain ⟨n, line, number, here, numbered, recognized⟩ := mem_readAll_iff.mp recognized
  obtain ⟨rfl, k, rfl, standalone⟩ := exists_carrier recognized
  refine ⟨n, numbered, ⟨k, here⟩, fun k' here' => ?_⟩
  obtain rfl := Carrier.line_injective (Option.some.inj (here.symm.trans here'))
  exact standalone

/-- Of the line after its own a directive speaks if it is standalone. -/
theorem suppresses_eq_standalone (next : issue.line = d.line + 1)
    (covered : d.covers issue = true) : d.suppresses issue = d.standalone := by
  have other : (d.line == d.line + 1) = false := beq_eq_false_iff_ne.mpr (by simp)
  rw [suppresses, appliesTo, covered, next, other, beq_self_eq_true, Bool.and_true, Bool.and_true,
    Bool.false_or]

theorem exists_covered (d : Directive) (line : UInt32) :
    ∃ issue : Issue, issue.line = line ∧ d.covers issue = true := by
  cases names : d.linters.names with
  | nil =>
    have everywhere : d.linters.isEmpty = true := List.isEmpty_iff.mpr names
    exact ⟨{ linter := "", path := "", line }, rfl, by rw [covers, everywhere, Bool.true_or]⟩
  | cons name rest =>
    have named : d.linters.contains name = true := by
      rw [NameSet.contains, names]
      exact List.contains_iff_mem.mpr List.mem_cons_self
    exact ⟨{ linter := name, path := "", line }, rfl, Bool.or_eq_true _ _ |>.mpr (.inr
      (List.any_eq_true.mpr ⟨name, List.mem_cons_self, named⟩))⟩

/-- A directive where a comment carries one, and an issue for it on the next line. -/
theorem exists_next (number : UInt32) (here : (Text.linesOf source.toList)[n]? = some k.line)
    (numbered : number.toNat = n + 1) :
    ∃ d ∈ readAll source, ∃ issue : Issue, d.line = number ∧ issue.line = number + 1 ∧
      d.covers issue = true ∧ d.suppresses issue = k.before.all Text.isBlank := by
  have some_directive : (ofLine? number k.line).isSome = true := isSome_ofLine?_iff.mpr ⟨k, rfl⟩
  obtain ⟨d, recognized⟩ := Option.isSome_iff_exists.mp some_directive
  obtain ⟨rfl, k', same, standalone⟩ := exists_carrier recognized
  obtain rfl := Carrier.line_injective same
  obtain ⟨issue, next, covered⟩ := exists_covered d (d.line + 1)
  refine ⟨d, mem_readAll_iff.mpr ⟨n, k'.line, d.line, here, numbered, recognized⟩, issue, rfl, next,
    covered, ?_⟩
  rw [suppresses_eq_standalone next covered, standalone]

end Lines

/-! ## When the notions come apart -/

namespace Carrier

theorem ahead_append_extra (k : Carrier) : k.ahead ++ k.extra = k.before :=
  List.rdropWhile_append_rtakeWhile

/-- Characters of markers are no white space. -/
theorem all_extra_iff (k : Carrier) : k.extra.all Text.isBlank = true ↔ k.extra = [] := by
  have plain : ∀ marker ∈ markers, marker.head?.any Text.isBlank = false := by decide
  refine ⟨fun all => List.eq_nil_iff_forall_not_mem.mpr fun c member => ?_, fun none => none ▸ rfl⟩
  have repeats : (k.marker.head? == some c) = true :=
    List.mem_rtakeWhile_imp (p := (k.marker.head? == some ·)) member
  have first : k.marker.head? = some c := beq_iff_eq.mp repeats
  have other := plain k.marker k.isMarker
  rw [first, Option.any_some, List.all_eq_true.mp all c member] at other
  cases other

/-- A comment whose marker is repeated is not closed. -/
theorem behind_of_extra (k : Carrier) (repeated : k.extra ≠ []) : k.behind = [] := by
  refine if_neg fun opening => ?_
  have closes : ∀ marker ∈ markers, marker <:+ "/*".toList → marker = "/*".toList := by decide
  have whole := closes k.marker k.isMarker (opening ▸ List.suffix_append k.extra k.marker)
  rw [whole] at opening
  exact repeated (List.append_cancel_right opening)

/-- What stands before the marker is white space exactly when the comment is alone, unless nothing
but white space is ahead of a comment whose marker is repeated or behind which something stands. -/
theorem all_before_eq_isAlone_iff (k : Carrier) : k.before.all Text.isBlank = k.isAlone ↔
    (k.ahead.all Text.isBlank = true → k.extra = [] ∧ k.behind.all Text.isBlank = true) := by
  rw [← k.ahead_append_extra, List.all_append, isAlone, ← k.all_extra_iff]
  by_cases repeated : k.extra = []
  · rw [k.all_extra_iff.mpr repeated]
    cases k.ahead.all Text.isBlank <;> cases k.behind.all Text.isBlank <;> decide
  · have silent : k.behind.all Text.isBlank = true := by rw [k.behind_of_extra repeated]; rfl
    rw [silent]
    cases k.ahead.all Text.isBlank <;> cases k.extra.all Text.isBlank <;> decide

end Carrier

/-- **A directive speaks of the next line when white space alone stands before its marker.** So the
directives that do are those in comments that are alone on their lines, except where nothing but
white space is ahead of a comment whose marker is repeated or behind which something stands. -/
theorem suppresses_next (source : String) (d : Directive) (recognized : d ∈ readAll source) :
    ∃ n, d.line.toNat = n + 1 ∧
      (∃ k : Carrier, (Text.linesOf source.toList)[n]? = some k.line) ∧
      ∀ k : Carrier, (Text.linesOf source.toList)[n]? = some k.line →
        ∀ issue : Issue, issue.line = d.line + 1 → d.covers issue = true →
          d.suppresses issue = k.before.all Text.isBlank ∧
          (d.suppresses issue = k.isAlone ↔ (k.ahead.all Text.isBlank = true →
            k.extra = [] ∧ k.behind.all Text.isBlank = true)) := by
  obtain ⟨n, numbered, cut, standalone⟩ := exists_line recognized
  refine ⟨n, numbered, cut, fun k here issue next covered => ?_⟩
  rw [suppresses_eq_standalone next covered, standalone k here]
  exact ⟨rfl, k.all_before_eq_isAlone_iff⟩

/-- The line of a comment that is alone on it. -/
def indented : Carrier where
  before := ['\t']
  marker := "//".toList
  rest := " nolint".toList
  isMarker := by decide
  named := by decide
  first := by decide

theorem suppresses_next_indented : ∃ d ∈ readAll "\t// nolint\n\ty := g()\n", ∃ issue : Issue,
    d.line = 1 ∧ issue.line = 2 ∧ d.covers issue = true ∧ indented.isAlone = true ∧
      d.suppresses issue = indented.isAlone := by
  have here : (Text.linesOf "\t// nolint\n\ty := g()\n".toList)[0]? = some indented.line :=
    indented.at_start "\ty := g()\n".toList (by decide) (by decide)
  obtain ⟨d, recognized, issue, numbered, next, covered, -⟩ := exists_next 1 here rfl
  obtain ⟨n, numbered', -, decided⟩ := suppresses_next _ d recognized
  obtain rfl : n = 0 := Nat.succ.inj (numbered'.symm.trans (congrArg UInt32.toNat numbered))
  obtain ⟨-, alike⟩ := decided indented here issue (numbered.symm ▸ next) covered
  exact ⟨d, recognized, issue, numbered, next, covered, by decide,
    alike.mpr fun _ => ⟨by decide, by decide⟩⟩

/-- The line of a comment that is closed before the code begins. -/
def closed : Carrier where
  before := []
  marker := "/*".toList
  rest := " nolint */ x := f()".toList
  isMarker := by decide
  named := isNamed_iff.mpr ⟨[' '], " */ x := f()".toList, rfl,
    List.forall_mem_singleton.mpr (by decide), notInWord_space⟩
  first := nofun

/-- The line of a comment whose marker is repeated. -/
def repeated : Carrier where
  before := ['/']
  marker := "//".toList
  rest := " nolint".toList
  isMarker := by decide
  named := by decide
  first := by decide

/-- A directive that is not alone on its line speaks of the next one, and a directive that is alone
on its line does not. -/
theorem standalone_unlike_alone :
    (∃ d ∈ readAll "/* nolint */ x := f()\ny := g()\n", ∃ issue : Issue, d.line = 1 ∧
      issue.line = 2 ∧ d.covers issue = true ∧ d.suppresses issue = true ∧
      closed.line = "/* nolint */ x := f()".toList ∧ closed.isAlone = false) ∧
    ∃ d ∈ readAll "/// nolint\ny := g()\n", ∃ issue : Issue, d.line = 1 ∧
      issue.line = 2 ∧ d.covers issue = true ∧ d.suppresses issue = false ∧
      repeated.line = "/// nolint".toList ∧ repeated.isAlone = true := by
  have atClosed :
      (Text.linesOf "/* nolint */ x := f()\ny := g()\n".toList)[0]? = some closed.line :=
    closed.at_start "y := g()\n".toList (by decide) (by decide)
  have atRepeated : (Text.linesOf "/// nolint\ny := g()\n".toList)[0]? = some repeated.line :=
    repeated.at_start "y := g()\n".toList (by decide) (by decide)
  obtain ⟨d, recognized, issue, numbered, next, covered, suppressed⟩ := exists_next 1 atClosed rfl
  obtain ⟨d', recognized', issue', numbered', next', covered', kept⟩ := exists_next 1 atRepeated rfl
  refine ⟨⟨d, recognized, issue, numbered, next, covered, suppressed, rfl, by decide⟩, ?_⟩
  refine ⟨d', recognized', issue', numbered', next', covered', kept.trans ?_, rfl, ?_⟩
  · decide
  · decide

end LintRun.Directive
