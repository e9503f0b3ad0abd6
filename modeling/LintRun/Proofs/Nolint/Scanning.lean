import LintRun.Proofs.Nolint.NameLists
import LintRun.Proofs.Nolint.Standalone

/-!
# Scanning for directives

The pattern of directives is tried by backtracking, and it could match a line in many ways. What it
finds can nevertheless be told by going through the line from left to right (`readAll_scanned`). A
line has a directive exactly if a comment that carries one begins somewhere on it, and the first
such comment decides (`Carrier`); only the lines whose numbers do not fit into a word of 32 bits
have none. Its names are those of the longest list behind the word and a colon, perhaps with white
space around the colon (`Scopes`); if there is no such list, it has none.

The reason is that each part of the pattern **refuses** what the part before it takes. What follows
white space is a word, a mark or a name, and they do not begin with white space, so white space is
passed as a whole (`first?_blanks`); what follows a name is a comma or white space, which is not in
names. There is a choice only after each name of a list. The search goes on there while further
names follow (`first?_names`), and as nothing comes behind a list that could fail, it is never taken
back.
-/

set_option autoImplicit false

namespace LintRun.Directive

open Regex (Node CharSet Thread place)

/-! ## Passing what stands around a name -/

section Passing

variable {α : Type} {follow : Thread → Option α} {t : Thread} {body : Node} {mark : Char}
  {cs separator rest text : List Char} {names : List (List Char)}

/-- All white space is passed if what follows does not begin with any. -/
theorem first?_blanks (next : t.rest = cs ++ rest) (blank : ∀ c ∈ cs, Text.isBlank c = true)
    (ended : ∀ c ∈ rest.head?, Text.isBlank c = false)
    (refused : ∀ u : Thread, ∀ c ∈ u.rest.head?, Text.isBlank c = true → follow u = none) :
    blanks.first? follow t = follow (t.past cs rest) := by
  simp only [← Text.has_space] at blank ended refused
  exact Regex.first?_anyNumber_of_refused next blank ended refused

/-- A mark, perhaps with white space around it, and a pattern behind it. -/
def marked (mark : Char) (body : Node) : Node :=
  Node.sequence [blanks, .set (CharSet.single mark.toNat), blanks, body]

theorem ended_dropWhile (cs : List Char) :
    ∀ c ∈ (cs.dropWhile Text.isBlank).head?, Text.isBlank c = false := by
  intro c first
  have some_first := List.head?_dropWhile_not Text.isBlank cs
  rwa [first] at some_first

/-- White space before the mark is passed. -/
theorem first?_marked_eq (other : Text.isBlank mark = false) (next : t.rest = cs ++ rest)
    (blank : ∀ c ∈ cs, Text.isBlank c = true) (ended : ∀ c ∈ rest.head?, Text.isBlank c = false) :
    (marked mark body).first? follow t = (Node.set (CharSet.single mark.toNat)).first?
      (blanks.first? (body.first? follow)) (t.past cs rest) := by
  refine first?_blanks next blank ended fun u c first blank => ?_
  obtain ⟨after, split⟩ := List.head?_eq_some_iff.mp first
  have different : mark ≠ c := by
    rintro rfl
    rw [other] at blank
    cases blank
  change (Node.set (CharSet.single mark.toNat)).first? _ u = none
  rw [Regex.first?_single, split]
  exact if_neg different

section Marked

variable (other : Text.isBlank mark = false)
  (refused : ∀ u : Thread, ¬ StartsName u.rest → body.first? follow u = none)
include other refused

theorem first?_marked_of_blanks {ahead behind : List Char}
    (next : t.rest = ahead ++ mark :: (behind ++ rest))
    (blank : ∀ c ∈ ahead, Text.isBlank c = true) (blank' : ∀ c ∈ behind, Text.isBlank c = true)
    (ended : ∀ c ∈ rest.head?, Text.isBlank c = false) :
    (marked mark body).first? follow t =
      body.first? follow (t.past (ahead ++ mark :: behind) rest) := by
  have ended' : ∀ c ∈ (mark :: (behind ++ rest)).head?, Text.isBlank c = false :=
    fun c first => Option.some.inj first ▸ other
  rw [first?_marked_eq other next blank ended', Regex.first?_single, Thread.rest_past]
  dsimp only
  rw [if_pos rfl, Thread.past_past, first?_blanks rfl blank' ended, Thread.past_past,
    List.append_assoc]
  · rfl
  · intro u c first blank
    refine refused u fun starts => ?_
    rw [starts.isBlank_head c first] at blank
    cases blank

/-- Behind a mark the search goes on at a name. -/
theorem first?_marked (next : t.rest = separator ++ rest) (separates : IsSeparator mark separator)
    (starts : StartsName rest) :
    (marked mark body).first? follow t = body.first? follow (t.past separator rest) := by
  obtain ⟨ahead, behind, rfl, blank, blank'⟩ := separates
  rw [List.append_assoc, List.cons_append] at next
  exact first?_marked_of_blanks other refused next blank blank' starts.isBlank_head

/-- Where there is no mark with a name behind it the search fails. -/
theorem first?_marked_eq_none (nothing : ∀ separator rest, t.rest = separator ++ rest →
    IsSeparator mark separator → ¬ StartsName rest) :
    (marked mark body).first? follow t = none := by
  have split := (List.takeWhile_append_dropWhile (p := Text.isBlank) (l := t.rest)).symm
  have blank : ∀ c ∈ t.rest.takeWhile Text.isBlank, Text.isBlank c = true :=
    fun c member => List.mem_takeWhile_imp member
  have ended := ended_dropWhile t.rest
  by_cases mark_next : (t.rest.dropWhile Text.isBlank).head? = some mark
  · obtain ⟨after, cut⟩ := List.head?_eq_some_iff.mp mark_next
    have split' := (List.takeWhile_append_dropWhile (p := Text.isBlank) (l := after)).symm
    have blank' : ∀ c ∈ after.takeWhile Text.isBlank, Text.isBlank c = true :=
      fun c member => List.mem_takeWhile_imp member
    rw [cut, split'] at split
    rw [first?_marked_of_blanks other refused split blank blank' (ended_dropWhile after)]
    refine refused _ (nothing _ _ ?_ ⟨_, _, rfl, blank, blank'⟩)
    rw [List.append_assoc, List.cons_append]
    exact split
  · rw [first?_marked_eq other split blank ended, Regex.first?_single, Thread.rest_past]
    split
    · rfl
    · rename_i c after cut
      refine if_neg fun same => mark_next ?_
      rw [cut, same, List.head?_cons]

end Marked

/-! ## Passing a list -/

/-- A further name of a list. -/
def further : Node :=
  marked ',' (.run true nameChars)

theorem first?_name_eq_none (nameless : ¬ StartsName t.rest) :
    (Node.run true nameChars).first? follow t = none := by
  refine Regex.runFirst?_of_outside fun c first => ?_
  exact Bool.eq_false_iff.mpr fun inName => nameless ⟨c, first, inName⟩

theorem isBlank_comma : Text.isBlank ',' = false := by
  decide

/-- A list is passed to its end if what follows always succeeds: after each name the search goes on
with a further name if there is one. -/
theorem first?_names (total : ∀ u, (follow u).isSome = true)
    (longest : IsLongest (text ++ rest) text names) {goOn : Thread → Option α}
    (loops : ∀ u : Thread, u.rest.length ≤ (text ++ rest).length → ∃ fuel, u.rest.length < fuel ∧
      goOn u = Regex.goOn? further.first? true follow fuel u)
    (next : t.rest = text ++ rest) :
    (Node.run true nameChars).first? goOn t = follow (t.past text rest) := by
  have listing := longest.listing
  induction listing generalizing t goOn with
  | @single name isName =>
    obtain ⟨ended, nothing⟩ := longest.stops isName
    obtain ⟨a, succeeds⟩ := Option.isSome_iff_exists.mp (total (t.past name rest))
    obtain ⟨fuel, enough, goesOn⟩ := loops (t.past name rest) (by simp)
    obtain ⟨fuel, rfl⟩ := Nat.exists_eq_succ_of_ne_zero (Nat.ne_zero_of_lt enough)
    rw [succeeds]
    refine Regex.first?_run next isName.nonempty isName.inside ended ?_
    have alone : further.first? (Regex.goOn? further.first? true follow fuel) (t.past name rest) =
        none := first?_marked_eq_none isBlank_comma (fun _ => first?_name_eq_none) nothing
    rw [goesOn, Regex.goOn?, if_pos rfl, alone, Option.none_or, succeeds]
  | @cons name separator text names isName separates listing ih =>
    rw [List.append_assoc, List.append_assoc] at longest loops next
    obtain ⟨a, succeeds⟩ := Option.isSome_iff_exists.mp
      (total (t.past (name ++ (separator ++ text)) rest))
    obtain ⟨fuel, enough, goesOn⟩ := loops (t.past name (separator ++ (text ++ rest))) (by simp)
    obtain ⟨fuel, rfl⟩ := Nat.exists_eq_succ_of_ne_zero (Nat.ne_zero_of_lt enough)
    have some_separator := List.length_pos_iff.mpr separates.ne_nil
    rw [Thread.rest_past, List.length_append] at enough
    have onward : further.first? (Regex.goOn? further.first? true follow fuel)
        (t.past name (separator ++ (text ++ rest))) = some a := by
      rw [further, first?_marked isBlank_comma (fun _ => first?_name_eq_none) rfl separates
        (listing.startsName rest), Thread.past_past]
      rw [← succeeds, ← List.append_assoc, ← Thread.past_past _ _ text _ (text ++ rest)]
      exact ih (longest.tail isName separates listing) (fun u within => ⟨fuel, by omega, rfl⟩) rfl
    rw [succeeds]
    refine Regex.first?_run next isName.nonempty isName.inside ?_ ?_
    · exact fun c first => separates.isNameChar_of_mem c (List.mem_of_head? (by
        rwa [List.head?_append_of_ne_nil _ separates.ne_nil] at first))
    · rw [goesOn, Regex.goOn?, if_pos rfl, onward, Option.some_or]

/-- Of names behind each other the pattern finds the longest list. -/
theorem first?_nameList (total : ∀ u, (follow u).isSome = true)
    (longest : IsLongest t.rest text names) :
    nameList.first? follow t = follow (t.past text (t.rest.drop text.length)) := by
  obtain ⟨rest, split⟩ := longest.begins
  rw [← split] at longest
  rw [← split, List.drop_left]
  exact first?_names total longest (fun u _ => ⟨u.rest.length + 2, by omega, rfl⟩) split.symm

/-- What the list takes up is remembered. -/
theorem first?_group (total : ∀ u, (follow u).isSome = true)
    (longest : IsLongest t.rest text names) : (Node.group 1 none nameList).first? follow t =
      follow (t.capture 1 text (t.rest.drop text.length)) :=
  first?_nameList (t := t.enter) (fun u => total (u.leave 1)) longest

theorem first?_group_eq_none (nameless : ¬ StartsName t.rest) :
    (Node.group 1 none nameList).first? follow t = none :=
  first?_name_eq_none (t := t.enter) nameless

end Passing

/-! ## From the word of a directive on -/

section Scope

variable {whole after list text : List Char} {names : List (List Char)} {t : Thread}

/-- Whether a text goes on with a colon and then, as its list, with one that begins with a name. -/
def Scopes (after list : List Char) : Prop :=
  ∃ separator, after = separator ++ list ∧ IsSeparator ':' separator ∧ StartsName list

theorem isBlank_colon : Text.isBlank ':' = false := by
  decide

theorem Scopes.startsName (scopes : Scopes after list) : StartsName list := by
  obtain ⟨-, -, -, starts⟩ := scopes
  exact starts

/-- A text is followed by one list only. -/
theorem Scopes.unique {list' : List Char} (scopes : Scopes after list)
    (scopes' : Scopes after list') : list = list' := by
  obtain ⟨separator, split, separates, starts⟩ := scopes
  obtain ⟨separator', split', separates', starts'⟩ := scopes'
  rw [← separates.dropWhile_eq isBlank_colon starts, ← split, split',
    separates'.dropWhile_eq isBlank_colon starts']

/-- A colon and the list behind it. -/
def scope : Node :=
  marked ':' (.group 1 none nameList)

theorem first?_scope (recalls : Thread.Recalls whole t []) (scopes : Scopes t.rest list)
    (longest : IsLongest list text names) : ∃ u,
      (Node.optional true scope).first? some t = some u ∧ Thread.Recalls whole u [(1, text)] := by
  obtain ⟨separator, next, separates, starts⟩ := scopes
  obtain ⟨rest, rfl⟩ := longest.begins
  have passed : scope.first? some t =
      some ((t.past separator (text ++ rest)).capture 1 text rest) := by
    rw [scope, first?_marked isBlank_colon (fun _ => first?_group_eq_none) next separates starts,
      first?_group (fun _ => rfl) longest, Thread.rest_past, List.drop_left]
  refine ⟨_, ?_, (recalls.past separator next).capture 1 rfl⟩
  change (scope.first? some t).or _ = _
  rw [passed, Option.some_or]

theorem first?_scope_of_unscoped (unscoped : ∀ list, ¬ Scopes t.rest list) :
    (Node.optional true scope).first? some t = some t := by
  have nothing : scope.first? some t = none :=
    first?_marked_eq_none isBlank_colon (fun _ => first?_group_eq_none)
      fun separator list next separates starts =>
        unscoped list ⟨separator, next, separates, starts⟩
  change (scope.first? some t).or (some t) = some t
  rw [nothing, Option.none_or]

end Scope

/-! ## From the marker of a directive to its word -/

/-- The word of a directive is passed if no word goes on behind it. -/
theorem first?_word {follow : Thread → Option Thread} {whole after : List Char} {t : Thread}
    (here : t.At whole) (next : t.rest = "nolint".toList ++ after)
    (ended : Regex.isWordChar false after.head? = false) :
    (literal "nolint").first? ((Node.look (.boundary .word false)).first? follow) t =
      follow (t.past "nolint".toList after) := by
  have behind : (t.past "nolint".toList after).At whole := here.past next
  have boundary := (behind.holds (.boundary .word false)).trans
    (holds_after_word (here.rest.symm.trans next))
  change (Regex.spelled "nolint".toList).first? _ t = _
  rw [Regex.first?_spelled (by decide), if_pos (next ▸ List.prefix_append _ after), next,
    List.drop_left, Node.first?, if_pos (boundary.trans (by rw [ended]; rfl))]

theorem first?_word_of_isBlank {follow : Thread → Option Thread} {t : Thread} {c : Char}
    (first : c ∈ t.rest.head?) (blank : Text.isBlank c = true) :
    (literal "nolint").first? follow t = none := by
  change (Regex.spelled "nolint".toList).first? _ t = none
  obtain ⟨after, split⟩ := List.head?_eq_some_iff.mp first
  rw [Regex.first?_spelled (by decide), split]
  refine if_neg fun begins => ?_
  obtain rfl : 'n' = c := (List.cons_prefix_cons.mp begins).1
  exact absurd blank (by decide)

namespace Carrier

variable (k : Carrier)

/-- What follows the word of the directive. -/
def afterWord : List Char :=
  (k.rest.dropWhile Text.isBlank).drop "nolint".length

/-- The pattern passes the marker and the word, and then the list if there is one. -/
theorem first?_node : ∃ u : Thread, u.rest = k.afterWord ∧ Thread.Recalls k.line u [] ∧
    node.first? some (place k.line k.before.length) =
      (Node.optional true scope).first? some u := by
  obtain ⟨word, ended⟩ := Bool.and_eq_true_iff.mp k.named
  have split : k.rest = k.rest.takeWhile Text.isBlank ++ ("nolint".toList ++ k.afterWord) := by
    have goesOn := List.take_append_drop 6 (k.rest.dropWhile Text.isBlank)
    rw [eq_of_beq word] at goesOn
    exact (List.takeWhile_append_dropWhile.symm.trans (congrArg _ goesOn.symm))
  have start : Thread.Recalls k.line (place k.line k.before.length) [] :=
    ⟨Thread.at_place (List.length_append ▸ Nat.le_add_right _ _), fun _ => rfl⟩
  have next : (place k.line k.before.length).rest = k.marker ++ k.rest := List.drop_left
  have atMarker := start.past k.marker next
  have atBlank := atMarker.past (k.rest.takeWhile Text.isBlank) split
  have atWord := atBlank.past "nolint".toList rfl
  refine ⟨_, rfl, atWord, ?_⟩
  change (Node.choice (markers.map Regex.spelled)).first? _ _ = _
  rw [Regex.first?_choice_spelled k.isMarker (by decide) _ next]
  · refine (first?_blanks split ?_ ?_ ?_).trans (first?_word atBlank.inText rfl ?_)
    · exact fun c member => List.mem_takeWhile_imp member
    · exact fun c first => Option.some.inj first ▸ (by decide)
    · exact fun u c first blank => first?_word_of_isBlank first blank
    · rw [← Bool.not_eq_true']
      exact ended
  · intro marker isMarker begins
    rw [next] at begins
    exact k.marker_eq_of_begins isMarker begins

end Carrier

/-! ## What a scan finds -/

/-- What a scan finds where a line is cut: whether nothing but white space stands before the
comment, and the names of the longest list that follows the word, none if no list follows. -/
structure Scanned (k : Carrier) (d : Directive) : Prop where
  standalone : d.standalone = true ↔ ∀ c ∈ k.before, Text.isBlank c = true
  named : ∀ list, Scopes k.afterWord list → (∃ text names, IsLongest list text names) ∧
    ∀ text names, IsLongest list text names →
      d.linters = .ofList (names.map .ofList) ∧ d.linters ≠ ∅
  unnamed : (∀ list, ¬ Scopes k.afterWord list) → d.linters = ∅

theorem Listing.ofList_ne_empty {text : List Char} {names : List (List Char)}
    (listing : Listing text names) : NameSet.ofList (names.map .ofList) ≠ ∅ := by
  obtain ⟨name, more, rfl⟩ := List.exists_cons_of_ne_nil listing.ne_nil
  intro empty
  have member : String.ofList name ∈ NameSet.ofList ((name :: more).map .ofList) :=
    (NameSet.mem_ofList _ _).mpr (List.mem_map_of_mem List.mem_cons_self)
  rw [empty] at member
  exact NameSet.not_mem_empty _ member

/-- The match on a line starts where the line is cut. -/
theorem exists_match (k : Carrier) : ∃ m, node.findByPreference k.line = some m ∧
    m.span.start = k.before.length := by
  have recognized : (ofLine? 0 k.line).isSome = true := isSome_ofLine?_iff.mpr ⟨k, rfl⟩
  rw [ofLine?, Option.isSome_map] at recognized
  obtain ⟨m, found⟩ := Option.isSome_iff_exists.mp recognized
  obtain ⟨opened, first⟩ := opens_start_of_match found
  refine ⟨m, found, le_antisymm (Nat.not_lt.mp fun later => ?_) (Nat.not_lt.mp fun earlier => ?_)⟩
  · exact Bool.false_ne_true ((first _ later).symm.trans k.opens_line)
  · exact Bool.false_ne_true ((k.first _ earlier).symm.trans opened)

/-- The directive on a line, by the text of its list that backtracking remembers. -/
theorem ofLine?_line (number : UInt32) {k : Carrier} {u : Thread} {texts : List (Nat × List Char)}
    (found : node.first? some (place k.line k.before.length) = some u)
    (recalls : Thread.Recalls k.line u texts) : ofLine? number k.line =
      some { line := number, linters := ((texts.lookup 1).map readNames).getD ∅,
             standalone := k.before.all Text.isBlank } := by
  obtain ⟨m, matched, starts⟩ := exists_match k
  have start : Thread.At k.line { index := 0, before := none, rest := k.line } :=
    ⟨Nat.zero_le _, rfl, rfl⟩
  obtain ⟨t, found', ends⟩ := Node.first?_of_findFrom (by decide) start matched
  rw [starts, found] at found'
  rw [starts, ← Option.some.inj found'] at ends
  have standalone : k.line.take k.before.length = k.before := List.take_left
  rw [ofLine?, matched, Option.map_some, ends, ← recalls.captured 1]
  dsimp only [Regex.Match.ofEnd, Regex.Match.group?]
  rw [standalone]
  cases u.groups.lookup 1 <;> rfl

/-- Where no list of names follows, the directive on a line is for all linters. -/
theorem ofLine?_of_unscoped (number : UInt32) {k : Carrier}
    (unscoped : ∀ list, ¬ Scopes k.afterWord list) : ofLine? number k.line =
      some { line := number, linters := ∅, standalone := k.before.all Text.isBlank } := by
  obtain ⟨u, rest, recalls, found⟩ := k.first?_node
  rw [first?_scope_of_unscoped (rest ▸ unscoped)] at found
  exact ofLine?_line number found recalls

/-- Where a line is cut, the pattern finds what a scan finds. -/
theorem exists_scanned (number : UInt32) (k : Carrier) :
    ∃ d, ofLine? number k.line = some d ∧ d.line = number ∧ Scanned k d := by
  by_cases goesOn : ∃ list, Scopes k.afterWord list
  · obtain ⟨list, scopes⟩ := goesOn
    obtain ⟨u, rest, recalls, found⟩ := k.first?_node
    obtain ⟨text, names, longest⟩ := exists_longest scopes.startsName
    obtain ⟨t, passed, recalls⟩ := first?_scope recalls (rest ▸ scopes) longest
    have directive := ofLine?_line number (found.trans passed) recalls
    refine ⟨_, directive, rfl, List.all_eq_true, fun list' scopes' => ?_, fun unscoped => ?_⟩
    · obtain rfl := scopes.unique scopes'
      refine ⟨⟨text, names, longest⟩, fun text' names' longest' => ?_⟩
      obtain rfl := longest.text_eq longest'
      have readNames_eq := longest'.listing.readNames_eq
      refine ⟨readNames_eq, ?_⟩
      change readNames text ≠ ∅
      rw [readNames_eq]
      exact longest'.listing.ofList_ne_empty
    · exact absurd scopes (unscoped list)
  · refine ⟨_, ofLine?_of_unscoped number (not_exists.mp goesOn), rfl, List.all_eq_true, ?_,
      fun _ => rfl⟩
    exact fun list scopes => absurd ⟨list, scopes⟩ goesOn

/-- A line can be cut exactly if a comment that carries a directive begins somewhere on it. -/
theorem exists_carrier_iff {line : List Char} :
    (∃ k : Carrier, k.line = line) ↔ ∃ i, opens (line.drop i) = true := by
  constructor
  · rintro ⟨k, rfl⟩
    exact ⟨k.before.length, k.opens_line⟩
  · rintro ⟨i, opened⟩
    obtain ⟨j, leads⟩ := leads_node_iff.mpr opened
    have inside : i ≤ line.length := by
      refine Nat.le_of_not_lt fun outside => ?_
      rw [List.drop_of_length_le outside.le] at opened
      exact absurd opened (by decide)
    have recognized : (ofLine? 0 line).isSome = true := by
      rw [ofLine?, Option.isSome_map, Node.isSome_findByPreference_iff (by decide)]
      exact ⟨i, j, inside, leads⟩
    exact isSome_ofLine?_iff.mp recognized

/-- **The directives of a source are those that a scan of its lines finds**, on all lines whose
numbers fit into a word of 32 bits. -/
theorem readAll_scanned (source : String) :
    (readAll source).Pairwise (·.line < ·.line) ∧
    (∀ d ∈ readAll source, ∃ n < (Text.linesOf source.toList).length, d.line.toNat = n + 1) ∧
    ∀ n line, (Text.linesOf source.toList)[n]? = some line →
      ((∃ d ∈ readAll source, d.line.toNat = n + 1) ↔
        n + 1 < UInt32.size ∧ ∃ i, opens (line.drop i) = true) ∧
      ∀ d ∈ readAll source, d.line.toNat = n + 1 → ∃ k : Carrier, k.line = line ∧ Scanned k d := by
  have cut : ∀ d ∈ readAll source, ∃ n, d.line.toNat = n + 1 ∧ ∃ k : Carrier,
      (Text.linesOf source.toList)[n]? = some k.line ∧ Scanned k d := by
    intro d member
    obtain ⟨n, line, number, here, numbered, recognized⟩ := mem_readAll_iff.mp member
    obtain ⟨rfl, k, rfl, -⟩ := exists_carrier recognized
    obtain ⟨d', recognized', -, scanned⟩ := exists_scanned d.line k
    obtain rfl := Option.some.inj (recognized.symm.trans recognized')
    exact ⟨n, numbered, k, here, scanned⟩
  have onLine : ∀ n line, (Text.linesOf source.toList)[n]? = some line →
      ∀ d ∈ readAll source, d.line.toNat = n + 1 → ∃ k : Carrier, k.line = line ∧ Scanned k d := by
    intro n line here d member numbered
    obtain ⟨n', numbered', k, here', scanned⟩ := cut d member
    obtain rfl : n' = n := Nat.succ.inj (numbered'.symm.trans numbered)
    exact ⟨k, Option.some.inj (here'.symm.trans here), scanned⟩
  refine ⟨readAll_ascending source, fun d member => ?_, fun n line here => ⟨⟨?_, ?_⟩, ?_⟩⟩
  · obtain ⟨n, numbered, k, here, -⟩ := cut d member
    exact ⟨n, (List.getElem?_eq_some_iff.mp here).1, numbered⟩
  · rintro ⟨d, member, numbered⟩
    obtain ⟨k, same, -⟩ := onLine n line here d member numbered
    exact ⟨numbered ▸ d.line.toNat_lt, exists_carrier_iff.mp ⟨k, same⟩⟩
  · rintro ⟨fits, opened⟩
    obtain ⟨k, rfl⟩ := exists_carrier_iff.mpr opened
    obtain ⟨number, word⟩ := Option.isSome_iff_exists.mp (Text.isSome_word32?_iff.mpr fits)
    have numbered := Text.word32?_eq_some_iff.mp word
    obtain ⟨d, recognized, rfl, -⟩ := exists_scanned number k
    exact ⟨d, mem_readAll_iff.mpr ⟨n, k.line, d.line, here, numbered, recognized⟩, numbered⟩
  · exact onLine n line here

end LintRun.Directive
