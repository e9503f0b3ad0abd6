import LintRun.Proofs.Output.Markup
import LintRun.Unicode.Ranges

/-!
# Well-formed documents

When a text is a well-formed document of XML 1.0. The grammar is that of the standard without
comments, processing instructions, literal sections and document types, and with values in double
quotation marks: the names of elements and attributes, references, attributes of which no two in a
tag have one name, and elements that are empty or whose tags match around a **content** of text and
elements (`Element`). Text, in content and in values, is made of **pieces**, which are references
and single characters that are not markup (`IsText`).

To be well-formed a document must also hold no other characters than the standard allows
(`WellFormed`), which leaves out most control characters. They cannot be had by reference either.

Attributes are written as the grammar asks, whatever their values are (`attributes_writeAttribute`).
-/

set_option autoImplicit false

namespace LintRun.Xml

/-! ## Characters and names -/

/-- Whether a document may hold a character. Besides some white space these are all characters from
the space on, but for the last two of the first plane. -/
def IsChar (c : Char) : Prop :=
  c ∈ ['\t', '\n', '\r'] ∨ 0x20 ≤ c.toNat ∧ c.toNat ∉ [0xFFFE, 0xFFFF]

instance (c : Char) : Decidable (IsChar c) :=
  inferInstanceAs (Decidable (_ ∨ _))

/-- The code points with which a name may start. -/
def nameStart : Unicode.Ranges :=
  [(0x3A, 0x3A), (0x41, 0x5A), (0x5F, 0x5F), (0x61, 0x7A), (0xC0, 0xD6), (0xD8, 0xF6),
    (0xF8, 0x2FF), (0x370, 0x37D), (0x37F, 0x1FFF), (0x200C, 0x200D), (0x2070, 0x218F),
    (0x2C00, 0x2FEF), (0x3001, 0xD7FF), (0xF900, 0xFDCF), (0xFDF0, 0xFFFD), (0x10000, 0xEFFFF)]

/-- The code points that may stand in a name but not start it. -/
def nameRest : Unicode.Ranges :=
  [(0x2D, 0x2E), (0x30, 0x39), (0xB7, 0xB7), (0x300, 0x36F), (0x203F, 0x2040)]

/-- Whether some characters are the name of an element or an attribute. -/
def IsName : List Char → Prop
  | [] => False
  | c :: rest => nameStart.has c.toNat = true ∧
      ∀ d ∈ rest, (nameStart.has d.toNat || nameRest.has d.toNat) = true

instance (name : List Char) : Decidable (IsName name) :=
  match name with
  | [] => inferInstanceAs (Decidable False)
  | _ :: rest =>
    haveI := List.decidableBAll
      (fun d => (nameStart.has d.toNat || nameRest.has d.toNat) = true) rest
    instDecidableAnd

/-- White space where it may be left out. -/
def Gap (cs : List Char) : Prop :=
  ∀ c ∈ cs, Markup.isSpace c = true

instance (cs : List Char) : Decidable (Gap cs) :=
  List.decidableBAll _ cs

/-! ## Text -/

/-- The value of a digit in base sixteen. -/
def digit? (c : Char) : Option Nat :=
  "0123456789abcdef".toList.idxOf? c.toLower

/-- The number that some digits stand for in a base. -/
def number? (base : Nat) : List Char → Option Nat
  | [] => none
  | digits => digits.foldlM (fun n c => (digit? c).bind fun d =>
      if d < base then some (base * n + d) else none) 0

/-- References to characters, by name or by number. A number must be that of a character that the
document may hold. -/
inductive Reference : List Char → Prop where
  | entity (name : String) (known : name ∈ ["lt", "gt", "amp", "apos", "quot"]) :
      Reference ('&' :: name.toList ++ [';'])
  | decimal (digits : List Char) (c : Char) (number : number? 10 digits = some c.toNat)
      (allowed : IsChar c) : Reference ('&' :: '#' :: digits ++ [';'])
  | hexadecimal (digits : List Char) (c : Char) (number : number? 16 digits = some c.toNat)
      (allowed : IsChar c) : Reference ('&' :: '#' :: 'x' :: digits ++ [';'])

/-- Whether a piece of a text is one character that is not markup, or a reference. -/
def IsText (piece : List Char) : Prop :=
  (∃ c, c ∉ ['<', '>', '&', '"', '\''] ∧ piece = [c]) ∨ Reference piece

/-- Whether some characters may stand between quotation marks as the value of an attribute. -/
def Value (cs : List Char) : Prop :=
  ∃ pieces : List (List Char), cs = pieces.flatten ∧ ∀ piece ∈ pieces, IsText piece

/-! ## Elements -/

/-- Attributes in a tag, with their names, no two of which are the same. -/
inductive Attributes : List (List Char) → List Char → Prop where
  | nil : Attributes [] []
  | cons {names : List (List Char)} {space name value rest : List Char} (spaced : space ≠ [])
      (gap : Gap space) (isName : IsName name) (fresh : name ∉ names) (isValue : Value value)
      (others : Attributes names rest) :
      Attributes (name :: names) (space ++ (name ++ '=' :: '"' :: (value ++ '"' :: rest)))

/-- Elements: a single tag, or two tags of one name around pieces that are text or elements. -/
inductive Element : List Char → Prop where
  | single {names : List (List Char)} {name attributes gap : List Char} (isName : IsName name)
      (inTag : Attributes names attributes) (isGap : Gap gap) :
      Element ('<' :: (name ++ (attributes ++ (gap ++ ['/', '>']))))
  | pair {names pieces : List (List Char)} {name attributes : List Char} (isName : IsName name)
      (inTag : Attributes names attributes)
      (inside : ∀ piece ∈ pieces, ¬ IsText piece → Element piece) :
      Element ('<' :: (name ++ (attributes ++ '>' :: (pieces.flatten ++
        '<' :: '/' :: (name ++ ['>'])))))

/-- Whether some characters may stand between the tags of an element. -/
def Content (cs : List Char) : Prop :=
  ∃ pieces : List (List Char), cs = pieces.flatten ∧
    ∀ piece ∈ pieces, ¬ IsText piece → Element piece

/-- What a document says about itself. -/
def declaration : String :=
  "<?xml version=\"1.0\" encoding=\"UTF-8\"?>"

/-- Whether a text is a document by the grammar: a declaration and one element. -/
def IsDocument (text : String) : Prop :=
  ∃ before root after, text.toList = declaration.toList ++ (before ++ (root ++ after)) ∧
    Gap before ∧ Element root ∧ Gap after

/-- Whether all characters of a text may stand in a document. -/
def Allowed (text : String) : Prop :=
  ∀ c ∈ text.toList, IsChar c

instance (text : String) : Decidable (Allowed text) :=
  List.decidableBAll _ text.toList

/-- Whether a text is a well-formed document. -/
structure WellFormed (text : String) : Prop where
  document : IsDocument text
  allowed : Allowed text

/-! ## Building content -/

namespace Content

variable {cs cs' : List Char}

theorem nil : Content [] :=
  ⟨[], rfl, fun _ member => absurd member List.not_mem_nil⟩

theorem append (first : Content cs) (rest : Content cs') : Content (cs ++ cs') := by
  obtain ⟨pieces, rfl, inside⟩ := first
  obtain ⟨pieces', rfl, inside'⟩ := rest
  refine ⟨pieces ++ pieces', List.flatten_append.symm, fun piece member => ?_⟩
  rcases List.mem_append.mp member with ofFirst | ofRest
  · exact inside piece ofFirst
  · exact inside' piece ofRest

theorem of_element (element : Element cs) : Content cs := by
  refine ⟨[cs], List.flatten_singleton.symm, fun piece member _ => ?_⟩
  rwa [List.mem_singleton.mp member]

/-- White space between elements is text. -/
theorem of_gap (gap : Gap cs) : Content cs := by
  refine ⟨cs.map fun c => [c], ?_, fun piece member noText => ?_⟩
  · rw [← List.flatMap_def, List.flatMap_singleton']
  · obtain ⟨c, inGap, rfl⟩ := List.mem_map.mp member
    have spaces : ([' ', '\t', '\n', '\r'].all fun c => c ∉ ['<', '>', '&', '"', '\'']) = true := by
      decide
    have space : c ∈ [' ', '\t', '\n', '\r'] := List.contains_iff_mem.mp (gap c inGap)
    have noMarkup := of_decide_eq_true (List.all_eq_true.mp spaces c space)
    exact absurd (.inl ⟨c, noMarkup, rfl⟩) noText

theorem flatMap {α : Type} {text : α → List Char} (content : ∀ x, Content (text x))
    (xs : List α) : Content (xs.flatMap text) := by
  induction xs with
  | nil => exact .nil
  | cons x rest ih =>
    rw [List.flatMap_cons]
    exact (content x).append ih

end Content

theorem Element.of_content {names : List (List Char)} {name attributes cs : List Char}
    (isName : IsName name) (inTag : Attributes names attributes) (content : Content cs) :
    Element ('<' :: (name ++ (attributes ++ '>' :: (cs ++ '<' :: '/' :: (name ++ ['>']))))) := by
  obtain ⟨pieces, rfl, inside⟩ := content
  exact .pair isName inTag inside

/-! ## Written attributes -/

theorem isText_encodeChar (c : Char) : IsText (Text.Attribute.encodeChar c) := by
  rcases Text.Attribute.encodeChar_cases c with ⟨reference, member, shape⟩ | ⟨ordinary, shape⟩
  · rw [shape]
    simp only [Text.Attribute.references, List.mem_cons, Prod.mk.injEq, List.not_mem_nil,
      or_false] at member
    refine .inr ?_
    rcases member with ⟨-, rfl⟩ | ⟨-, rfl⟩ | ⟨-, rfl⟩ | ⟨-, rfl⟩ | ⟨-, rfl⟩ | ⟨-, rfl⟩ | ⟨-, rfl⟩
    · exact .entity "lt" (by decide)
    · exact .entity "gt" (by decide)
    · exact .entity "quot" (by decide)
    · exact .entity "apos" (by decide)
    · exact .entity "amp" (by decide)
    · exact .hexadecimal ['A'] '\n' (by decide) (by decide)
    · exact .hexadecimal ['D'] '\r' (by decide) (by decide)
  · rw [shape]
    refine .inl ⟨c, fun markup => ?_, rfl⟩
    have special : (['<', '>', '&', '"', '\''].all fun c =>
        (Text.Attribute.references.lookup c).isSome) = true := by decide
    have found := List.all_eq_true.mp special c markup
    rw [ordinary] at found
    cases found

/-- Whatever a value is, it is written so that it may stand between quotation marks. -/
theorem value_encodeChars (cs : List Char) : Value (Text.Attribute.encodeChars cs) := by
  refine ⟨cs.map Text.Attribute.encodeChar, List.flatMap_def .., fun piece member => ?_⟩
  obtain ⟨c, -, rfl⟩ := List.mem_map.mp member
  exact isText_encodeChar c

theorem toList_writeAttribute (name value : String) :
    (Checkstyle.writeAttribute name value).toList = [' '] ++ (name.toList ++
      '=' :: '"' :: (Text.Attribute.encodeChars value.toList ++ ['"'])) := by
  simp only [Checkstyle.writeAttribute, Text.Attribute.encode, String.toList_append,
    String.toList_ofList, List.append_assoc]
  rfl

/-- **Attributes are written as the grammar asks**, whatever their values are. -/
theorem attributes_writeAttribute {attributes : Markup.Attributes} {names : List String}
    (named : attributes.map (·.1) = names) (valid : ∀ name ∈ names, IsName name.toList)
    (distinct : names.Nodup) : Attributes (names.map String.toList)
      (attributes.flatMap fun a => (Checkstyle.writeAttribute a.1 a.2).toList) := by
  induction attributes generalizing names with
  | nil =>
    subst named
    exact .nil
  | cons pair rest ih =>
    obtain ⟨name, value⟩ := pair
    subst named
    rw [List.map_cons, List.forall_mem_cons] at valid
    rw [List.map_cons, List.nodup_cons] at distinct
    have fresh : name.toList ∉ (rest.map (·.1)).map String.toList := fun member => by
      obtain ⟨other, inRest, same⟩ := List.mem_map.mp member
      exact distinct.1 (String.toList_inj.mp same ▸ inRest)
    have whole := Attributes.cons (List.cons_ne_nil ' ' []) (by decide) valid.1 fresh
      (value_encodeChars value.toList) (ih rfl valid.2 distinct.2)
    rw [List.map_cons, List.map_cons, List.flatMap_cons, toList_writeAttribute]
    simpa only [List.append_assoc, List.cons_append, List.nil_append] using whole

theorem attributes_single {name : String} (valid : IsName name.toList) (value : String) :
    Attributes [name.toList] (Checkstyle.writeAttribute name value).toList := by
  have one : Attributes ([name].map String.toList)
      ([(name, value)].flatMap fun a => (Checkstyle.writeAttribute a.1 a.2).toList) :=
    attributes_writeAttribute rfl (by simpa using valid) (by simp)
  rwa [List.flatMap_singleton] at one

end LintRun.Xml
