import LintRun.Regex.Node
import LintRun.Regex.Property
import LintRun.Regex.Size
import LintRun.Text.Blank
import LintRun.Text.Decimal

/-!
# Reading patterns

A pattern is read in one pass with a stack of open groups.  What an atom stands for depends on
the flags in effect where it stands: they are part of the state, and a group restores at its
end the flags from before it.  Every function that reads a part returns what follows it.
-/

set_option autoImplicit false

namespace LintRun.Regex

/-- The flags that steer how a pattern is read. -/
structure Flags where
  /-- Letters stand for all their cases. -/
  insensitive : Bool := false
  /-- The anchors match at line endings too. -/
  multiline : Bool := false
  /-- The dot matches line endings too. -/
  dotAll : Bool := false
  /-- Repetitions are lazy, and greedy with a question mark. -/
  swapGreed : Bool := false
  /-- Classes are those of the whole standard. -/
  unicode : Bool := true
  /-- Line endings may have a carriage return. -/
  returns : Bool := false
  /-- White space and comments are skipped. -/
  spaced : Bool := false
deriving DecidableEq, Repr

/-- A part of a sequence. -/
structure Item where
  /-- What the part matches; a change of flags matches nothing and cannot be repeated. -/
  node : Option Node
  /-- How deeply operators are nested in it. -/
  depth : Nat
  shape : Shape

/-- An open group. -/
structure Frame where
  /-- The flags to restore at the end of the group. -/
  outer : Flags
  /-- The number and name under which the text of the group is remembered. -/
  capture : Option (Nat × Option String)
  /-- The alternatives that are complete, the last one first. -/
  branches : List Item := []
  /-- The parts of the current alternative, the last one first. -/
  items : List Item := []

/-- The state of reading. -/
structure ReadState where
  flags : Flags := {}
  /-- The group that is being read, innermost; the whole pattern is one. -/
  frame : Frame := { outer := {}, capture := none }
  /-- The groups around it. -/
  stack : List Frame := []
  /-- The number of the next group. -/
  nextGroup : Nat := 1
  /-- The names of groups so far. -/
  names : List String := []

/-- How deeply operators may be nested. -/
def nestLimit : Nat := 250

/-! ## Skipping -/

/-- Skips white space and comments, where flags say so. -/
def skipBlanks (flags : Flags) : List Char → List Char
  | [] => []
  | c :: rest =>
    if flags.spaced then
      if Text.isBlank c then skipBlanks flags rest
      else if c = '#' then skipComment flags rest
      else c :: rest
    else c :: rest
where
  /-- Skips the rest of a comment and what blanks follow it. -/
  skipComment (flags : Flags) : List Char → List Char
    | [] => []
    | c :: rest => if c = '\n' then skipBlanks flags rest else skipComment flags rest

/-! ## Atoms -/

/-- The part that a set of characters is. -/
def Item.ofSet (chars : CharSet) : Item :=
  { node := some (.set chars), depth := 0, shape := .set chars }

/-- The part that a condition is. -/
def Item.ofLook (look : Look) : Item :=
  { node := some (.look look), depth := 0, shape := .look look }

/-- The part that a change of flags is. -/
def Item.ofFlags : Item :=
  { node := none, depth := 0, shape := .sequence [] }

/-- The set with the other cases of its characters, where flags say so. -/
def foldFor (flags : Flags) (chars : CharSet) : CharSet :=
  if !flags.insensitive then chars
  else if flags.unicode then chars.fold
  else chars.foldAscii

/-- The characters that a letter stands for. -/
def literalSet (flags : Flags) (c : Char) : CharSet :=
  if flags.unicode || c.toNat < 0x80 then foldFor flags (CharSet.single c.toNat)
  else CharSet.single c.toNat

/-- The greatest code point of which classes speak. -/
def lastFor (flags : Flags) : Nat :=
  if flags.unicode then CharSet.lastCodePoint else CharSet.lastByte

/-- A class, if all its characters can be part of a text. -/
def textClass (flags : Flags) (chars : CharSet) : Except Fault CharSet :=
  if flags.unicode || chars.isAscii then .ok chars else .error .notText

/-- The class of a single letter after a backslash. -/
def perlSet (flags : Flags) (c : Char) : Except Fault CharSet :=
  let chars :=
    match c with
    | 'd' | 'D' => if flags.unicode then CharSet.digit else CharSet.asciiDigit
    | 's' | 'S' => if flags.unicode then CharSet.space else CharSet.asciiSpace
    | _ => if flags.unicode then CharSet.word else CharSet.asciiWord
  textClass flags (if c.isUpper then chars.complement (lastFor flags) else chars)

/-- The characters that the dot stands for. -/
def dotSet (flags : Flags) : Except Fault CharSet :=
  if flags.unicode then
    let excluded : CharSet :=
      if flags.dotAll then []
      else if flags.returns then [(0x0A, 0x0A), (0x0D, 0x0D)]
      else [(0x0A, 0x0A)]
    .ok (excluded.complement CharSet.lastCodePoint)
  else
    .error .notText

/-- What a backslash and what follows it stand for. -/
inductive Escape where
  /-- A character; `byte` when it is written as the value of a single byte. -/
  | literal (c : Char) (byte : Bool)
  | set (chars : CharSet)
  | look (condition : Look)

/-- The punctuation that a backslash may stand before: all of ASCII that is neither a letter
nor a digit, angle brackets apart. -/
def isEscapable (c : Char) : Bool :=
  c.toNat < 0x80 && !c.isAlphanum && c != '<' && c != '>'

/-- The value of digits in base sixteen. -/
def hexValue? (cs : List Char) : Option Nat :=
  cs.foldl (fun n c => do
    let n ← n
    let digit ←
      if '0' ≤ c ∧ c ≤ '9' then some (c.toNat - '0'.toNat)
      else if 'a' ≤ c ∧ c ≤ 'f' then some (c.toNat - 'a'.toNat + 10)
      else if 'A' ≤ c ∧ c ≤ 'F' then some (c.toNat - 'A'.toNat + 10)
      else none
    return 16 * n + digit) (some 0)

/-- The character of a code point. -/
def charOf (n : Nat) : Except Fault Char :=
  if n.isValidChar then .ok (Char.ofNat n) else .error .codePointInvalid

/-- Takes a number of characters, skipping blanks after each. -/
def takeSpaced (flags : Flags) : Nat → List Char → Option (List Char × List Char)
  | 0, cs => some ([], cs)
  | n + 1, cs =>
    match cs with
    | [] => none
    | c :: rest => (takeSpaced flags n (skipBlanks flags rest)).map fun r => (c :: r.1, r.2)

/-- Takes the characters up to a closing brace, without blanks. -/
def takeBraced (flags : Flags) (cs : List Char) : Option (List Char × List Char) :=
  match cs.dropWhile (· != '}') with
  | [] => none
  | _ :: rest =>
    let inner := cs.takeWhile (· != '}')
    some (if flags.spaced then inner.filter (!Text.isBlank ·) else inner, rest)

/-- Reads the code point after `\x`, `\u` or `\U`. -/
def readCodePoint (flags : Flags) (kind : Char) (cs : List Char) :
    Except Fault (Escape × List Char) :=
  match skipBlanks flags cs with
  | [] => .error .escapeUnclosed
  | '{' :: rest =>
    match takeBraced flags rest with
    | none => .error .escapeUnclosed
    | some (digits, rest) =>
      if digits = [] then .error .codePointEmpty
      else
        match hexValue? digits with
        | none => .error .codePointDigit
        | some n => do return (.literal (← charOf n) false, rest)
  | cs =>
    let width := if kind = 'x' then 2 else if kind = 'u' then 4 else 8
    match takeSpaced flags width cs with
    | none => .error .escapeUnclosed
    | some (digits, rest) =>
      match hexValue? digits with
      | none => .error .codePointDigit
      | some n => do return (.literal (← charOf n) (kind = 'x'), rest)

/-- The class that the inside of the braces after `\p` names. -/
def propertySet (flags : Flags) (negated : Bool) (inner : List Char) : Except Fault CharSet :=
  if !flags.unicode then .error .unicodeOff
  else
    let split (separator : List Char) : Option (List Char × List Char) :=
      go separator [] inner
    let found : Option (Option CharSet × Bool) :=
      match split ['!', '='] with
      | some (name, value) => some (Property.ofValue? name value, true)
      | none =>
        match split [':'] <|> split ['='] with
        | some (name, value) => some (Property.ofValue? name value, false)
        | none => some (Property.ofName? inner, false)
    match found with
    | some (some chars, opposite) =>
      let chars := foldFor flags chars
      .ok (if negated != opposite then chars.complement CharSet.lastCodePoint else chars)
    | _ => .error .propertyUnknown
where
  /-- Splits at the first place where a separator stands. -/
  go (separator before : List Char) : List Char → Option (List Char × List Char)
    | [] => none
    | c :: rest =>
      if separator.isPrefixOf (c :: rest) then
        some (before.reverse, (c :: rest).drop separator.length)
      else
        go separator (c :: before) rest

/-- Reads the class after `\p` or `\P`. -/
def readProperty (flags : Flags) (negated : Bool) (cs : List Char) :
    Except Fault (Escape × List Char) :=
  match skipBlanks flags cs with
  | [] => .error .escapeUnclosed
  | '{' :: rest =>
    match takeBraced flags rest with
    | none => .error .escapeUnclosed
    | some (inner, rest) => do return (.set (← propertySet flags negated inner), rest)
  | c :: rest =>
    if c = '\\' then .error .propertyInvalid
    else do return (.set (← propertySet flags negated [c]), rest)

/-- Reads what follows `\b`: a kind of boundary in braces, or nothing that belongs to it. -/
def readBoundary (flags : Flags) (cs : List Char) : Except Fault (Escape × List Char) :=
  let plain : Escape × List Char := (.look (.boundary .word (!flags.unicode)), cs)
  let isNameChar := fun c : Char => c.isAlpha || c == '-'
  match cs with
  | '{' :: rest =>
    let start := skipBlanks flags rest
    match start with
    | [] => .error .boundaryUnclosed
    | c :: _ =>
      if !isNameChar c then .ok plain
      else
        match takeBraced flags start with
        | none => .error .boundaryUnclosed
        | some (name, rest) =>
          let look (kind : Boundary) : Except Fault (Escape × List Char) :=
            .ok (.look (.boundary kind (!flags.unicode)), rest)
          match String.ofList name with
          | "start" => look .wordStart
          | "end" => look .wordEnd
          | "start-half" => look .wordStartHalf
          | "end-half" => look .wordEndHalf
          | _ => if name.all isNameChar then .error .boundaryUnknown else .error .boundaryUnclosed
  | _ => .ok plain

/-- Reads what follows a backslash. -/
def readEscape (flags : Flags) : List Char → Except Fault (Escape × List Char)
  | [] => .error .escapeUnclosed
  | c :: rest =>
    let literal (c : Char) : Except Fault (Escape × List Char) := .ok (.literal c false, rest)
    let boundary (kind : Boundary) : Except Fault (Escape × List Char) :=
      .ok (.look (.boundary kind (!flags.unicode)), rest)
    if isEscapable c then literal c
    else
      match c with
      | 'x' | 'u' | 'U' => readCodePoint flags c rest
      | 'p' => readProperty flags false rest
      | 'P' => readProperty flags true rest
      | 'd' | 'D' | 's' | 'S' | 'w' | 'W' => do return (.set (← perlSet flags c), rest)
      | 'a' => literal '\x07'
      | 'f' => literal '\x0c'
      | 't' => literal '\t'
      | 'n' => literal '\n'
      | 'r' => literal '\r'
      | 'v' => literal '\x0b'
      | 'A' => .ok (.look .textStart, rest)
      | 'z' => .ok (.look .textEnd, rest)
      | 'b' => readBoundary flags rest
      | 'B' => boundary .notWord
      | '<' => boundary .wordStart
      | '>' => boundary .wordEnd
      | _ => if c.isDigit then .error .backreference else .error .escapeUnknown

/-! ## Classes in brackets -/

/-- An operation on two classes. -/
inductive ClassOp where
  | inter
  | diff
  | symmDiff
deriving DecidableEq, Repr

/-- A class that is being read: what is before the operator, if there is one, and the union
that is being collected. -/
structure OpenClass where
  negated : Bool
  pending : Option (CharSet × ClassOp) := none
  ranges : List (Nat × Nat) := []
  /-- How deeply classes are nested in it. -/
  depth : Nat := 0

/-- The result of an operation on two classes. -/
def ClassOp.apply (flags : Flags) (op : ClassOp) (a b : CharSet) : CharSet :=
  let a := foldFor flags a
  let b := foldFor flags b
  match op with
  | .inter => a.inter (lastFor flags) b
  | .diff => a.diff (lastFor flags) b
  | .symmDiff => a.symmDiff (lastFor flags) b

namespace OpenClass

/-- What has been read so far, as one class. -/
def value (flags : Flags) (c : OpenClass) : CharSet :=
  let union := CharSet.ofRanges c.ranges
  match c.pending with
  | none => union
  | some (left, op) => op.apply flags left union

/-- The class with more characters. -/
def add (c : OpenClass) (chars : CharSet) : OpenClass :=
  { c with ranges := chars ++ c.ranges }

/-- The class after an operator. -/
def operate (flags : Flags) (op : ClassOp) (c : OpenClass) : OpenClass :=
  { c with pending := some (c.value flags, op), ranges := [], depth := c.depth + 1 }

/-- The class when it is complete. -/
def close (flags : Flags) (c : OpenClass) : Except Fault CharSet :=
  let chars := foldFor flags (c.value flags)
  textClass flags (if c.negated then chars.complement (lastFor flags) else chars)

end OpenClass

/-- Takes hyphens at the start of a class, which stand for themselves. -/
def takeHyphens (flags : Flags) : Nat → OpenClass → List Char → OpenClass × List Char
  | fuel + 1, c, '-' :: rest =>
    takeHyphens flags fuel (c.add (CharSet.single '-'.toNat)) (skipBlanks flags rest)
  | _, c, cs => (c, cs)

/-- Reads the start of a class after its bracket: a caret that negates it, hyphens, and a
closing bracket that stands for itself. -/
def openClass (flags : Flags) (cs : List Char) : Except Fault (OpenClass × List Char) :=
  let cs := skipBlanks flags cs
  let (negated, cs) :=
    match cs with
    | '^' :: rest => (true, skipBlanks flags rest)
    | cs => (false, cs)
  let (c, cs) := takeHyphens flags cs.length { negated } cs
  match cs with
  | [] => .error .classUnclosed
  | ']' :: rest =>
    if c.ranges.isEmpty then
      match skipBlanks flags rest with
      | [] => .error .classUnclosed
      | rest => .ok (c.add (CharSet.single ']'.toNat), rest)
    else .ok (c, cs)
  | cs => .ok (c, cs)

/-- Reads a class of ASCII such as `[:alpha:]`, if there is one. -/
def readAsciiClass? (flags : Flags) (cs : List Char) : Option (CharSet × List Char) :=
  match cs with
  | ':' :: rest =>
    let (negated, rest) :=
      match rest with
      | '^' :: rest => (true, rest)
      | rest => (false, rest)
    match rest.dropWhile (· != ':') with
    | ':' :: ']' :: after =>
      (CharSet.asciiClass? (.ofList (rest.takeWhile (· != ':')))).map fun chars =>
        (if negated then chars.complement (lastFor flags) else chars, after)
    | _ => none
  | _ => none

/-- One end of a range in a class, or a class of its own. -/
inductive ClassItem where
  | literal (n : Nat)
  | set (chars : CharSet)

/-- Reads one item of a class. -/
def readClassItem (flags : Flags) : List Char → Except Fault (ClassItem × List Char)
  | [] => .error .classUnclosed
  | '\\' :: rest => do
    let (escape, rest) ← readEscape flags rest
    match escape with
    | .literal c byte =>
      if flags.unicode || c.toNat < 0x80 || byte then return (.literal c.toNat, rest)
      else throw .unicodeOff
    | .set chars => return (.set chars, rest)
    | .look _ => throw .escapeInClass
  | c :: rest =>
    if flags.unicode || c.toNat < 0x80 then .ok (.literal c.toNat, rest) else .error .unicodeOff

/-- The character after a hyphen and blanks. -/
def afterHyphen (flags : Flags) : List Char → Option Char
  | _ :: rest => (skipBlanks flags rest).head?
  | [] => none

/-- Reads an item of a class or a range between two. -/
def readClassRange (flags : Flags) (cs : List Char) :
    Except Fault (CharSet × List Char) := do
  let (first, cs) ← readClassItem flags cs
  let cs := skipBlanks flags cs
  let alone : CharSet :=
    match first with
    | .literal n => CharSet.single n
    | .set chars => chars
  match cs with
  | [] => throw .classUnclosed
  | '-' :: rest =>
    let next := afterHyphen flags cs
    if next = some ']' ∨ next = some '-' then
      return (alone, cs)
    else
      let (last, cs) ← readClassItem flags (skipBlanks flags rest)
      match first, last with
      | .literal lo, .literal hi =>
        if lo ≤ hi then return ([(lo, hi)], cs) else throw .classRangeReversed
      | _, _ => throw .classRangeEnd
  | _ => return (alone, cs)

/-- Reads a class after its opening bracket, with the classes that are open around it; returns
how deeply classes are nested in it too. -/
def readClass (flags : Flags) :
    Nat → OpenClass → List OpenClass → List Char → Except Fault (CharSet × Nat × List Char)
  | 0, _, _, _ => .error .classUnclosed
  | fuel + 1, c, outer, cs =>
    match skipBlanks flags cs with
    | [] => .error .classUnclosed
    | '[' :: rest =>
      match readAsciiClass? flags rest with
      | some (chars, rest) => readClass flags fuel (c.add chars) outer rest
      | none => do
        let (inner, rest) ← openClass flags rest
        readClass flags fuel inner (c :: outer) rest
    | ']' :: rest => do
      let chars ← c.close flags
      match outer with
      | [] => return (chars, c.depth + 1, rest)
      | o :: outer =>
        let o := o.add chars
        readClass flags fuel { o with depth := max o.depth (c.depth + 1) } outer rest
    | '&' :: '&' :: rest => readClass flags fuel (c.operate flags .inter) outer rest
    | '-' :: '-' :: rest => readClass flags fuel (c.operate flags .diff) outer rest
    | '~' :: '~' :: rest => readClass flags fuel (c.operate flags .symmDiff) outer rest
    | cs => do
      let (chars, rest) ← readClassRange flags cs
      readClass flags fuel (c.add chars) outer rest

/-! ## Sequences, alternatives and groups -/

namespace Frame

/-- The current alternative as one part. -/
def sequence (f : Frame) : Item :=
  let items := f.items.reverse
  let depth := (items.map (·.depth)).foldl max 0
  { node := some (Node.sequence (items.filterMap (·.node)))
    depth := if items.length ≤ 1 then depth else depth + 1
    shape := .sequence (items.map (·.shape)) }

/-- Everything in a group as one part. -/
def contents (f : Frame) : Item :=
  match f.branches with
  | [] => f.sequence
  | _ =>
    let branches := (f.sequence :: f.branches).reverse
    { node := some (Node.choice (branches.filterMap (·.node)))
      depth := (branches.map (·.depth)).foldl max 0 + 1
      shape := .choice (branches.map (·.shape)) }

/-- The group with one more part. -/
def push (item : Item) (f : Frame) : Frame :=
  { f with items := item :: f.items }

end Frame

namespace ReadState

/-- Puts a part at the end of the current alternative. -/
def push (s : ReadState) (item : Item) : ReadState :=
  { s with frame := s.frame.push item }

/-- Starts the next alternative. -/
def alternate (s : ReadState) : ReadState :=
  { s with frame :=
    { s.frame with branches := s.frame.sequence :: s.frame.branches, items := [] } }

/-- Opens a group. -/
def openGroup (s : ReadState) (capture : Option (Nat × Option String)) (flags : Flags) :
    ReadState :=
  { s with
    flags
    frame := { outer := s.flags, capture }
    stack := s.frame :: s.stack }

/-- Closes the group that is open. -/
def closeGroup (s : ReadState) : Except Fault ReadState :=
  match s.stack with
  | [] => .error .groupUnopened
  | outer :: stack =>
    let contents := s.frame.contents
    let node :=
      match s.frame.capture with
      | some (index, name) => contents.node.map (Node.group index name)
      | none => contents.node
    let item : Item :=
      { node
        depth := contents.depth + 1
        shape := .group s.frame.capture.isSome contents.shape }
    .ok { s with flags := s.frame.outer, frame := outer.push item, stack }

/-- Repeats the last part. -/
def repeatLast (s : ReadState) (low : Nat) (high : Option Nat) (lazy : Bool) :
    Except Fault ReadState :=
  match s.frame.items with
  | ⟨some node, depth, shape⟩ :: items =>
    let greedy := lazy == s.flags.swapGreed
    let item : Item :=
      ⟨some (Node.repeated greedy low high node), depth + 1, .repeated low high shape⟩
    .ok { s with frame := { s.frame with items := item :: items } }
  | _ => .error .repetitionMissing

end ReadState

/-! ## Flags and groups -/

/-- The flags with one of them set or cleared. -/
def Flags.set? (flags : Flags) (letter : Char) (on : Bool) : Option Flags :=
  match letter with
  | 'i' => some { flags with insensitive := on }
  | 'm' => some { flags with multiline := on }
  | 's' => some { flags with dotAll := on }
  | 'U' => some { flags with swapGreed := on }
  | 'u' => some { flags with unicode := on }
  | 'R' => some { flags with returns := on }
  | 'x' => some { flags with spaced := on }
  | _ => none

/-- Reads flags up to a colon or a closing parenthesis, which is not taken.  Returns the flags
that are in effect then and the letters that were read. -/
def readFlags (flags : Flags) (on : Bool) (letters : List Char) :
    List Char → Except Fault (Flags × List Char × List Char)
  | [] => .error .flagUnclosed
  | c :: rest =>
    if c = ':' ∨ c = ')' then
      if letters.head? = some '-' then .error .flagDangling
      else .ok (flags, letters, c :: rest)
    else if letters.contains c then .error .flagRepeated
    else if c = '-' then readFlags flags false ('-' :: letters) rest
    else
      match flags.set? c on with
      | none => .error .flagUnknown
      | some flags => readFlags flags on (c :: letters) rest

/-- Whether a character may stand in the name of a group, at its start or after it. -/
def isGroupNameChar (first : Bool) (c : Char) : Bool :=
  let n := c.toNat
  if first then c == '_' || Unicode.isAlphabetic n
  else
    c == '_' || c == '.' || c == '[' || c == ']' || Unicode.isAlphanumeric n

/-- Reads the name of a group and its closing angle bracket. -/
def readGroupName (s : ReadState) (cs : List Char) : Except Fault (ReadState × List Char) :=
  let name := cs.takeWhile (· != '>')
  let valid :=
    match name with
    | [] => true
    | c :: rest => isGroupNameChar true c && rest.all (isGroupNameChar false)
  if cs = [] then .error .groupNameUnclosed
  else if !valid then .error .groupNameInvalid
  else
    match cs.dropWhile (· != '>') with
    | [] => .error .groupNameUnclosed
    | _ :: rest =>
      let name := String.ofList name
      if name = "" then .error .groupNameEmpty
      else if s.names.contains name then .error (.groupNameRepeated name)
      else
        .ok ({ s.openGroup (some (s.nextGroup, some name)) s.flags with
          nextGroup := s.nextGroup + 1, names := name :: s.names }, rest)

/-- Reads what follows an opening parenthesis. -/
def readGroup (s : ReadState) (cs : List Char) : Except Fault (ReadState × List Char) :=
  match skipBlanks s.flags cs with
  | '?' :: '=' :: _ | '?' :: '!' :: _ | '?' :: '<' :: '=' :: _ | '?' :: '<' :: '!' :: _ =>
    .error .lookAround
  | '?' :: 'P' :: '<' :: rest => readGroupName s rest
  | '?' :: '<' :: rest => readGroupName s rest
  | '?' :: rest =>
    if rest = [] then .error .groupUnclosed
    else do
      let (flags, letters, rest) ← readFlags s.flags true [] rest
      match rest with
      | ')' :: rest =>
        if letters = [] then throw .repetitionMissing
        else return ({ s.push .ofFlags with flags }, rest)
      | rest => return (s.openGroup none flags, rest.drop 1)
  | rest =>
    .ok ({ s.openGroup (some (s.nextGroup, none)) s.flags with
      nextGroup := s.nextGroup + 1 }, rest)

/-! ## Repetitions -/

/-- Whether a question mark follows, which makes a repetition lazy. -/
def takeLazy : List Char → Bool × List Char
  | '?' :: rest => (true, rest)
  | rest => (false, rest)

/-- Reads a count, with white space around it. -/
def readCount (flags : Flags) (cs : List Char) : Except Fault (Nat × List Char) :=
  let cs := cs.dropWhile Text.isBlank
  let (digits, rest) := go flags [] cs cs.length
  let rest := rest.dropWhile Text.isBlank
  match Text.readWord32? digits with
  | some n => .ok (n.toNat, rest)
  | none => .error (if digits = [] then .countEmpty else .countTooLarge)
where
  /-- Takes digits, skipping blanks after each. -/
  go (flags : Flags) (digits : List Char) (cs : List Char) : Nat → List Char × List Char
    | 0 => (digits.reverse, cs)
    | fuel + 1 =>
      match cs with
      | c :: rest =>
        if Text.isDigit c then go flags (c :: digits) (skipBlanks flags rest) fuel
        else (digits.reverse, cs)
      | [] => (digits.reverse, [])

/-- Reads a count in braces after the opening one, and repeats the last part. -/
def readCounts (s : ReadState) (cs : List Char) : Except Fault (ReadState × List Char) := do
  match s.frame.items with
  | ⟨some _, _, _⟩ :: _ => pure ()
  | _ => throw .repetitionMissing
  let cs := skipBlanks s.flags cs
  if cs = [] then throw .countUnclosed
  let (low, cs) ← readCount s.flags cs
  let (high, cs) ←
    match cs with
    | ',' :: rest =>
      match skipBlanks s.flags rest with
      | [] => throw .countUnclosed
      | '}' :: rest => pure (none, '}' :: rest)
      | rest => do
        let (high, rest) ← readCount s.flags rest
        pure (some high, rest)
    | cs => pure (some low, cs)
  match cs with
  | '}' :: rest =>
    let (lazy, rest) := takeLazy (skipBlanks s.flags rest)
    if low ≤ high.getD low then
      return (← s.repeatLast low high lazy, rest)
    else
      throw .countReversed
  | _ => throw .countUnclosed

/-! ## The whole pattern -/

/-- The anchor that stands for the start of a line or of the text. -/
def startLook (flags : Flags) : Look :=
  if !flags.multiline then .textStart
  else if flags.returns then .returnLineStart
  else .lineStart

/-- The anchor that stands for the end of a line or of the text. -/
def endLook (flags : Flags) : Look :=
  if !flags.multiline then .textEnd
  else if flags.returns then .returnLineEnd
  else .lineEnd

/-- The part that an escape outside of a class is. -/
def Escape.item (flags : Flags) : Escape → Except Fault Item
  | .literal c byte =>
    if byte && !flags.unicode && 0x80 ≤ c.toNat then .error .notText
    else .ok (Item.ofSet (literalSet flags c))
  | .set chars => .ok (Item.ofSet chars)
  | .look condition => .ok (Item.ofLook condition)

/-- Reads the next part of a pattern. -/
def readStep (s : ReadState) : List Char → Except Fault (ReadState × List Char)
  | [] => .ok (s, [])
  | c :: rest =>
    let repeats (low : Nat) (high : Option Nat) : Except Fault (ReadState × List Char) := do
      let (lazy, rest) := takeLazy rest
      return (← s.repeatLast low high lazy, rest)
    match c with
    | '(' => readGroup s rest
    | ')' => do return (← s.closeGroup, rest)
    | '|' => .ok (s.alternate, rest)
    | '[' => do
      let (first, rest) ← openClass s.flags rest
      let (chars, depth, rest) ← readClass s.flags (rest.length + 1) first [] rest
      return (s.push { Item.ofSet chars with depth }, rest)
    | '?' => repeats 0 (some 1)
    | '*' => repeats 0 none
    | '+' => repeats 1 none
    | '{' => readCounts s rest
    | '\\' => do
      let (escape, rest) ← readEscape s.flags rest
      return (s.push (← escape.item s.flags), rest)
    | '.' => do return (s.push (Item.ofSet (← dotSet s.flags)), rest)
    | '^' => .ok (s.push (Item.ofLook (startLook s.flags)), rest)
    | '$' => .ok (s.push (Item.ofLook (endLook s.flags)), rest)
    | c => .ok (s.push (Item.ofSet (literalSet s.flags c)), rest)

/-- Reads the parts of a pattern to its end. -/
def readAll : Nat → ReadState → List Char → Except Fault ReadState
  | 0, s, _ => .ok s
  | fuel + 1, s, cs =>
    match skipBlanks s.flags cs with
    | [] => .ok s
    | cs => do
      let (s, rest) ← readStep s cs
      readAll fuel s rest

/-- Reads a pattern, which may not be too large. -/
def Node.parse [SizeRule] (cs : List Char) : Except Fault Node := do
  let s ← readAll (cs.length + 1) {} cs
  if !s.stack.isEmpty then throw .groupUnclosed
  let item := s.frame.contents
  if nestLimit < item.depth then throw .nestedTooDeep
  if SizeRule.isTooLarge item.shape then throw .tooLarge
  return item.node.getD .empty

end LintRun.Regex
