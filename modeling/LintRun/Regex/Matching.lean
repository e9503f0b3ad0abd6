import Std.Data.HashSet
import LintRun.Regex.Node

/-!
# Matching by order of preference

A pattern leads from a list of places in the text to another one, the most preferred place
first and no place twice: a place that was reached in a preferred way need not be reached
again, because what can follow depends on the place alone.  The match of a pattern is the most
preferred place that it leads to from the first place from which it leads anywhere.

This account is exact when every iteration of every loop reads a character.  `Node.effort`
bounds the work that it takes.
-/

set_option autoImplicit false

namespace LintRun.Regex

/-- The text of a group as two numbers of characters from the start of the text. -/
structure Span where
  start : Nat
  stop : Nat
deriving DecidableEq, Repr

/-- A place in a text, together with what the groups have matched on the way there. -/
structure Thread where
  /-- The number of characters before the place. -/
  index : Nat
  /-- The character before the place, unless it is the start. -/
  before : Option Char
  /-- The characters after the place. -/
  rest : List Char
  /-- Where the groups start that the place is inside of, the innermost first. -/
  entered : List Nat := []
  /-- The texts of groups by number, the latest first. -/
  groups : List (Nat × Span) := []

namespace Thread

/-- The place after one character, given what follows it. -/
def after (t : Thread) (c : Char) (rest : List Char) : Thread :=
  { t with index := t.index + 1, before := some c, rest }

/-- The place after the next character, if there is one and it belongs to a set. -/
def next? (t : Thread) (chars : CharSet) : Option Thread :=
  match t.rest with
  | [] => none
  | c :: rest => if chars.has c.toNat then some (t.after c rest) else none

/-- The place as the start of a group. -/
def enter (t : Thread) : Thread :=
  { t with entered := t.index :: t.entered }

/-- The place as the end of the group entered last, whose number is given. -/
def leave (t : Thread) (group : Nat) : Thread :=
  match t.entered with
  | [] => t
  | start :: entered => { t with entered, groups := (group, ⟨start, t.index⟩) :: t.groups }

end Thread

/-- Whether a character belongs to a word; there is none at the ends of the text. -/
def isWordChar (ascii : Bool) : Option Char → Bool
  | none => false
  | some c => if ascii then CharSet.asciiWord.has c.toNat else CharSet.word.has c.toNat

/-- Whether the words on the two sides of a place meet a boundary. -/
def Boundary.holds (before after : Bool) : Boundary → Bool
  | .word => before != after
  | .notWord => before == after
  | .wordStart => !before && after
  | .wordEnd => before && !after
  | .wordStartHalf => !before
  | .wordEndHalf => !after

/-- Whether a place meets a condition. -/
def Look.holds (t : Thread) : Look → Bool
  | .textStart => t.before.isNone
  | .textEnd => t.rest.isEmpty
  | .lineStart => t.before.isNone || t.before == some '\n'
  | .lineEnd => t.rest.isEmpty || t.rest.head? == some '\n'
  | .returnLineStart =>
    t.before.isNone || t.before == some '\n' ||
      (t.before == some '\r' && t.rest.head? != some '\n')
  | .returnLineEnd =>
    t.rest.isEmpty || t.rest.head? == some '\r' ||
      (t.rest.head? == some '\n' && t.before != some '\r')
  | .boundary kind ascii => kind.holds (isWordChar ascii t.before) (isWordChar ascii t.rest.head?)

/-- The places without those that stand earlier in the list. -/
def distinct (ts : List Thread) : List Thread :=
  match ts with
  | [] | [_] => ts
  | _ => go ∅ ts
where
  /-- Leaves out the places that have been seen. -/
  go (seen : Std.HashSet Nat) : List Thread → List Thread
    | [] => []
    | t :: ts => if seen.contains t.index then go seen ts else t :: go (seen.insert t.index) ts

/-- The places after one, two and more characters of a set, the farthest first, up to the
first one that has been seen. -/
def runOnto (chars : CharSet) (seen : Std.HashSet Nat) (t : Thread) (out : List Thread) :
    List Char → List Thread
  | [] => out
  | c :: rest =>
    if chars.has c.toNat && !seen.contains (t.index + 1) then
      let next := t.after c rest
      runOnto chars seen next (next :: out) rest
    else
      out

/-- The places to which characters of a set lead.  Behind a place that has been seen there are
only places that have been seen. -/
def runs (chars : CharSet) (greedy : Bool) (seen : Std.HashSet Nat) : List Thread → List Thread
  | [] => []
  | t :: ts =>
    let farthestFirst := runOnto chars seen t [] t.rest
    let places := if greedy then farthestFirst else farthestFirst.reverse
    match ts with
    | [] => places
    | _ :: _ =>
      places ++ runs chars greedy (places.foldl (fun seen u => seen.insert u.index) seen) ts

/-- What has been found while a loop is explored: the places where it can be left, the last
found first, and all places that an iteration has led to. -/
structure Visit where
  exits : List Thread := []
  seen : Std.HashSet Nat := ∅

/-- Goes on from the end of an iteration: to further iterations, which `body` leads to, and
out of the loop, in this order when greedy. -/
def explore (body : Thread → List Thread) (greedy : Bool) : Nat → Visit → Thread → Visit
  | 0, visit, _ => visit
  | fuel + 1, visit, t =>
    if visit.seen.contains t.index then
      visit
    else
      let visit := { visit with seen := visit.seen.insert t.index }
      if greedy then
        let visit := (body t).foldl (explore body greedy fuel) visit
        { visit with exits := t :: visit.exits }
      else
        (body t).foldl (explore body greedy fuel) { visit with exits := t :: visit.exits }

/-- The places to which a pattern leads from some places, the most preferred first. -/
def Node.ends : Node → List Thread → List Thread
  | .empty, ts => ts
  | .set chars, ts => ts.filterMap (·.next? chars)
  | .look condition, ts => ts.filter condition.holds
  | .cat first second, ts => second.ends (first.ends ts)
  | .alt first second, ts => distinct (ts.flatMap fun t => first.ends [t] ++ second.ends [t])
  | .run greedy chars, ts => runs chars greedy ∅ ts
  | .loop greedy body, ts =>
    let again (u : Thread) : List Thread := body.ends [u]
    let visit (v : Visit) (t : Thread) : Visit :=
      (again t).foldl (explore again greedy (t.rest.length + 1)) v
    (ts.foldl visit {}).exits.reverse
  | .group index _ body, ts => (body.ends (ts.map Thread.enter)).map (·.leave index)

/-- Whether a pattern can lead from one place to several. -/
def Node.branches : Node → Bool
  | .empty | .set _ | .look _ => false
  | .alt .. | .run .. | .loop .. => true
  | .cat first second => first.branches || second.branches
  | .group _ _ body => body.branches

/-- The power of the length of the text by which the work is bounded that a pattern takes from
one place or from many.  Alternatives are followed from each place on its own, and so is the
body of a loop. -/
def Node.effort (many : Bool) : Node → Nat
  | .empty | .set _ | .look _ => if many then 1 else 0
  | .cat first second =>
    max (first.effort many) (second.effort (many || first.branches))
  | .alt first second =>
    max (first.effort false) (second.effort false) + if many then 1 else 0
  | .run .. => 1
  | .loop _ body => body.effort false + 1
  | .group _ _ body => body.effort many

/-- A match: its own text and those of the groups that took part. -/
structure Match where
  span : Span
  groups : List (Nat × Span)
deriving DecidableEq, Repr

/-- The match that starts at one place and ends at another. -/
def Match.ofEnd (start : Nat) (t : Thread) : Match :=
  { span := ⟨start, t.index⟩, groups := t.groups }

/-- The text of a group, if the group took part. -/
def Match.group? (m : Match) (index : Nat) : Option Span :=
  m.groups.lookup index

/-- The most preferred match at the first place where there is any, from a place on. -/
def Node.findFrom (node : Node) (index : Nat) (before : Option Char) :
    List Char → Option Match
  | [] => (node.ends [{ index, before, rest := [] }]).head?.map (Match.ofEnd index)
  | c :: rest =>
    match node.ends [{ index, before, rest := c :: rest }] with
    | t :: _ => some (Match.ofEnd index t)
    | [] => findFrom node (index + 1) (some c) rest

/-- The match that the order of preference alone finds in a text. -/
def Node.findByPreference (node : Node) (cs : List Char) : Option Match :=
  node.findFrom 0 none cs

end LintRun.Regex
