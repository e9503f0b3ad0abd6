import LintRun.Regex.CharSet
import LintRun.Regex.Fault

/-!
# Patterns

A pattern is a tree.  Alternatives are tried in order, and so are the two ways to go on after
an iteration of a loop, which makes a loop greedy or lazy.  Every repetition is written with
these: an optional part is an alternative of nothing, and a count is a sequence of copies.
-/

set_option autoImplicit false

namespace LintRun.Regex

/-- What a boundary asks of the characters on its two sides, by whether they belong to
words. -/
inductive Boundary where
  | word
  | notWord
  | wordStart
  | wordEnd
  | wordStartHalf
  | wordEndHalf
deriving DecidableEq, Repr

/-- A condition on a place in the text. -/
inductive Look where
  | textStart
  | textEnd
  /-- After a line feed or at the start. -/
  | lineStart
  /-- Before a line feed or at the end. -/
  | lineEnd
  /-- After a line ending, of which a carriage return may be part, or at the start. -/
  | returnLineStart
  /-- Before a line ending, of which a carriage return may be part, or at the end. -/
  | returnLineEnd
  /-- A boundary of words, which are those of the whole standard or of ASCII alone. -/
  | boundary (kind : Boundary) (ascii : Bool)
deriving DecidableEq, Repr

/-- A pattern. -/
inductive Node where
  /-- Nothing. -/
  | empty
  /-- One character of a set. -/
  | set (chars : CharSet)
  /-- A condition on the place. -/
  | look (condition : Look)
  | cat (first second : Node)
  /-- The first alternative, or else the second. -/
  | alt (first second : Node)
  /-- One or more characters of a set, as many or as few as possible. -/
  | run (greedy : Bool) (chars : CharSet)
  /-- One or more iterations, as many or as few as possible. -/
  | loop (greedy : Bool) (body : Node)
  /-- A part whose text is remembered under a number and perhaps a name. -/
  | group (index : Nat) (name : Option String) (body : Node)
deriving DecidableEq, Repr

namespace Node

/-- Whether a pattern can match without reading a character. -/
def nullable : Node → Bool
  | .empty | .look _ => true
  | .set _ | .run .. => false
  | .cat a b => a.nullable && b.nullable
  | .alt a b => a.nullable || b.nullable
  | .loop _ body | .group _ _ body => body.nullable

/-- Whether every iteration of every loop reads a character. -/
def loopsAdvance : Node → Bool
  | .empty | .look _ | .set _ | .run .. => true
  | .cat a b | .alt a b => a.loopsAdvance && b.loopsAdvance
  | .loop _ body => !body.nullable && body.loopsAdvance
  | .group _ _ body => body.loopsAdvance

/-- The named groups of a pattern with their numbers, from left to right. -/
def names : Node → List (String × Nat)
  | .empty | .look _ | .set _ | .run .. => []
  | .cat a b | .alt a b => a.names ++ b.names
  | .loop _ body => body.names
  | .group index name body =>
    match name with
    | some name => (name, index) :: body.names
    | none => body.names

/-- A sequence of patterns. -/
def sequence : List Node → Node
  | [] => .empty
  | [a] => a
  | a :: rest => .cat a (sequence rest)

/-- A choice between patterns, in order. -/
def choice : List Node → Node
  | [] => .empty
  | [a] => a
  | a :: rest => .alt a (choice rest)

/-- A pattern or nothing, in this order when greedy. -/
def optional (greedy : Bool) (a : Node) : Node :=
  if greedy then .alt a .empty else .alt .empty a

/-- One or more iterations of a pattern. -/
def oneOrMore (greedy : Bool) : Node → Node
  | .set chars => .run greedy chars
  | a => .loop greedy a

/-- Any number of iterations of a pattern. -/
def anyNumber (greedy : Bool) (a : Node) : Node :=
  optional greedy (oneOrMore greedy a)

/-- A number of copies of a pattern in sequence, grouped in halves to keep the tree flat. -/
def power (a : Node) (n : Nat) : Node :=
  if n = 0 then .empty
  else if n = 1 then a
  else .cat (power a (n / 2)) (power a (n - n / 2))
termination_by n
decreasing_by all_goals omega

/-- At most a number of copies of a pattern. -/
def atMost (greedy : Bool) (a : Node) : Nat → Node
  | 0 => .empty
  | 1 => optional greedy a
  | n + 1 => optional greedy (.cat a (atMost greedy a n))

/-- A pattern repeated at least `low` times and at most `high` times, without limit when there
is no `high`. -/
def repeated (greedy : Bool) (low : Nat) (high : Option Nat) (a : Node) : Node :=
  match low, high with
  | 0, none => anyNumber greedy a
  | 1, none => oneOrMore greedy a
  | n + 1, none => .cat (power a n) (oneOrMore greedy a)
  | 0, some high => atMost greedy a high
  | low, some high =>
    if low = high then power a low else .cat (power a low) (atMost greedy a (high - low))

end Node

end LintRun.Regex
