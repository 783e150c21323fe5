import Deobfuscation.Regex.CharSet

/-!
# Regular expressions

A regular expression matches stretches of a text.  It is built from literal texts, sets of
characters and assertions about a place in the text, by sequence, choice, repetition and
capturing groups.  Choice prefers its first branch, and a repetition prefers more rounds or
fewer.

* `Assertion`, `Assertion.holds` — what can be asserted of a place between two characters;
* `Expr` — the expressions;
* `Expr.isNullable`, `Expr.neverConsumes` — an expression may match, or only matches, without
  consuming a character;
* `Expr.hasSameForm` — two expressions are the same, however their sets are written.
-/

namespace Deobfuscation.Regex

/-! ### Assertions -/

/-- What can be asserted of the neighbours of a place, as to which of them belong to words. -/
inductive WordPlace where
  /-- Just one neighbour belongs to a word. -/
  | boundary
  /-- Both neighbours belong to a word, or neither does. -/
  | noBoundary
  | start
  | stop
  /-- The neighbour before belongs to no word. -/
  | startHalf
  /-- The neighbour after belongs to no word. -/
  | stopHalf
  deriving DecidableEq, Repr, Inhabited

/-- The assertion holds of a place where the neighbours before and after belong to a word or
not. -/
def WordPlace.holds (before after : Bool) : WordPlace → Bool
  | boundary => before != after
  | noBoundary => before == after
  | start => !before && after
  | stop => before && !after
  | startHalf => !before
  | stopHalf => !after

/-- A statement about a place in a text. -/
inductive Assertion where
  | textStart
  | textEnd
  /-- A line begins; `returns` says that carriage returns end lines too. -/
  | lineStart (returns : Bool)
  /-- A line ends; `returns` says that carriage returns end lines too. -/
  | lineEnd (returns : Bool)
  /-- A place at a word; `ascii` says that only ASCII makes words. -/
  | word (ascii : Bool) (place : WordPlace)
  deriving DecidableEq, Repr, Inhabited

/-- A line begins after a newline, and after a carriage return without a newline. -/
def beginsLine (returns : Bool) (before : Char) (after : Option Char) : Bool :=
  before == '\n' || (returns && before == '\r' && after != some '\n')

/-- A line ends before a carriage return, and before a newline without a carriage return. -/
def endsLine (returns : Bool) (before : Option Char) (after : Char) : Bool :=
  if returns then after == '\r' || (after == '\n' && before != some '\r') else after == '\n'

/-- The assertion holds between two neighbours, absent at the ends of the text. -/
def Assertion.holds (before after : Option Char) : Assertion → Bool
  | .textStart => before.isNone
  | .textEnd => after.isNone
  | .lineStart returns => before.all fun c => beginsLine returns c after
  | .lineEnd returns => after.all fun c => endsLine returns before c
  | .word ascii place =>
    let isWord := if ascii then Text.isAsciiWord else Text.isWord
    place.holds (before.any isWord) (after.any isWord)

/-! ### Expressions -/

/-- A regular expression. -/
inductive Expr where
  /-- Matches without consuming anything. -/
  | empty
  /-- Consumes a given text. -/
  | literal (s : List Char)
  /-- Consumes one character of a set. -/
  | set (s : CharSet)
  /-- Matches where an assertion holds. -/
  | assert (a : Assertion)
  /-- One expression and then another. -/
  | seq (x y : Expr)
  /-- One expression or, failing that, another. -/
  | alt (x y : Expr)
  /-- At least `least` and, if there is a bound, at most `most` rounds of an expression; a
  greedy repetition prefers more rounds to fewer. -/
  | rounds (least : Nat) (most : Option Nat) (greedy : Bool) (x : Expr)
  /-- An expression that captures what it matches. -/
  | group (index : Nat) (x : Expr)
  deriving DecidableEq, Repr, Inhabited

namespace Expr

/-- The expression that consumes one given character. -/
def char (c : Char) : Expr := literal [c]

/-- The expression that never matches. -/
def never : Expr := set .none

/-- The expression may match without consuming a character. -/
def isNullable : Expr → Bool
  | empty => true
  | literal s => s.isEmpty
  | set _ => false
  | assert _ => true
  | seq x y => x.isNullable && y.isNullable
  | alt x y => x.isNullable || y.isNullable
  | rounds least _ _ x => least == 0 || x.isNullable
  | group _ x => x.isNullable

/-- The expression never consumes a character. -/
def neverConsumes : Expr → Bool
  | empty => true
  | literal s => s.isEmpty
  | set _ => false
  | assert _ => true
  | seq x y => x.neverConsumes && y.neverConsumes
  | alt x y => x.neverConsumes && y.neverConsumes
  | rounds _ most _ x => most == some 0 || x.neverConsumes
  | group _ x => x.neverConsumes

/-- The only character that the expression consumes, if there is just one. -/
def char? : Expr → Option Char
  | literal [c] => some c
  | _ => none

/-- The set of the only character that the expression consumes, if it is written as a set. -/
def set? : Expr → Option CharSet
  | set s => some s
  | _ => none

/-- The expression with the sets written as ranges. -/
def withRanges : Expr → Expr
  | empty => empty
  | literal s => literal s
  | set s => set (.table s.ranges)
  | assert a => assert a
  | seq x y => seq x.withRanges y.withRanges
  | alt x y => alt x.withRanges y.withRanges
  | rounds least most greedy x => rounds least most greedy x.withRanges
  | group index x => group index x.withRanges

/-- The expressions are the same, however their sets are written. -/
def hasSameForm (x y : Expr) : Bool := x.withRanges == y.withRanges

end Expr

end Deobfuscation.Regex
