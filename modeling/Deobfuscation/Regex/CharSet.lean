import Deobfuscation.Text.Word
import Deobfuscation.Unicode.CaseFolding

/-!
# Sets of characters

A set of characters is written with ranges, the three Unicode classes, tables and the operations
of a bracketed class.  Sets that are written differently may have the same members; they have
the same ranges then.

* `CharSet`, `CharSet.contains` — sets and membership;
* `CharSet.ranges` — the members as ranges of code points;
* `CharSet.only`, `CharSet.ofRanges` — single characters and tables;
* `CharSet.asciiClass?` — the named ASCII classes;
* `CharSet.closeCase` — a set with the other cases of its members;
* `contains_only` — **proved**: a single character is the only member of its set.
-/

namespace Deobfuscation.Regex

/-- A set of characters as it is written. -/
inductive CharSet where
  /-- No character. -/
  | none
  /-- The characters between two, both included. -/
  | range (low high : Char)
  /-- The decimal digits of all scripts. -/
  | decimal
  /-- The blanks. -/
  | blank
  /-- The word characters. -/
  | word
  /-- The characters of given ranges. -/
  | table (ranges : Unicode.Ranges)
  | union (s t : CharSet)
  | inter (s t : CharSet)
  | complement (s : CharSet)
  deriving DecidableEq, Repr, Inhabited

namespace CharSet

/-- A character is a member of a set. -/
def contains : CharSet → Char → Bool
  | none, _ => false
  | range low high, c => low ≤ c && c ≤ high
  | decimal, c => Text.isDecimal c
  | blank, c => Text.isBlank c
  | word, c => Text.isWord c
  | table ranges, c => Text.inRanges ranges c
  | union s t, c => s.contains c || t.contains c
  | inter s t, c => s.contains c && t.contains c
  | complement s, c => !s.contains c

/-- The members as ranges of code points. -/
def ranges : CharSet → Unicode.Ranges
  | none => []
  | range low high => Unicode.Ranges.between low.toNat high.toNat
  | decimal => Text.decimalRanges
  | blank => Text.blankRanges
  | word => Text.wordRanges
  | table ranges => ranges
  | union s t => Unicode.Ranges.union s.ranges t.ranges
  | inter s t => Unicode.Ranges.inter s.ranges t.ranges
  | complement s => Unicode.Ranges.complement s.ranges

/-- The only member, if there is just one. -/
def single? (s : CharSet) : Option Char :=
  match s.ranges with
  | [(low, high)] => if low = high then some (Char.ofNat low) else Option.none
  | _ => Option.none

/-- The set of one character. -/
def only (c : Char) : CharSet := range c c

/-- Every character. -/
def any : CharSet := complement none

/-- The members of the first set that are not members of the second. -/
def difference (s t : CharSet) : CharSet := inter s (complement t)

/-- The members of exactly one of two sets. -/
def symmetricDifference (s t : CharSet) : CharSet := union (difference s t) (difference t s)

/-- The set, or its complement where `negated` says so. -/
def negateIf (negated : Bool) (s : CharSet) : CharSet := if negated then complement s else s

/-- The union of sets. -/
def unionOf : List CharSet → CharSet
  | [] => none
  | [s] => s
  | s :: sets => union s (unionOf sets)

/-- The set with all characters that differ in case only from its members. -/
def closeCase (s : CharSet) : CharSet := table (Unicode.closeCase s.ranges)

/-- The set with the other cases of the ASCII letters in it. -/
def closeAsciiCase (s : CharSet) : CharSet := table (Unicode.closeAsciiCase s.ranges)

/-- The union of ranges. -/
def ofRanges (ranges : List (Char × Char)) : CharSet :=
  unionOf (ranges.map fun (low, high) => range low high)

/-- The ASCII class of a name. -/
def asciiClass? : String → Option CharSet
  | "alnum" => some (ofRanges [('0', '9'), ('A', 'Z'), ('a', 'z')])
  | "alpha" => some (ofRanges [('A', 'Z'), ('a', 'z')])
  | "ascii" => some (ofRanges [('\x00', '\x7F')])
  | "blank" => some (ofRanges [('\t', '\t'), (' ', ' ')])
  | "cntrl" => some (ofRanges [('\x00', '\x1F'), ('\x7F', '\x7F')])
  | "digit" => some (ofRanges [('0', '9')])
  | "graph" => some (ofRanges [('!', '~')])
  | "lower" => some (ofRanges [('a', 'z')])
  | "print" => some (ofRanges [(' ', '~')])
  | "punct" => some (ofRanges [('!', '/'), (':', '@'), ('[', '\x60'), ('\x7B', '~')])
  | "space" => some (ofRanges [('\t', '\r'), (' ', ' ')])
  | "upper" => some (ofRanges [('A', 'Z')])
  | "word" => some (ofRanges [('0', '9'), ('A', 'Z'), ('_', '_'), ('a', 'z')])
  | "xdigit" => some (ofRanges [('0', '9'), ('A', 'F'), ('a', 'f')])
  | _ => Option.none

/-- **A single character is the only member of its set.** -/
theorem contains_only (c d : Char) : (only c).contains d = true ↔ d = c := by
  simp only [only, contains, Bool.and_eq_true, decide_eq_true_eq]
  constructor
  · intro ⟨hcd, hdc⟩
    exact Char.le_antisymm hdc hcd
  · rintro rfl
    exact ⟨Char.le_refl _, Char.le_refl _⟩

end CharSet

end Deobfuscation.Regex
