/-!
# Ranges of code points

A set of code points is kept as its ranges, in ascending order and apart from each other, so two
sets are equal exactly when their ranges are.  Surrogates are no characters and belong to no
set.

* `Ranges`, `Ranges.contains` — sets and membership;
* `Ranges.add`, `Ranges.union` — sets with more members;
* `Ranges.complement`, `Ranges.inter`, `Ranges.difference` — the other operations.
-/

namespace Deobfuscation.Unicode

/-- Ranges of code points, each given by its first and its last one. -/
abbrev Ranges := List (Nat × Nat)

namespace Ranges

/-- The greatest code point. -/
def lastCodePoint : Nat := 0x10FFFF

/-- The first surrogate. -/
def firstSurrogate : Nat := 0xD800

/-- The last surrogate. -/
def lastSurrogate : Nat := 0xDFFF

/-- A code point lies in one of the ranges. -/
def contains (s : Ranges) (n : Nat) : Bool := s.any fun r => r.1 ≤ n && n ≤ r.2

/-- Adds a range, which swallows the ranges that it meets or touches. -/
def add (low high : Nat) : Ranges → Ranges
  | [] => [(low, high)]
  | r :: s =>
    if high + 1 < r.1 then (low, high) :: r :: s
    else if r.2 + 1 < low then r :: add low high s
    else add (min low r.1) (max high r.2) s

/-- The members of either set. -/
def union (s t : Ranges) : Ranges := t.foldr (fun r => add r.1 r.2) s

/-- The gaps between ranges, from a code point on. -/
def gapsFrom (next : Nat) : Ranges → Ranges
  | [] => if next ≤ lastCodePoint then [(next, lastCodePoint)] else []
  | r :: s => if next < r.1 then (next, r.1 - 1) :: gapsFrom (r.2 + 1) s else gapsFrom (r.2 + 1) s

/-- The characters that are not members. -/
def complement (s : Ranges) : Ranges := gapsFrom 0 (add firstSurrogate lastSurrogate s)

/-- The members of both sets. -/
def inter (s t : Ranges) : Ranges := complement (union (complement s) (complement t))

/-- The members of the first set that are not members of the second. -/
def difference (s t : Ranges) : Ranges := complement (union (complement s) t)

/-- The characters between two code points, both included. -/
def between (low high : Nat) : Ranges :=
  [(low, min high (firstSurrogate - 1)), (max low (lastSurrogate + 1), high)].filter fun r =>
    r.1 ≤ r.2

/-- The set of the given code points. -/
def ofList (points : List Nat) : Ranges := points.foldr (fun n => add n n) []

/-- All members are ASCII. -/
def isAscii (s : Ranges) : Bool := s.all fun r => r.2 < 0x80

end Ranges

end Deobfuscation.Unicode
