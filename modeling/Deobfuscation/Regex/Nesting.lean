/-!
# Nesting

How deeply a piece of a written expression nests is measured on the text as it is written, since
pieces may be simplified when they are composed.  Two or more pieces side by side make one level
around them; a single piece makes none.

* `Written` — a piece and how deeply it nests;
* `levels` — how deeply pieces side by side nest;
* `nestingLimit` — how deeply an expression may nest.
-/

namespace Deobfuscation.Regex

/-- A piece and how deeply its written form nests. -/
structure Written (α : Type) where
  value : α
  depth : Nat
  deriving DecidableEq, Repr

/-- How deeply pieces side by side nest, given how deeply each of them does. -/
def levels : List Nat → Nat
  | [] => 0
  | [depth] => depth
  | depths => depths.foldr max 0 + 1

/-- The greatest depth that is accepted. -/
def nestingLimit : Nat := 250

end Deobfuscation.Regex
