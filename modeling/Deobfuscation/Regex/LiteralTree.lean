import Deobfuscation.Regex.Tally
import Deobfuscation.Utf8

/-!
# Trees of literals

A choice between literals becomes a tree, which reads their bytes one after the other and has a
branch wherever they differ.  The order of preference matters only where one of them ends: the
literals before it and those after it are told apart by a junction.

* `bytesOf` — the bytes of a literal in the order in which they are read;
* `branchesTally` — the tree below a state;
* `treeTally` — the tree of a choice.
-/

namespace Deobfuscation.Regex

/-- Literals that begin with a byte, divided at those that end here. -/
def divided : List (List UInt8) → List (List (UInt8 × List UInt8))
  | [] => [[]]
  | [] :: literals => [] :: divided literals
  | (b :: rest) :: literals =>
    match divided literals with
    | part :: parts => ((b, rest) :: part) :: parts
    | [] => [[(b, rest)]]

/-- Literals without those that end here for a second time, before any other. -/
def withoutRepeatedEnd (literals : List (List UInt8)) : List (List UInt8) :=
  match literals.dropWhile List.isEmpty with
  | rest => if rest.length < literals.length then [] :: rest else rest

/-- The tree of a choice between literals below a state, no deeper than `bound`.  A state with a
single branch has no transitions of its own. -/
def branchesTally : Nat → List (List UInt8) → Tally
  | 0, _ => .nothing
  | bound + 1, literals =>
    let parts := divided (withoutRepeatedEnd literals)
    let partTally (part : List (UInt8 × List UInt8)) : Tally :=
      let bytes := (part.map Prod.fst).eraseDups
      let below := bytes.map fun b =>
        let rests := (part.filter fun (first, _) => first == b).map Prod.snd
        if rests.all List.isEmpty then .nothing else branchesTally bound rests
      match bytes.length with
      | 0 => .nothing
      | 1 => ⟨1, 0, 1⟩ + .total below
      | count => ⟨1, count, 1⟩ + .total below
    ⟨1, 0, parts.length - 1⟩ + .total (parts.map partTally)

/-- The bytes of a literal in the order in which they are read. -/
def bytesOf (direction : Direction) (s : List Char) : List UInt8 :=
  match direction with
  | .forward => Utf8.encode s
  | .backward => (Utf8.encode s).reverse

/-- The tree of a choice between literals, with the state that all of them lead to. -/
def treeTally (direction : Direction) (literals : List (List Char)) : Tally :=
  let bytes := literals.map (bytesOf direction)
  .ofStates 1 + branchesTally ((bytes.map List.length).foldr max 0) bytes

end Deobfuscation.Regex
