import Deobfuscation.Regex.Expr

/-!
# Composing expressions

Expressions are composed in a plain form.  A sequence lies flat and has no empty parts, and its
neighbouring literals are joined.  A choice lies flat too; between single characters, or between
sets, it is a set, and if all its branches are sequences that begin alike, what they share stands
in front of the choice between the rests.  Rounds that consume nothing are the same, so one of
them is enough.

* `Expr.concat`, `Expr.choice`, `Expr.repeated`, `Expr.ofSet` — composed expressions;
* `Expr.parts`, `Expr.branches` — the parts of a sequence, the branches of a choice.
-/

namespace Deobfuscation.Regex.Expr

/-! ### Sets -/

/-- The expression that consumes one character of a set. -/
def ofSet (s : CharSet) : Expr :=
  match s.single? with
  | some c => char c
  | none => set s

/-! ### Sequences -/

/-- The parts of a sequence; any other expression is its own only part. -/
def parts : Expr → List Expr
  | empty => []
  | seq x y => x.parts ++ y.parts
  | x => [x]

/-- Joins neighbouring literals. -/
def joinLiterals : List Expr → List Expr
  | [] => []
  | literal s :: xs =>
    match joinLiterals xs with
    | literal t :: xs => literal (s ++ t) :: xs
    | xs => literal s :: xs
  | x :: xs => x :: joinLiterals xs

/-- The sequence of given parts. -/
def ofParts : List Expr → Expr
  | [] => empty
  | [x] => x
  | x :: xs => seq x (ofParts xs)

/-- Expressions one after the other. -/
def concat (xs : List Expr) : Expr := ofParts (joinLiterals (xs.flatMap parts))

/-! ### Choices -/

/-- The branches of a choice; any other expression is its own only branch. -/
def branches : Expr → List Expr
  | alt x y => x.branches ++ y.branches
  | x => [x]

/-- The choice between given branches. -/
def ofBranches : List Expr → Expr
  | [] => never
  | [x] => x
  | x :: xs => alt x (ofBranches xs)

/-- How many sequences, choices, repetitions and groups there are, and what they are made of. -/
def nodes : Expr → Nat
  | empty | literal _ | set _ | assert _ => 1
  | seq x y => x.nodes + y.nodes + 1
  | alt x y => x.nodes + y.nodes + 1
  | rounds _ _ _ x => x.nodes + 1
  | group _ x => x.nodes + 1

/-- The parts that two sequences begin with. -/
def sharedParts : List Expr → List Expr → List Expr
  | x :: xs, y :: ys => if x.hasSameForm y then x :: sharedParts xs ys else []
  | _, _ => []

/-- The parts that all branches begin with, if all of them are sequences. -/
def sharedStart (xs : List Expr) : List Expr :=
  if xs.all fun x => 2 ≤ x.parts.length then
    match xs with
    | [] => []
    | x :: xs => xs.foldl (fun shared y => sharedParts shared y.parts) x.parts
  else []

/-- The set of characters that a choice stands for, if all branches are single characters or all
of them are sets. -/
def choiceSet? (xs : List Expr) : Option CharSet :=
  ((xs.mapM char?).map fun cs => CharSet.unionOf (cs.map .only)).or
    ((xs.mapM set?).map CharSet.unionOf)

/-- A choice between expressions, in order of preference; what is shared is taken in front so
many times at most. -/
def choiceWithin (bound : Nat) (xs : List Expr) : Expr :=
  match xs.flatMap branches with
  | [x] => x
  | xs =>
    match choiceSet? xs, bound, sharedStart xs with
    | some s, _, _ => ofSet s
    | none, bound + 1, x :: shared =>
      let rests := xs.map fun y => concat (y.parts.drop (shared.length + 1))
      concat (x :: shared ++ [choiceWithin bound rests])
    | none, _, _ => ofBranches xs

/-- A choice between expressions, in order of preference. -/
def choice (xs : List Expr) : Expr := choiceWithin ((xs.map nodes).foldr (· + ·) 0) xs

/-! ### Repetitions -/

/-- The bounds of a repetition that matter. -/
def effectiveBounds (x : Expr) (least : Nat) (most : Option Nat) : Nat × Option Nat :=
  if x.neverConsumes then (min least 1, some (min (most.getD 1) 1)) else (least, most)

/-- Rounds of an expression. -/
def repeated (least : Nat) (most : Option Nat) (greedy : Bool) (x : Expr) : Expr :=
  match effectiveBounds x least most with
  | (_, some 0) => empty
  | (1, some 1) => x
  | (least, most) => rounds least most greedy x

end Deobfuscation.Regex.Expr
