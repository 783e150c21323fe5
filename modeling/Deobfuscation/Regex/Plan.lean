import Deobfuscation.Regex.Expr

/-!
# Search plans

A search plan is a regular expression made ready for the search.  Bounded repetitions are
written out; every place where the search may go two ways is a **junction** with a number of
its own, so the search can remember which junctions have failed it where.

A repetition whose rounds may consume nothing needs a **guard** on each of its junctions: no
path passes a guarded junction twice at one position, for otherwise it could go round forever.
Zero or more rounds of such an expression are planned as one or more rounds or none at all, so
that the first round may consume nothing and still count.

* `Junction`, `Plan` — the plans;
* `Plan.ofExpr` — the plan of an expression;
* `Plan.junctions` — the numbers of a plan's junctions.
-/

namespace Deobfuscation.Regex

/-- A place where the search may go two ways. -/
structure Junction where
  id : Nat
  guarded : Bool
  deriving DecidableEq, Repr, Inhabited

/-- A regular expression made ready for the search. -/
inductive Plan where
  /-- Consumes nothing. -/
  | empty
  /-- Consumes one character of a set. -/
  | set (s : CharSet)
  /-- Goes on where an assertion holds. -/
  | assert (a : Assertion)
  /-- One plan and then another. -/
  | seq (x y : Plan)
  /-- One plan or, failing that, another. -/
  | alt (j : Junction) (x y : Plan)
  /-- Zero or more characters of a set. -/
  | span (j : Junction) (greedy : Bool) (s : CharSet)
  /-- Zero or more rounds; the junction stands before each round and after the last. -/
  | star (j : Junction) (greedy : Bool) (x : Plan)
  /-- One or more rounds; the junction stands after each round. -/
  | plus (j : Junction) (greedy : Bool) (x : Plan)
  /-- A capturing group. -/
  | group (index : Nat) (x : Plan)
  deriving DecidableEq, Repr, Inhabited

namespace Plan

/-! ### Planning -/

/-- A plan that is numbered from a number on; the second component is the next free number. -/
abbrev Numbered := Nat → Plan × Nat

/-- A junction that prefers the first plan if it is greedy, and the second otherwise. -/
def branch (j : Junction) (greedy : Bool) (x y : Plan) : Plan :=
  if greedy then alt j x y else alt j y x

/-- Puts `count` copies of a plan in front of another, each numbered anew. -/
def prependCopies (x : Numbered) : Nat → Plan → Numbered
  | 0, rest, next => (rest, next)
  | count + 1, rest, next =>
    let (copy, next) := x next
    prependCopies x count (seq copy rest) next

/-- Puts up to `count` optional copies of a plan, each inside the one before it, around
another. -/
def nestOptions (x : Numbered) (guarded greedy : Bool) : Nat → Plan → Numbered
  | 0, inner, next => (inner, next)
  | count + 1, inner, next =>
    let (copy, after) := x (next + 1)
    nestOptions x guarded greedy count (branch ⟨next, guarded⟩ greedy (seq copy inner) empty) after

/-- Consumes a given text. -/
def literal : List Char → Plan
  | [] => empty
  | [c] => set (.only c)
  | c :: s => seq (set (.only c)) (literal s)

/-- The characters one of which the expression consumes, if it always consumes just one. -/
def oneOf? : Expr → Option CharSet
  | .set s => some s
  | .literal [c] => some (.only c)
  | _ => none

/-- One or more rounds of an expression; where it consumes one character of a set, that
character and then the rest of the span. -/
def onceOrMore (x : Expr) (planned : Numbered) (guarded greedy : Bool) : Numbered := fun next =>
  match oneOf? x with
  | some s => (seq (set s) (span ⟨next, guarded⟩ greedy s), next + 1)
  | none =>
    let (body, after) := planned (next + 1)
    (plus ⟨next, guarded⟩ greedy body, after)

/-- Zero or more rounds of an expression that always consumes a character. -/
def zeroOrMore (x : Expr) (planned : Numbered) (guarded greedy : Bool) : Numbered := fun next =>
  match oneOf? x with
  | some s => (span ⟨next, guarded⟩ greedy s, next + 1)
  | none =>
    let (body, after) := planned (next + 1)
    (star ⟨next, guarded⟩ greedy body, after)

/-- Plans a repetition without an upper bound. -/
def unbounded (x : Expr) (planned : Numbered) (guarded greedy : Bool) : Nat → Numbered
  | 0, next =>
    if x.isNullable then
      let (body, after) := onceOrMore x planned guarded greedy (next + 1)
      (branch ⟨next, guarded⟩ greedy body empty, after)
    else zeroOrMore x planned guarded greedy next
  | least + 1, next =>
    let (last, next) := onceOrMore x planned guarded greedy next
    prependCopies planned least last next

/-- Plans a repetition with an upper bound. -/
def bounded (planned : Numbered) (guarded greedy : Bool) (least most : Nat) : Numbered :=
  fun next =>
    let (options, next) := nestOptions planned guarded greedy (most - least) empty next
    prependCopies planned least options next

/-- Plans an expression; junctions inside a repetition that may go round without consuming
anything are guarded. -/
def number : Expr → Bool → Numbered
  | .empty, _, next => (empty, next)
  | .literal s, _, next => (literal s, next)
  | .set s, _, next => (set s, next)
  | .assert a, _, next => (assert a, next)
  | .seq x y, guarded, next =>
    let (first, next) := number x guarded next
    let (second, next) := number y guarded next
    (seq first second, next)
  | .alt x y, guarded, next =>
    let (first, after) := number x guarded (next + 1)
    let (second, after) := number y guarded after
    (alt ⟨next, guarded⟩ first second, after)
  | .rounds least (some most) greedy x, guarded, next =>
    bounded (number x guarded) guarded greedy least most next
  | .rounds least none greedy x, guarded, next =>
    let guarded := guarded || x.isNullable
    unbounded x (number x guarded) guarded greedy least next
  | .group index x, guarded, next =>
    let (body, next) := number x guarded next
    (group index body, next)

/-- The plan of an expression. -/
def ofExpr (x : Expr) : Plan := (number x false 0).1

/-- The numbers of the junctions of a plan. -/
def junctions : Plan → List Nat
  | empty | set _ | assert _ => []
  | seq x y => x.junctions ++ y.junctions
  | alt j x y => j.id :: (x.junctions ++ y.junctions)
  | span j _ _ => [j.id]
  | star j _ x => j.id :: x.junctions
  | plus j _ x => j.id :: x.junctions
  | group _ x => x.junctions

end Plan

end Deobfuscation.Regex
