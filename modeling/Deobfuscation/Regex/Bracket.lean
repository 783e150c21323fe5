import Deobfuscation.Regex.Escape
import Deobfuscation.Regex.Nesting

/-!
# Bracketed classes

A bracketed class lists characters, ranges, classes and further brackets, and may combine what
is listed before and after an operator: `&&` keeps what both sides have, `--` takes the right
side away, `~~` keeps what only one side has.  Operators go from left to right.  A circumflex in
front negates the whole; a closing bracket in front, and hyphens in front, stand for themselves.

* `SetOperation` — the operators;
* `Bracket` — an open bracket and what it has listed so far;
* `readBracket` — a whole bracketed class, and the text after it.
-/

namespace Deobfuscation.Regex

/-- An operator between the two sides of a bracketed class. -/
inductive SetOperation where
  | inter
  | difference
  | symmetricDifference
  deriving DecidableEq, Repr

/-- What the operator makes of its two sides. -/
def SetOperation.apply : SetOperation → CharSet → CharSet → CharSet
  | .inter => .inter
  | .difference => .difference
  | .symmetricDifference => .symmetricDifference

/-- An open bracket: whether it is negated, the operator and its left side if there is one, and
what is listed since, newest first. -/
structure Bracket where
  negated : Bool
  left : Option (SetOperation × Written CharSet)
  listed : List (Written CharSet)
  deriving DecidableEq, Repr

namespace Bracket

/-- The bracket lists more characters. -/
def add (b : Bracket) (s : Written CharSet) : Bracket := { b with listed := s :: b.listed }

/-- What is listed since the last operator. -/
def side (b : Bracket) : Written CharSet :=
  ⟨.unionOf (b.listed.reverse.map Written.value), levels (b.listed.map Written.depth)⟩

/-- The two sides of the last operator combined. -/
def combined (flags : Flags) (b : Bracket) : Written CharSet :=
  match b.left with
  | none => b.side
  | some (operation, left) =>
    ⟨operation.apply (flags.close left.value) (flags.close b.side.value),
      max left.depth b.side.depth + 1⟩

/-- An operator follows. -/
def operate (flags : Flags) (b : Bracket) (operation : SetOperation) : Bracket :=
  { b with left := some (operation, b.combined flags), listed := [] }

/-- The set of the closed bracket. -/
def closed? (flags : Flags) (b : Bracket) : Option (Written CharSet) :=
  (flags.negateIf b.negated (flags.close (b.combined flags).value)).map fun set =>
    ⟨set, (b.combined flags).depth + 1⟩

/-- Opens a bracket. -/
def ofText (flags : Flags) (s : List Char) : Bracket × List Char :=
  let (negated, s) := match flags.skip s with
    | '^' :: s => (true, flags.skip s)
    | s => (false, s)
  match flags.span (· == '-') s with
  | ([], ']' :: rest) => (⟨negated, none, [⟨.only ']', 0⟩]⟩, flags.skip rest)
  | (hyphens, rest) => (⟨negated, none, hyphens.map fun c => ⟨.only c, 0⟩⟩, rest)

end Bracket

/-! ### Items -/

/-- Reads a named ASCII class after its opening bracket, and whether it is negated. -/
def readAsciiClass : List Char → Option (Bool × CharSet × List Char)
  | ':' :: s =>
    let (negated, s) := match s with
      | '^' :: s => (true, s)
      | s => (false, s)
    match s.dropWhile (· != ':') with
    | ':' :: ']' :: rest =>
      (CharSet.asciiClass? (String.ofList (s.takeWhile (· != ':')))).map fun set =>
        (negated, set, rest)
    | _ => none
  | _ => none

/-- Reads a character or an escape. -/
def readAtom (flags : Flags) : List Char → Option (Atom × List Char)
  | [] => none
  | '\\' :: s => Atom.ofEscape flags s
  | c :: s => some (.char c, s)

/-- A character may be listed; it has to be ASCII where only ASCII counts. -/
def Flags.lists (flags : Flags) (c : Char) : Bool := !flags.ascii || c.toNat < 0x80

/-- An atom on its own; assertions have no place in a bracket. -/
def Atom.set? (flags : Flags) : Atom → Option CharSet
  | .char c => if flags.lists c then some (.only c) else none
  | .class s => some s
  | .assertion _ => none

/-- The range of characters between two atoms. -/
def Atom.range? (flags : Flags) : Atom → Atom → Option CharSet
  | .char low, .char high =>
    if low ≤ high && flags.lists low && flags.lists high then some (.range low high) else none
  | _, _ => none

/-- The next character that counts.  Of a comment only the number sign is left out. -/
def Flags.peek (flags : Flags) (s : List Char) : Option Char :=
  if flags.ignoresBlanks then
    match Text.trimStart s with
    | '#' :: rest => (Text.trimStart rest).head?
    | rest => rest.head?
  else s.head?

/-- Reads an atom or a range of characters.  A hyphen before the closing bracket or before
another hyphen makes no range. -/
def readRange (flags : Flags) (s : List Char) : Option (CharSet × List Char) := do
  let (low, rest) ← readAtom flags s
  match flags.skip rest with
  | '-' :: rest =>
    if flags.peek rest = some ']' ∨ flags.peek rest = some '-' then
      return (← low.set? flags, '-' :: rest)
    else
      let (high, rest) ← readAtom flags (flags.skip rest)
      return (← low.range? flags high, rest)
  | rest => return (← low.set? flags, rest)

/-! ### Whole classes -/

/-- Reads on inside a bracket that stands inside others, innermost first. -/
def readBracketIn (flags : Flags) :
    Nat → Bracket → List Bracket → List Char → Option (Written CharSet × List Char)
  | 0, _, _, _ => none
  | bound + 1, inner, outer, s =>
    let operate (operation : SetOperation) (rest : List Char) :=
      readBracketIn flags bound (inner.operate flags operation) outer rest
    match flags.skip s with
    | [] => none
    | ']' :: rest =>
      match inner.closed? flags, outer with
      | none, _ => none
      | some set, [] => some (set, rest)
      | some set, enclosing :: outer =>
        readBracketIn flags bound (enclosing.add set) outer rest
    | '&' :: '&' :: rest => operate .inter rest
    | '-' :: '-' :: rest => operate .difference rest
    | '~' :: '~' :: rest => operate .symmetricDifference rest
    | '[' :: rest =>
      match readAsciiClass rest with
      | some (negated, set, rest) =>
        match flags.negateIf negated (flags.close set) with
        | some set => readBracketIn flags bound (inner.add ⟨set, 0⟩) outer rest
        | none => none
      | none =>
        let (opened, rest) := Bracket.ofText flags rest
        readBracketIn flags bound opened (inner :: outer) rest
    | s =>
      match readRange flags s with
      | some (set, rest) => readBracketIn flags bound (inner.add ⟨set, 0⟩) outer rest
      | none => none

/-- Reads a bracketed class after its opening bracket. -/
def readBracket (flags : Flags) (s : List Char) : Option (Written CharSet × List Char) :=
  let (opened, rest) := Bracket.ofText flags s
  readBracketIn flags (s.length + 1) opened [] rest

end Deobfuscation.Regex
