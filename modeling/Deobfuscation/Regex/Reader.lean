import Deobfuscation.Regex.Bracket
import Deobfuscation.Regex.Footprint
import Deobfuscation.Regex.GroupName

/-!
# Reading expressions

An expression is read from left to right, one step per operator, atom or parenthesis.  The
reader holds the branches and items of the innermost open group and, below them, those of the
groups around it.  A repetition takes the item before it; where there is none, or a setting of
flags, the expression is invalid, and so it is where a group or a class stays open.

* `Reader` — the state of the reader;
* `Reader.step` — one step;
* `Expr.ofText?` — the expression that a text writes, if it is valid.
-/

namespace Deobfuscation.Regex

/-! ### Repetitions -/

/-- The greatest count of a repetition. -/
def countLimit : Nat := 0xFFFFFFFF

/-- Reads a count, blanks around it aside. -/
def readCount (flags : Flags) (s : List Char) : Option (Nat × List Char) :=
  let (digits, rest) := flags.span Char.isDigit (Text.trimStart s)
  let value := digits.foldl (fun n c => 10 * n + (c.toNat - '0'.toNat)) 0
  if digits.isEmpty || countLimit < value then none
  else some (value, flags.skip (Text.trimStart rest))

/-- Reads the bounds of a counted repetition after its opening brace. -/
def readBounds (flags : Flags) (s : List Char) : Option (Nat × Option Nat × List Char) :=
  match readCount flags (flags.skip s) with
  | some (least, '\x7d' :: rest) => some (least, some least, rest)
  | some (least, ',' :: rest) =>
    match flags.skip rest with
    | '\x7d' :: rest => some (least, none, rest)
    | rest =>
      match readCount flags rest with
      | some (most, '\x7d' :: rest) => if least ≤ most then some (least, some most, rest) else none
      | _ => none
  | _ => none

/-! ### The reader -/

/-- An item of a branch: an expression, or a setting of flags. -/
abbrev Item := Option (Written Expr)

/-- An open group: its index if it captures, the flags to restore at its end, and the branches
and items of the group around it. -/
structure OpenGroup where
  index : Option Nat
  flags : Flags
  branches : List (Written Expr)
  items : List Item

/-- The state of the reader.  Branches, items, names and open groups come newest first. -/
structure Reader where
  flags : Flags
  groups : Nat
  names : List (List Char)
  branches : List (Written Expr)
  items : List Item
  opened : List OpenGroup

namespace Reader

/-- Nothing is read yet. -/
def initial : Reader := ⟨.none, 0, [], [], [], []⟩

/-- The reader takes an expression as its newest item. -/
def push (r : Reader) (x : Written Expr) : Reader := { r with items := some x :: r.items }

/-- The reader takes an atom as its newest item. -/
def pushAtom (r : Reader) (atom : Atom) : Reader := r.push ⟨atom.expr r.flags, 0⟩

/-- The branch that the items make. -/
def branch (r : Reader) : Written Expr :=
  ⟨.concat (r.items.reverse.filterMap fun item => item.map Written.value),
    levels (r.items.map fun item => item.elim 0 Written.depth)⟩

/-- The expression that the branches and the items make. -/
def expr (r : Reader) : Written Expr :=
  let branches := r.branches.reverse ++ [r.branch]
  ⟨.choice (branches.map Written.value), levels (branches.map Written.depth)⟩

/-- A new branch begins. -/
def nextBranch (r : Reader) : Reader := { r with branches := r.branch :: r.branches, items := [] }

/-- A group opens, under the given flags. -/
def openGroup (r : Reader) (index : Option Nat) (flags : Flags) : Reader :=
  { r with
    flags, branches := [], items := []
    opened := ⟨index, r.flags, r.branches, r.items⟩ :: r.opened }

/-- A group opens that captures. -/
def openCapture (r : Reader) : Reader :=
  { r.openGroup (some (r.groups + 1)) r.flags with groups := r.groups + 1 }

/-- The innermost group closes. -/
def closeGroup (r : Reader) : Option Reader :=
  match r.opened with
  | [] => none
  | group :: opened =>
    let inner := match group.index with
      | some index => .group index r.expr.value
      | none => r.expr.value
    some { r with
      flags := group.flags, branches := group.branches
      items := some ⟨inner, r.expr.depth + 1⟩ :: group.items
      opened }

/-- The newest item is repeated. -/
def repeatItem (r : Reader) (least : Nat) (most : Option Nat) (rest : List Char) :
    Option (Reader × List Char) :=
  match r.items with
  | some x :: items =>
    let repeated (greedy : Bool) : Reader :=
      { r with items := some ⟨.repeated least most greedy x.value, x.depth + 1⟩ :: items }
    match rest with
    | '?' :: rest => some (repeated r.flags.lazyByDefault, rest)
    | rest => some (repeated !r.flags.lazyByDefault, rest)
  | _ => none

/-- Opens a group after a parenthesis and a question mark. -/
def openSpecial (r : Reader) (s : List Char) : Option (Reader × List Char) :=
  let named (s : List Char) : Option (Reader × List Char) :=
    match readName s with
    | some (name, rest) =>
      if r.names.contains name then none
      else some ({ r.openCapture with names := name :: r.names }, rest)
    | none => none
  match s with
  | '=' :: _ | '!' :: _ | '<' :: '=' :: _ | '<' :: '!' :: _ => none
  | 'P' :: '<' :: s => named s
  | '<' :: s => named s
  | s =>
    match readFlags ⟨r.flags, [], false, false⟩ s with
    | none => none
    | some (reading, ending, rest) =>
      if ending = ':' then some (r.openGroup none reading.flags, rest)
      else if reading.seen.isEmpty then none
      else some ({ r with flags := reading.flags, items := none :: r.items }, rest)

/-- What the dot stands for; there is no dot where only ASCII counts. -/
def dot? (flags : Flags) : Option CharSet :=
  if flags.ascii then none
  else if flags.dotMatchesNewline then some .any
  else if flags.returnsEndLines then some (.complement (.union (.only '\n') (.only '\r')))
  else some (.complement (.only '\n'))

/-- Reads an operator, an atom or a parenthesis. -/
def step (r : Reader) (c : Char) (s : List Char) : Option (Reader × List Char) :=
  let flags := r.flags
  let place (line text : Assertion) : Reader :=
    r.pushAtom (.assertion (if flags.anchorsMatchLines then line else text))
  match c with
  | '(' =>
    match flags.skip s with
    | '?' :: s => r.openSpecial s
    | s => some (r.openCapture, s)
  | ')' => r.closeGroup.map fun r => (r, s)
  | '|' => some (r.nextBranch, s)
  | '*' => r.repeatItem 0 none s
  | '+' => r.repeatItem 1 none s
  | '?' => r.repeatItem 0 (some 1) s
  | '\x7b' =>
    (readBounds flags s).bind fun (least, most, rest) => r.repeatItem least most (flags.skip rest)
  | '[' => (readBracket flags s).map fun (set, rest) => (r.push ⟨.ofSet set.value, set.depth⟩, rest)
  | '\\' => (Atom.ofEscape flags s).map fun (atom, rest) => (r.pushAtom atom, rest)
  | '.' => (dot? flags).map fun set => (r.pushAtom (.class set), s)
  | '^' => some (place (.lineStart flags.returnsEndLines) .textStart, s)
  | '$' => some (place (.lineEnd flags.returnsEndLines) .textEnd, s)
  | c => some (r.pushAtom (.char c), s)

/-- Reads to the end, in at most so many steps. -/
def run : Nat → Reader → List Char → Option Reader
  | bound, r, s =>
    match r.flags.skip s, bound with
    | [], _ => some r
    | _, 0 => none
    | c :: s, bound + 1 =>
      match r.step c s with
      | some (r, rest) => run bound r rest
      | none => none

end Reader

/-- The expression that a text writes, if it is valid and neither nests too deeply nor is too
large.  Every step reads a character, so their number bounds the steps. -/
def Expr.ofText? (s : List Char) : Option Expr :=
  match Reader.run s.length .initial s with
  | some r =>
    if r.opened.isEmpty && r.expr.depth ≤ nestingLimit && r.expr.value.IsAcceptable then
      some r.expr.value
    else none
  | none => none

end Deobfuscation.Regex
