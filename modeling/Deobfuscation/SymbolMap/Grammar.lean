import Deobfuscation.SymbolMap.Entry
import Deobfuscation.Text.Blank
import Deobfuscation.Text.Cut

/-!
# The grammar of symbol map lines

A trimmed line that is empty or begins with `#` carries nothing.  One that ends in a colon is a
class entry,

    plain -> obfuscated:

and any other line is a member entry,

    [first:last:]type [class.]name(arguments)[:plainFirst[:plainLast]] -> obfuscated
    type [class.]name -> obfuscated

in which a missing range is unknown, a missing plain range is the obfuscated one, and a plain
first line alone is also the last.  Every separator is the leftmost one after the
separator before it, only a declaring class reaches to the last dot of its name.

* `classOfText` — a class entry, or the fault of a line that ends like one;
* `memberOfText` — a member entry, nothing where one of its names is empty, or a fault;
* `Entry.ofText` — a line of any kind.
-/

namespace Deobfuscation.SymbolMap

open Text

/-- The sign between a plain and an obfuscated name. -/
def arrow : List Char := ['-', '>']

/-! ### Class entries -/

/-- Reads a trimmed line that ends in a colon. -/
def classOfText (line : List Char) : Except Fault ClassEntry :=
  match cut? arrow line with
  | none => .error .malformedClass
  | some (plain, rest) =>
    match cut? [':'] rest with
    | none => .error .malformedClass
    | some (obfuscated, _) =>
      if (trim plain).isEmpty || (trim obfuscated).isEmpty then .error .malformedClass
      else .ok ⟨String.ofList (trim plain), String.ofList (trim obfuscated)⟩

/-! ### Line ranges -/

/-- Reads a line number, blanks around it aside. -/
def lineOfText (s : List Char) : Except Fault LineNumber :=
  match LineNumber.ofText? (trim s) with
  | some n => .ok n
  | none => .error (.invalidLineNumber (String.ofList (trim s)))

/-- Parts the head of a member, which contains no space, into the range it leads with, if any,
and the type. -/
def rangeAndType (head : List Char) : Option (List Char × List Char) × List Char :=
  match cut? [':'] head with
  | none => (none, head)
  | some (first, rest) =>
    match cut? [':'] rest with
    | none => (none, head)
    | some (last, type) => (some (first, last), type)

/-- Reads the range of obfuscated lines; the plain range agrees with it so far. -/
def obfuscatedLines : Option (List Char × List Char) → Except Fault LineMap
  | none => .ok LineMap.unknown
  | some (first, last) => do
    let first ← lineOfText first
    let last ← lineOfText last
    return ⟨first, last, first, last⟩

/-- Reads the range of plain lines from what follows the arguments, which may be a colon
and a line or two; anything else says nothing. -/
def plainLines (suffix : List Char) (lines : LineMap) : Except Fault LineMap :=
  match trimStart suffix with
  | ':' :: range =>
    match cut? [':'] range with
    | some (first, last) => do
      let first ← lineOfText first
      let last ← lineOfText last
      return { lines with plainFirst := first, plainLast := last }
    | none => do
      let line ← lineOfText range
      return { lines with plainFirst := line, plainLast := line }
  | _ => .ok lines

/-! ### Member entries -/

/-- The place of the parentheses in what follows the type: the texts before, between and after
them. -/
def aroundParentheses (s : List Char) : Option (List Char × List Char × List Char) :=
  match cut? ['('] s with
  | none => none
  | some (name, rest) => (cut? [')'] rest).map fun sides => (name, sides.1, sides.2)

/-- Parts a member's name from its declaring class at the last dot. -/
def declaringClassAndName (name : List Char) : Option String × String :=
  match cutLast? '.' name with
  | some (declaring, name) => (some (String.ofList declaring), String.ofList name)
  | none => (none, String.ofList name)

/-- Reads a method from its parts. -/
def methodOfParts (range : Option (List Char × List Char))
    (type name arguments suffix obfuscated : List Char) : Except Fault (Option Entry) :=
  if type.isEmpty || name.isEmpty || obfuscated.isEmpty then .ok none
  else do
    let lines ← obfuscatedLines range
    let lines ← plainLines suffix lines
    let (declaringClass, plain) := declaringClassAndName name
    return some (.ofMethod
      { type := String.ofList type, plain, obfuscated := String.ofList obfuscated,
        declaringClass, arguments := String.ofList arguments, lines })

/-- Reads a field from its parts. -/
def fieldOfParts (type name obfuscated : List Char) : Option Entry :=
  if type.isEmpty || name.isEmpty || obfuscated.isEmpty then none
  else
    let (declaringClass, plain) := declaringClassAndName name
    some (.ofField
      { type := String.ofList type, plain, obfuscated := String.ofList obfuscated,
        declaringClass })

/-- Reads a trimmed line that does not end in a colon. -/
def memberOfText (line : List Char) : Except Fault (Option Entry) :=
  match cut? [' '] line with
  | none => .error .missingSeparator
  | some (head, rest) =>
    let (range, type) := rangeAndType head
    match aroundParentheses rest with
    | some (name, arguments, tail) =>
      match cut? arrow tail with
      | none => .error .missingArrow
      | some (suffix, obfuscated) =>
        methodOfParts range (trim type) (trim name) (trim arguments) suffix (trim obfuscated)
    | none =>
      match cut? arrow rest with
      | none => .error .missingArrow
      | some (name, obfuscated) => .ok (fieldOfParts (trim type) (trim name) (trim obfuscated))

/-! ### Lines of any kind -/

/-- A trimmed line carries nothing: it is empty or a comment. -/
def isVacant : List Char → Bool
  | [] => true
  | c :: _ => c == '#'

/-- A trimmed line ends like a class entry. -/
def isHeader (line : List Char) : Bool := line.getLast? == some ':'

/-- Reads a line: an entry, nothing, or a fault. -/
def Entry.ofText (s : List Char) : Except Fault (Option Entry) :=
  let line := trim s
  if isVacant line then .ok none
  else if isHeader line then (classOfText line).map fun entry => some (.ofClass entry)
  else memberOfText line

/-- Reads a line as its bytes are stored. -/
def Entry.ofBytes (raw : List UInt8) : Except Fault (Option Entry) :=
  match Utf8.decode raw with
  | .ok s => Entry.ofText s
  | .error cause => .error (.undecodable cause)

end Deobfuscation.SymbolMap
