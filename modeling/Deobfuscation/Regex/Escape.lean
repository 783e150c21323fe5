import Deobfuscation.Regex.Composition
import Deobfuscation.Regex.Flags
import Deobfuscation.Unicode.Query

/-!
# Escape sequences

A backslash makes an **atom** of what follows it.  Punctuation stands for itself, some letters
for control characters, classes or assertions; a code point may be given in hexadecimal, and a
class of characters by a query.  Digits and all other letters are refused, since they might come
to mean something.

Where only ASCII counts, classes have no complement and there are no queries, since they would
match single bytes of other characters; so would a byte of two hexadecimal digits.

* `Atom` — a character, a class or an assertion;
* `Atom.ofEscape` — the atom after a backslash, and the text after the atom;
* `Atom.expr` — the atom as an expression.
-/

namespace Deobfuscation.Regex

/-- The smallest piece of a written expression. -/
inductive Atom where
  | char (c : Char)
  | class (s : CharSet)
  | assertion (a : Assertion)
  deriving DecidableEq, Repr

/-! ### Flags and sets -/

/-- A set with the other cases of its members, where case does not count. -/
def Flags.close (flags : Flags) (s : CharSet) : CharSet :=
  if flags.ignoresCase then if flags.ascii then s.closeAsciiCase else s.closeCase else s

/-- The complement of a set if `negated` says so; there is none where only ASCII counts. -/
def Flags.negateIf (flags : Flags) (negated : Bool) (s : CharSet) : Option CharSet :=
  if negated && flags.ascii then Option.none else some (.negateIf negated s)

/-- The atom as an expression. -/
def Atom.expr (flags : Flags) : Atom → Expr
  | .char c => if flags.ignoresCase then .ofSet (flags.close (.only c)) else .char c
  | .class s => .ofSet s
  | .assertion a => .assert a

/-! ### Code points in hexadecimal -/

/-- The character of a code point. -/
def charOfNumber? (n : Nat) : Option Char := if n.isValidChar then some (Char.ofNat n) else none

/-- Reads so many hexadecimal digits that follow those of `number`. -/
def readHexDigits (flags : Flags) (number : Nat) : Nat → List Char → Option (Nat × List Char)
  | 0, s => some (number, s)
  | _ + 1, [] => none
  | count + 1, c :: s =>
    (Text.hexDigit? c).bind fun digit =>
      readHexDigits flags (16 * number + digit) count (flags.skip s)

/-- Reads what stands in braces after the opening one. -/
def readBraced (flags : Flags) (s : List Char) : Option (List Char × List Char) :=
  match flags.span (· != '\x7d') (flags.skip s) with
  | (content, '\x7d' :: rest) => some (content, rest)
  | _ => none

/-- Reads a code point of `count` hexadecimal digits, or of any number of them in braces; the
digits of a byte have to be ASCII where only ASCII counts. -/
def readHex (flags : Flags) (count : Nat) (s : List Char) : Option (Char × List Char) :=
  match flags.skip s with
  | '\x7b' :: s => do
    let (digits, rest) ← readBraced flags s
    let c ← (Text.hexNumber? digits).bind charOfNumber?
    return (c, rest)
  | s => do
    let (number, rest) ← readHexDigits flags 0 count s
    let c ← charOfNumber? number
    if flags.ascii && count == 2 && 0x80 ≤ number then none else return (c, rest)

/-! ### Queries -/

/-- The set that a query asks for. -/
def querySet (flags : Flags) (negated : Bool) (query : List Char) : Option CharSet :=
  (Unicode.Query.ofText? query).map fun query =>
    .negateIf (negated != query.negated) (flags.close (.table query.members.ranges))

/-- Reads a query, of one letter or in braces. -/
def readQuery (flags : Flags) (negated : Bool) (s : List Char) : Option (CharSet × List Char) :=
  if flags.ascii then none
  else
    match flags.skip s with
    | [] => none
    | '\\' :: _ => none
    | '\x7b' :: s => do
      let (query, rest) ← readBraced flags s
      let set ← querySet flags negated query
      return (set, rest)
    | c :: s => (querySet flags negated [c]).map fun set => (set, s)

/-! ### Word assertions -/

/-- The word assertion of a name in braces. -/
def wordPlace? : String → Option WordPlace
  | "start" => some .start
  | "end" => some .stop
  | "start-half" => some .startHalf
  | "end-half" => some .stopHalf
  | _ => none

/-- A character may stand in the name of a word assertion. -/
def isNameLetter (c : Char) : Bool := c.isAlpha || c == '-'

/-- Reads what follows the escape of a word boundary: a name in braces makes another assertion
of it, while braces that hold no name are left for a counted repetition. -/
def readWordPlace (flags : Flags) : List Char → Option (WordPlace × List Char)
  | '\x7b' :: s =>
    match flags.skip s with
    | [] => none
    | c :: rest =>
      if isNameLetter c then
        match flags.span isNameLetter (c :: rest) with
        | (name, '\x7d' :: rest) => (wordPlace? (String.ofList name)).map fun place => (place, rest)
        | _ => none
      else some (.boundary, '\x7b' :: s)
  | s => some (.boundary, s)

/-! ### Escapes -/

/-- The class of a letter, whose capital stands for the complement. -/
def classOfLetter? (flags : Flags) (letter : Char) : Option CharSet :=
  match letter.toLower, flags.ascii with
  | 'd', false => some .decimal
  | 's', false => some .blank
  | 'w', false => some .word
  | 'd', true => CharSet.asciiClass? "digit"
  | 's', true => CharSet.asciiClass? "space"
  | 'w', true => CharSet.asciiClass? "word"
  | _, _ => none

/-- The control character of a letter. -/
def controlOfLetter? : Char → Option Char
  | 'a' => some '\x07'
  | 'f' => some '\x0C'
  | 't' => some '\t'
  | 'n' => some '\n'
  | 'r' => some '\r'
  | 'v' => some '\x0B'
  | _ => none

/-- How many hexadecimal digits follow a letter. -/
def hexCount? : Char → Option Nat
  | 'x' => some 2
  | 'u' => some 4
  | 'U' => some 8
  | _ => none

/-- The assertion of a character, apart from that of a word boundary. -/
def assertionOf? (flags : Flags) : Char → Option Assertion
  | 'A' => some .textStart
  | 'z' => some .textEnd
  | 'B' => some (.word flags.ascii .noBoundary)
  | '<' => some (.word flags.ascii .start)
  | '>' => some (.word flags.ascii .stop)
  | _ => none

/-- A character stands for itself after a backslash: it is ASCII, and neither a letter nor a
digit nor an angle bracket. -/
def isEscapable (c : Char) : Bool :=
  c.toNat < 0x80 && !c.isAlphanum && c != '<' && c != '>'

/-- Reads the atom after a backslash. -/
def Atom.ofEscape (flags : Flags) : List Char → Option (Atom × List Char)
  | [] => none
  | c :: s =>
    if isEscapable c then some (.char c, s)
    else if c = 'b' then
      (readWordPlace flags s).map fun (place, rest) => (.assertion (.word flags.ascii place), rest)
    else if c = 'p' ∨ c = 'P' then
      (readQuery flags (c == 'P') s).map fun (set, rest) => (.class set, rest)
    else
      match classOfLetter? flags c, controlOfLetter? c, hexCount? c, assertionOf? flags c with
      | some set, _, _, _ => (flags.negateIf c.isUpper set).map fun set => (.class set, s)
      | _, some control, _, _ => some (.char control, s)
      | _, _, some count, _ => (readHex flags count s).map fun (c, rest) => (.char c, rest)
      | _, _, _, some place => some (.assertion place, s)
      | _, _, _, _ => none

end Deobfuscation.Regex
