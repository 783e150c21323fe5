import Deobfuscation.Text.Blank

/-!
# Flags

A group is read under flags.  They say what the dot, the anchors and the classes mean, whether
case counts, and whether blanks and comments may stand between the pieces of an expression; a
comment goes from a number sign to the end of its line.

* `Flags`, `Flags.set` — the flags and their letters;
* `readFlags` — the flags that a group sets;
* `Flags.skip`, `Flags.span` — reading past blanks and comments where they do not count.
-/

namespace Deobfuscation.Regex

/-- What is set. -/
structure Flags where
  dotMatchesNewline : Bool
  anchorsMatchLines : Bool
  lazyByDefault : Bool
  ignoresCase : Bool
  ignoresBlanks : Bool
  /-- Classes and word assertions know ASCII only. -/
  ascii : Bool
  /-- Carriage returns end lines too. -/
  returnsEndLines : Bool
  deriving DecidableEq, Repr

namespace Flags

/-- Nothing is set. -/
def none : Flags := ⟨false, false, false, false, false, false, false⟩

/-- Sets a flag by its letter. -/
def set (flags : Flags) (letter : Char) (value : Bool) : Option Flags :=
  match letter with
  | 's' => some { flags with dotMatchesNewline := value }
  | 'm' => some { flags with anchorsMatchLines := value }
  | 'U' => some { flags with lazyByDefault := value }
  | 'i' => some { flags with ignoresCase := value }
  | 'x' => some { flags with ignoresBlanks := value }
  | 'u' => some { flags with ascii := !value }
  | 'R' => some { flags with returnsEndLines := value }
  | _ => Option.none

end Flags

/-! ### Setting flags -/

/-- What the letters of a group set so far: the flags, the letters met, and whether a hyphen was
among them or came last. -/
structure FlagReading where
  flags : Flags
  seen : List Char
  negative : Bool
  dangling : Bool
  deriving DecidableEq, Repr

/-- Reads flag letters up to the colon or parenthesis that ends them.  No letter may come
twice, and a hyphen, of which there is at most one, needs a letter after it. -/
def readFlags : FlagReading → List Char → Option (FlagReading × Char × List Char)
  | _, [] => none
  | reading, c :: s =>
    if c = ':' ∨ c = ')' then if reading.dangling then none else some (reading, c, s)
    else if c = '-' then
      if reading.negative then none
      else readFlags { reading with negative := true, dangling := true } s
    else if reading.seen.contains c then none
    else
      match reading.flags.set c !reading.negative with
      | none => none
      | some flags => readFlags ⟨flags, c :: reading.seen, reading.negative, false⟩ s

/-! ### Blanks and comments -/

/-- Leaves out blanks and comments at the beginning, which may be inside a comment. -/
def skipComments : Bool → List Char → List Char
  | _, [] => []
  | true, c :: s => skipComments (c != '\n') s
  | false, c :: s =>
    if Text.isBlank c then skipComments false s
    else if c = '#' then skipComments true s
    else c :: s

namespace Flags

/-- Leaves out blanks and comments at the beginning, where they do not count. -/
def skip (flags : Flags) (s : List Char) : List Char :=
  if flags.ignoresBlanks then skipComments false s else s

/-- The characters at the beginning that pass a test, and the text after them.  What does not
count after each of them is left out. -/
def span (flags : Flags) (test : Char → Bool) (s : List Char) : List Char × List Char :=
  within s.length s
where
  /-- Does so for at most so many characters. -/
  within : Nat → List Char → List Char × List Char
    | bound + 1, c :: s =>
      if test c then
        let (passed, rest) := within bound (flags.skip s)
        (c :: passed, rest)
      else ([], c :: s)
    | _, s => ([], s)

end Flags

end Deobfuscation.Regex
