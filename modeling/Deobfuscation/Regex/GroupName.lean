import Deobfuscation.Unicode.Property

/-!
# Names of groups

A capturing group may have a name.  It begins with a letter or an underscore; digits, other
numbers, dots and square brackets may follow.  Names are read by a version of the standard that
is newer than the one the classes of characters follow, so they may have letters and numbers that
no class has yet.

* `isNameStart`, `isNamePart` — the characters of names;
* `readName` — the name that a text begins with.
-/

namespace Deobfuscation.Regex

/-! ### Characters -/

/-- What the newer version adds to the alphabetic characters. -/
def addedAlphabetic : Unicode.Repertoire :=
  .listed "88F C5C CDC A7CE-A7CF A7D2 A7D4 A7F1 10940-10959 10EC5-10EC7 10EFA-10EFB 11B60-11B67
      11DB0-11DDB 16EA0-16EB8 16EBB-16ED3 16FF2-16FF6 187F8-187FF 18D09-18D1E 18D80-18DF2
      1E6C0-1E6DE 1E6E0-1E6F5 1E6FE-1E6FF 2B73A-2B73F 2CEA2-2CEAD 323B0-33479"

/-- What the newer version adds to the numbers. -/
def addedNumbers : Unicode.Repertoire := .listed "11DE0-11DE9 16FF4-16FF6"

/-- A character is alphabetic. -/
def isAlphabetic (c : Char) : Bool := (Unicode.alphabetic ∪ addedAlphabetic).contains c.toNat

/-- A character is a number. -/
def isNumber (c : Char) : Bool := (Unicode.number ∪ addedNumbers).contains c.toNat

/-- A character may begin the name of a group. -/
def isNameStart (c : Char) : Bool := c == '_' || c.isAlpha || isAlphabetic c

/-- A character may follow in the name of a group. -/
def isNamePart (c : Char) : Bool :=
  isNameStart c || c == '.' || c == '[' || c == ']' || c.isDigit || isNumber c

/-! ### Names -/

/-- Reads the name of a group up to the angle bracket that ends it. -/
def readName (s : List Char) : Option (List Char × List Char) :=
  match s with
  | [] => none
  | c :: rest =>
    if isNameStart c then
      match rest.dropWhile isNamePart with
      | '>' :: after => some (c :: rest.takeWhile isNamePart, after)
      | _ => none
    else none

end Deobfuscation.Regex
