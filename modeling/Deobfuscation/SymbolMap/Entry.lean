import Deobfuscation.LineNumber
import Deobfuscation.Utf8

/-!
# Entries of a symbol map

A symbol map is a text file that says how the names of a program were obfuscated.  Each of its
lines is an **entry** for a class, a field or a method, or carries nothing; a line that is meant
as an entry and is none has a **fault**.

* `ClassEntry`, `FieldEntry`, `MethodEntry`, `Entry` — what a line says;
* `LineMap` — the obfuscated and the plain lines of a method;
* `Fault` — what is wrong with a line, and its wording.
-/

namespace Deobfuscation.SymbolMap

/-! ### Entries -/

/-- A class and the name that stands for it. -/
structure ClassEntry where
  plain : String
  obfuscated : String
  deriving DecidableEq, Repr, Inhabited

/-- A field, its type and the name that stands for it.  A field of another class than the one
it is listed under names its declaring class. -/
structure FieldEntry where
  type : String
  plain : String
  obfuscated : String
  declaringClass : Option String
  deriving DecidableEq, Repr, Inhabited

/-- The range of lines that obfuscated code claims and the range that it came from; a bound is
zero where it is unknown. -/
structure LineMap where
  first : LineNumber
  last : LineNumber
  plainFirst : LineNumber
  plainLast : LineNumber
  deriving DecidableEq, Repr, Inhabited

/-- No line is known. -/
def LineMap.unknown : LineMap := ⟨0, 0, 0, 0⟩

/-- A method, its return type, argument types and lines, and the name that stands for it.  A
method inlined from another class names its declaring class. -/
structure MethodEntry where
  type : String
  plain : String
  obfuscated : String
  declaringClass : Option String
  arguments : String
  lines : LineMap
  deriving DecidableEq, Repr, Inhabited

/-- What a line of a symbol map says. -/
inductive Entry where
  | ofClass (entry : ClassEntry)
  | ofField (entry : FieldEntry)
  | ofMethod (entry : MethodEntry)
  deriving DecidableEq, Repr

/-! ### Faults -/

/-- What is wrong with a line that is no entry. -/
inductive Fault where
  /-- The bytes of the line are not UTF-8. -/
  | undecodable (cause : Utf8.DecodeError)
  /-- The line ends like a class entry and has not the form of one. -/
  | malformedClass
  /-- No space ends the type. -/
  | missingSeparator
  /-- No arrow follows the member. -/
  | missingArrow
  /-- A line number is none, or does not fit. -/
  | invalidLineNumber (text : String)
  deriving DecidableEq, Repr

/-- The wording of a fault. -/
def Fault.message : Fault → String
  | .undecodable cause => "line is not valid utf-8: " ++ cause.message
  | .malformedClass => "class line is not of the form `original -> obfuscated:`"
  | .missingSeparator => "missing space between member type and name"
  | .missingArrow => "missing `->` before the obfuscated member name"
  | .invalidLineNumber text => "invalid line number `" ++ text ++ "`"

/-- The fault is one of the encoding, not of the entry. -/
def Fault.isUndecodable : Fault → Bool
  | .undecodable _ => true
  | _ => false

end Deobfuscation.SymbolMap
