import Deobfuscation.ClassName
import Deobfuscation.StackFrame

/-!
# Placeholders

A placeholder marks the part of a line that tells one component of a stack frame.  It is written
as a percent sign and a letter:

* `%c`, `%C` — the class, its path joined by dots or by slashes;
* `%s` — the source file, possibly empty;
* `%l` — the line, possibly negative;
* `%t` — the type, a class with array brackets;
* `%f`, `%m` — the field, the method;
* `%a` — the argument types, parted by commas, possibly none.

Each has a **fragment**, the regular expression of the texts it stands for, and a way to read
such a text into a frame and to write a frame's component as such a text.  A letter that is no
placeholder's has no meaning.
-/

namespace Deobfuscation

/-- A component of a stack frame in a line. -/
inductive Placeholder where
  | dottedClass
  | slashedClass
  | sourceFile
  | line
  | type
  | field
  | method
  | arguments
  deriving DecidableEq, Repr, Inhabited

namespace Placeholder

/-- The placeholder of a letter. -/
def ofLetter? : Char → Option Placeholder
  | 'c' => some dottedClass
  | 'C' => some slashedClass
  | 's' => some sourceFile
  | 'l' => some line
  | 't' => some type
  | 'f' => some field
  | 'm' => some method
  | 'a' => some arguments
  | _ => none

/-! ### Fragments -/

/-- Any number of repetitions of an expression. -/
def repeated (x : List Char) : List Char := ['(', '?', ':'] ++ x ++ [')', '*']

/-- An expression or nothing. -/
def optional (x : List Char) : List Char := ['(', '?', ':'] ++ x ++ [')', '?']

/-- One segment of a path: no blank, quotation mark, colon, dot, slash or parenthesis. -/
def segmentFragment : List Char :=
  ['[', '^', '\\', 's', '\x22', ':', '.', '/', '(', ')', ']', '+']

/-- A class with its path joined by dots. -/
def classFragment : List Char := repeated (segmentFragment ++ ['\\', '.']) ++ segmentFragment

/-- A class with its path joined by slashes. -/
def slashedClassFragment : List Char := repeated (segmentFragment ++ ['/']) ++ segmentFragment

/-- A source file or nothing: no colon and no parenthesis, and no digit in front. -/
def sourceFileFragment : List Char :=
  optional ['[', '^', ':', '(', ')', '\\', 'd', ']', '[', '^', ':', '(', ')', ']', '*']

/-- A whole number, with a minus sign perhaps. -/
def lineFragment : List Char := ['-', '?', '\\', 'b', '\\', 'd', '+', '\\', 'b']

/-- A class with array brackets. -/
def typeFragment : List Char := classFragment ++ repeated ['\\', '[', '\\', ']']

/-- The name of a field or a method, which may stand in angle brackets. -/
def memberFragment : List Char := ['<', '?'] ++ segmentFragment ++ ['>', '?']

/-- Types parted by commas, or nothing. -/
def argumentsFragment : List Char :=
  optional (typeFragment ++ repeated (['\\', 's', '*', ',', '\\', 's', '*'] ++ typeFragment))

/-- The regular expression of the texts that a placeholder stands for. -/
def fragment : Placeholder → List Char
  | dottedClass => classFragment
  | slashedClass => slashedClassFragment
  | sourceFile => sourceFileFragment
  | line => lineFragment
  | type => typeFragment
  | field => memberFragment
  | method => memberFragment
  | arguments => argumentsFragment

/-! ### Reading and writing components -/

/-- The line that stands for a number that does not fit. -/
def unreadableLine : LineNumber := -1

/-- Reads a text that a placeholder stands for into a frame. -/
def read (placeholder : Placeholder) (s : List Char) (frame : StackFrame) : StackFrame :=
  match placeholder with
  | dottedClass => { frame with className := String.ofList s }
  | slashedClass => { frame with className := String.ofList (ClassName.dotted s) }
  | sourceFile => { frame with sourceFile := String.ofList s }
  | line => { frame with line := (LineNumber.ofText? s).getD unreadableLine }
  | type => { frame with type := String.ofList s }
  | field => { frame with field := String.ofList s }
  | method => { frame with method := String.ofList s }
  | arguments => { frame with arguments := String.ofList s }

/-- Writes the component of a frame.  A verbose field has its type in front, and a verbose
method also its argument types behind. -/
def write (placeholder : Placeholder) (verbose : Bool) (frame : StackFrame) : List Char :=
  match placeholder with
  | dottedClass => frame.className.toList
  | slashedClass => ClassName.slashed frame.className.toList
  | sourceFile => frame.sourceFile.toList
  | line => frame.line.text
  | type => frame.type.toList
  | field =>
    if verbose then frame.type.toList ++ ' ' :: frame.field.toList else frame.field.toList
  | method =>
    if verbose then
      frame.type.toList ++ ' ' :: frame.method.toList ++ '(' :: frame.arguments.toList ++ [')']
    else frame.method.toList
  | arguments => frame.arguments.toList

end Placeholder

end Deobfuscation
