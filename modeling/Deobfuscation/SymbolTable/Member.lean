import Deobfuscation.ClassName
import Deobfuscation.StackFrame
import Deobfuscation.SymbolMap.Entry

/-!
# Members of a symbol table

A symbol table keeps a **symbol** for each obfuscated member: the class that declares it, its
type, its plain name and, for a method, its argument types and lines.  A frame that names an
obfuscated member agrees with a symbol if nothing that the frame tells speaks against it; what
the frame leaves open speaks against nothing.

* `FieldSymbol`, `MethodSymbol` — the symbols;
* `LineMap.accepts`, `LineMap.plainLine` — which obfuscated lines belong to a method, and the
  plain lines they stand for;
* `FieldSymbol.frame`, `MethodSymbol.frame` — a frame with the symbol in place of the obfuscated
  member.
-/

namespace Deobfuscation

/-- The text tells nothing, or it tells the value. -/
def admits (told value : String) : Bool := told.isEmpty || told == value

/-! ### Lines -/

namespace SymbolMap.LineMap

/-- An obfuscated line belongs to the method: it is unknown, or the method has no range, or the
line is in the range. -/
def accepts (lines : LineMap) (line : LineNumber) : Bool :=
  line == 0 || lines.last == 0 || (lines.first ≤ line && line ≤ lines.last)

/-- The plain line of an obfuscated line.  Two ranges that begin alike agree line by line; a
plain range of several lines is reached by the same distance from its first line; otherwise the
first plain line stands for all. -/
def plainLine (lines : LineMap) (line : LineNumber) : LineNumber :=
  if lines.plainFirst = lines.first then line
  else if lines.plainLast ≠ 0 ∧ lines.plainLast ≠ lines.plainFirst ∧ lines.first ≠ 0 ∧
      line ≠ 0 then
    LineNumber.shift lines.first lines.plainFirst line
  else lines.plainFirst

end SymbolMap.LineMap

open SymbolMap (FieldEntry MethodEntry LineMap)

/-! ### Fields -/

/-- What an obfuscated field stands for. -/
structure FieldSymbol where
  declaringClass : String
  type : String
  name : String
  deriving DecidableEq, Repr

namespace FieldSymbol

/-- The symbol that an entry of a class tells; the class declares it unless the entry names
another. -/
def ofEntry (owner : String) (entry : FieldEntry) : FieldSymbol :=
  ⟨entry.declaringClass.getD owner, entry.type, entry.plain⟩

/-- The field may have the type that a frame tells. -/
def agrees (symbol : FieldSymbol) (type : String) : Bool := admits type symbol.type

/-- A frame with the symbol in place of the obfuscated field. -/
def frame (symbol : FieldSymbol) (obfuscated : StackFrame) : StackFrame :=
  { obfuscated with
    className := symbol.declaringClass
    sourceFile := ClassName.sourceFile symbol.declaringClass
    type := symbol.type
    field := symbol.name }

end FieldSymbol

/-! ### Methods -/

/-- What an obfuscated method stands for. -/
structure MethodSymbol where
  declaringClass : String
  type : String
  name : String
  arguments : String
  lines : LineMap
  deriving DecidableEq, Repr

namespace MethodSymbol

/-- The symbol that an entry of a class tells; the class declares it unless the entry names
another. -/
def ofEntry (owner : String) (entry : MethodEntry) : MethodSymbol :=
  ⟨entry.declaringClass.getD owner, entry.type, entry.plain, entry.arguments, entry.lines⟩

/-- The method may have the line, type and argument types that a frame tells. -/
def agrees (symbol : MethodSymbol) (line : LineNumber) (type arguments : String) : Bool :=
  symbol.lines.accepts line && admits type symbol.type && admits arguments symbol.arguments

/-- A frame with the symbol in place of the obfuscated method. -/
def frame (symbol : MethodSymbol) (obfuscated : StackFrame) : StackFrame :=
  { obfuscated with
    className := symbol.declaringClass
    sourceFile := ClassName.sourceFile symbol.declaringClass
    line := symbol.lines.plainLine obfuscated.line
    type := symbol.type
    method := symbol.name
    arguments := symbol.arguments }

end MethodSymbol

end Deobfuscation
