import Deobfuscation.SymbolTable.Basic
import Deobfuscation.Text.Blank

/-!
# Resolving stack frames

A frame of an obfuscated program is resolved to the frames of the plain program that it may
stand for: one for each field and each method of the plain class that agrees with all that the
frame tells.  Where no member agrees, the class alone is resolved, so there is always at
least one answer.

* `plainClass`, `plainType`, `plainArguments` — the plain forms of names and types;
* `fieldFrames`, `methodFrames` — the members that agree;
* `resolve` — all the frames that an obfuscated frame may stand for;
* `resolve_ne_nil` — **proved**: there is at least one.
-/

namespace Deobfuscation.SymbolTable

/-- The plain name of a class; a name that is not obfuscated is plain. -/
def plainClass (table : SymbolTable) (name : String) : String := table.classes.getD name name

/-- The plain form of a type, whose array brackets stay as they are. -/
def plainType (table : SymbolTable) (type : List Char) : List Char :=
  (table.plainClass (String.ofList (type.takeWhile (· ≠ '[')))).toList ++
    type.dropWhile (· ≠ '[')

/-- The plain forms of argument types, parted by commas alone. -/
def plainArguments (table : SymbolTable) (arguments : List Char) : List Char :=
  List.intercalate [','] ((Text.splitOn ',' arguments).map fun argument =>
    table.plainType (Text.trim argument))

/-- The frames of the fields of a class that agree with a frame. -/
def fieldFrames (table : SymbolTable) (owner : String) (frame : StackFrame) : List StackFrame :=
  let type := String.ofList (table.plainType frame.type.toList)
  ((table.fields.find ⟨owner, frame.field⟩).filter (·.agrees type)).map (·.frame frame)

/-- The frames of the methods of a class that agree with a frame. -/
def methodFrames (table : SymbolTable) (owner : String) (frame : StackFrame) :
    List StackFrame :=
  let type := String.ofList (table.plainType frame.type.toList)
  let arguments := String.ofList (table.plainArguments frame.arguments.toList)
  ((table.methods.find ⟨owner, frame.method⟩).filter (·.agrees frame.line type arguments)).map
    (·.frame frame)

/-- A frame whose class alone is resolved.  A source file that the frame tells is believed. -/
def classFrame (owner : String) (frame : StackFrame) : StackFrame :=
  { frame with
    className := owner
    sourceFile :=
      if frame.sourceFile.isEmpty then ClassName.sourceFile owner else frame.sourceFile }

/-- The frames of the plain program that a frame may stand for. -/
def resolve (table : SymbolTable) (frame : StackFrame) : List StackFrame :=
  let owner := table.plainClass frame.className
  let members := table.fieldFrames owner frame ++ table.methodFrames owner frame
  if members.isEmpty then [classFrame owner frame] else members

/-- **A frame stands for at least one frame of the plain program.** -/
theorem resolve_ne_nil (table : SymbolTable) (frame : StackFrame) :
    table.resolve frame ≠ [] := by
  simp only [resolve]
  split
  · simp
  · rename_i hmembers
    simpa using hmembers

end Deobfuscation.SymbolTable
