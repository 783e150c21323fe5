import Deobfuscation.LineNumber

/-!
# Stack frames

A stack frame is one place in a program as a log names it: the class, and as far as the log
tells, the source file, the line and a field or a method with its type and argument types.  The
same structure serves a place mentioned in the message of an exception.  What is unknown is
empty, or zero for the line.
-/

namespace Deobfuscation

/-- A place in a program as a log names it. -/
structure StackFrame where
  className : String
  sourceFile : String
  line : LineNumber
  type : String
  field : String
  method : String
  arguments : String
  deriving DecidableEq, Repr

/-- Nothing is known. -/
def StackFrame.unknown : StackFrame := ⟨"", "", 0, "", "", "", ""⟩

instance : Inhabited StackFrame := ⟨.unknown⟩

end Deobfuscation
