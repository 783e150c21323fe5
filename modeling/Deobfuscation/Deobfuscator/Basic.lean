import Deobfuscation.SymbolTable.Resolve
import Deobfuscation.Template.Builtin

/-!
# Deobfuscators

A deobfuscator turns the lines of a log into lines of the plain program.  It is made of a
symbol table and a template; the built-in template serves where no other is asked for.

* `Settings` — what can be asked for;
* `Failure` — why there may be no deobfuscator or no complete output, and its wording;
* `Deobfuscator.ofTable`, `Deobfuscator.ofSource` — a deobfuscator for a table, or for the symbol
  map of a source, which is read before the template is looked at.
-/

namespace Deobfuscation

/-- What is asked of a deobfuscator. -/
structure Settings where
  /-- Types and argument types are written with the members. -/
  verbose : Bool
  /-- Class names are also replaced outside of stack frames. -/
  allClassNames : Bool
  /-- A template in place of the built-in one. -/
  template : Option String
  deriving DecidableEq, Repr, Inhabited

/-- Why a deobfuscation failed. -/
inductive Failure where
  /-- A source or the output failed. -/
  | transfer (cause : String)
  /-- The template is not a valid expression. -/
  | invalidTemplate
  deriving DecidableEq, Repr

/-- The wording of a failure. -/
def Failure.message : Failure → String
  | .transfer cause => "I/O error: " ++ cause
  | .invalidTemplate => "invalid frame pattern"

/-- A symbol table and the way to use it. -/
structure Deobfuscator where
  table : SymbolTable
  template : Template
  verbose : Bool
  allClassNames : Bool

namespace Deobfuscator

/-- The template that is asked for, if it is valid. -/
def templateOf (settings : Settings) : Except Failure Template :=
  match settings.template with
  | none => .ok .standard
  | some text =>
    match Template.ofText? text.toList with
    | some template => .ok template
    | none => .error .invalidTemplate

/-- The deobfuscator of a table. -/
def ofTable (table : SymbolTable) (settings : Settings) : Except Failure Deobfuscator :=
  match templateOf settings with
  | .ok template => .ok ⟨table, template, settings.verbose, settings.allClassNames⟩
  | .error failure => .error failure

/-- The deobfuscator of a symbol map. -/
def ofSource (source : ByteSource) (settings : Settings) : Except Failure Deobfuscator :=
  match SymbolTable.ofSource source with
  | .ok table => ofTable table settings
  | .error cause => .error (.transfer cause)

/-- **Without a template of one's own every table has a deobfuscator.** -/
theorem ofTable_builtin (table : SymbolTable) (verbose allClassNames : Bool) :
    ofTable table ⟨verbose, allClassNames, none⟩ =
      .ok ⟨table, .standard, verbose, allClassNames⟩ := rfl

end Deobfuscator

end Deobfuscation
