import Deobfuscation.SymbolMap.Reading
import Deobfuscation.SymbolTable.Member
import Deobfuscation.SymbolTable.MemberIndex

/-!
# The symbol table

A symbol table remembers what the entries of symbol maps tell: the plain name of each obfuscated
class, where the last entry counts, and the distinct symbols of each obfuscated member of a
class.

* `SymbolTable` — the table, filled by `addClass`, `addField` and `addMethod`;
* `SymbolTable.consumer` — the table as a consumer of entries, which wants every class;
* `SymbolTable.load` — a symbol map read into a table;
* `classCount`, `memberCount` — how much the table knows.
-/

namespace Deobfuscation

open SymbolMap (ClassEntry FieldEntry MethodEntry)

/-- The plain names of obfuscated classes, and the symbols of the members of each plain class. -/
structure SymbolTable where
  classes : Std.TreeMap String String
  fields : MemberIndex FieldSymbol
  methods : MemberIndex MethodSymbol

namespace SymbolTable

/-- The table that knows nothing. -/
def empty : SymbolTable := ⟨∅, .empty, .empty⟩

instance : Inhabited SymbolTable := ⟨empty⟩

/-- Remembers the plain name of a class in place of an earlier one. -/
def addClass (entry : ClassEntry) (table : SymbolTable) : SymbolTable :=
  { table with classes := table.classes.insert entry.obfuscated entry.plain }

/-- Remembers a field of a class. -/
def addField (owner : String) (entry : FieldEntry) (table : SymbolTable) : SymbolTable :=
  { table with
    fields := table.fields.insert ⟨owner, entry.obfuscated⟩ (.ofEntry owner entry) }

/-- Remembers a method of a class. -/
def addMethod (owner : String) (entry : MethodEntry) (table : SymbolTable) : SymbolTable :=
  { table with
    methods := table.methods.insert ⟨owner, entry.obfuscated⟩ (.ofEntry owner entry) }

/-- The table remembers every entry and wants the members of every class. -/
def consumer : SymbolMap.Consumer SymbolTable where
  openClass entry table := (true, table.addClass entry)
  addField := addField
  addMethod := addMethod

/-- Reads a symbol map into a table; what the table knew, it keeps.  The reports are lost where
the source fails, what was read before is not. -/
def load (table : SymbolTable) (source : ByteSource) :
    Except String (List SymbolMap.Report) × SymbolTable :=
  SymbolMap.read consumer table source

/-- The table of a single symbol map, or the failure of its source. -/
def ofSource (source : ByteSource) : Except String SymbolTable :=
  match empty.load source with
  | (.ok _, table) => .ok table
  | (.error cause, _) => .error cause

/-- The number of obfuscated class names. -/
def classCount (table : SymbolTable) : Nat := table.classes.size

/-- The number of distinct fields and methods. -/
def memberCount (table : SymbolTable) : Nat := table.fields.size + table.methods.size

end SymbolTable

end Deobfuscation
