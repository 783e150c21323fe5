import Deobfuscation.Proofs.SymbolTable.Invariants
import Deobfuscation.SymbolTable.Resolve

/-!
# Members have names

A line of a symbol map in which the obfuscated name of a member is missing is no entry.  So a table
that is read from symbol maps knows no member by the empty name, and a frame that names no member is
resolved to its class alone.

* `SymbolTable.KnowsNames`, `knowsNames_of_ofSource` — **proved**: a table that is read knows no
  member by the empty name;
* `KnowsNames.resolve` — **proved**: a frame without a member is resolved to its class.
-/

namespace Deobfuscation.SymbolTable

/-! ### Tables -/

/-- No member is known by the empty name. -/
structure KnowsNames (table : SymbolTable) : Prop where
  fields : ∀ owner, table.fields.find ⟨owner, ""⟩ = []
  methods : ∀ owner, table.methods.find ⟨owner, ""⟩ = []

/-- A member that is added under a name leaves the empty name unknown. -/
theorem find_insert_of_name {α : Type} [DecidableEq α] {index : MemberIndex α} {owner name : String}
    (hname : name ≠ "") (h : ∀ other, index.find ⟨other, ""⟩ = []) (symbol : α) (other : String) :
    (index.insert ⟨owner, name⟩ symbol).find ⟨other, ""⟩ = [] := by
  rw [MemberIndex.find_insert, if_neg]
  · exact h other
  · rintro ⟨heq, -⟩
    exact hname (MemberKey.mk.inj heq).2

namespace KnowsNames

variable {table : SymbolTable}

theorem addField (h : table.KnowsNames) (owner : String) {entry : SymbolMap.FieldEntry}
    (hname : entry.obfuscated ≠ "") : (table.addField owner entry).KnowsNames where
  fields := find_insert_of_name hname h.fields _
  methods := h.methods

theorem addMethod (h : table.KnowsNames) (owner : String) {entry : SymbolMap.MethodEntry}
    (hname : entry.obfuscated ≠ "") : (table.addMethod owner entry).KnowsNames where
  fields := h.fields
  methods := find_insert_of_name hname h.methods _

/-- **A frame without a member is resolved to its class.** -/
theorem resolve (h : table.KnowsNames) (frame : StackFrame) (hfield : frame.field = "")
    (hmethod : frame.method = "") :
    table.resolve frame = [classFrame (table.plainClass frame.className) frame] := by
  have hfields : table.fieldFrames (table.plainClass frame.className) frame = [] := by
    rw [fieldFrames, hfield, h.fields]
    rfl
  have hmethods : table.methodFrames (table.plainClass frame.className) frame = [] := by
    rw [methodFrames, hmethod, h.methods]
    rfl
  rw [SymbolTable.resolve, hfields, hmethods]
  rfl

end KnowsNames

/-- Adding what an entry with a name tells keeps it so. -/
theorem consumer_keeps_knowsNames : consumer.Keeps SymbolMap.Entry.HasName KnowsNames where
  openClass _ _ _ h := ⟨h.fields, h.methods⟩
  addField owner _ _ _ hname h := h.addField owner.plain hname
  addMethod owner _ _ _ hname h := h.addMethod owner.plain hname

/-- **A table that is read from a symbol map knows no member by the empty name.** -/
theorem knowsNames_of_ofSource {source : ByteSource} {table : SymbolTable}
    (h : ofSource source = .ok table) : table.KnowsNames := by
  have hempty : empty.KnowsNames :=
    ⟨fun owner => MemberIndex.find_empty _, fun owner => MemberIndex.find_empty _⟩
  refine holds_of_ofSource consumer_keeps_knowsNames hempty (fun line _ entry hentry => ?_) h
  obtain ⟨s, -, hreads⟩ := SymbolMap.exists_reads_of_ofBytes hentry
  exact hreads.hasName

end Deobfuscation.SymbolTable
