import Deobfuscation.SymbolTable.Resolve

/-!
# Characters of plain names

A character that no plain name of a symbol table contains does not come into a frame by
resolving it: the names of the resolved frame are plain names of the table, names of the frame
itself, or a source file that is made from the name of a class.

* `Lacks` — no plain name of a table contains a character;
* `lacks_empty`, `Lacks.addClass`, `Lacks.addMethod` — **proved**: so it is of the empty table, and
  a class or a method whose names lack the character keeps it so;
* `mem_sourceFile` — **proved**: the characters of a source file are those of its class and of the
  extension;
* `Lacks.resolve` — **proved**: resolving a frame does not bring the character in.
-/

namespace Deobfuscation.SymbolTable

/-- No plain name of the table contains a character. -/
structure Lacks (table : SymbolTable) (c : Char) : Prop where
  classes : ∀ obfuscated plain : String, table.classes[obfuscated]? = some plain → c ∉ plain.toList
  fields : ∀ key, ∀ symbol ∈ table.fields.find key,
    c ∉ symbol.declaringClass.toList ∧ c ∉ symbol.name.toList
  methods : ∀ key, ∀ symbol ∈ table.methods.find key,
    c ∉ symbol.declaringClass.toList ∧ c ∉ symbol.name.toList

/-! ### Calls -/

theorem lacks_empty (c : Char) : empty.Lacks c where
  classes obfuscated plain h := by simp [empty] at h
  fields key symbol h := by simp [empty] at h
  methods key symbol h := by simp [empty] at h

/-- What is found after an insertion was there before, or is what was inserted. -/
theorem mem_find_insert {α : Type} [DecidableEq α] {index : MemberIndex α} {key other : MemberKey}
    {symbol found : α} (h : found ∈ (index.insert key symbol).find other) :
    found = symbol ∨ found ∈ index.find other := by
  rw [MemberIndex.find_insert] at h
  split at h
  · rename_i hnew
    obtain ⟨rfl, -⟩ := hnew
    rw [List.mem_append, List.mem_singleton] at h
    exact h.symm
  · exact Or.inr h

namespace Lacks

variable {table : SymbolTable} {c : Char}

theorem addClass (h : table.Lacks c) {entry : SymbolMap.ClassEntry}
    (hplain : c ∉ entry.plain.toList) : (table.addClass entry).Lacks c where
  classes obfuscated plain hfound := by
    rw [SymbolTable.addClass, Std.TreeMap.getElem?_insert] at hfound
    split at hfound
    · exact Option.some.inj hfound ▸ hplain
    · exact h.classes obfuscated plain hfound
  fields := h.fields
  methods := h.methods

theorem addMethod (h : table.Lacks c) {owner : String} {entry : SymbolMap.MethodEntry}
    (hdeclaring : c ∉ (entry.declaringClass.getD owner).toList) (hplain : c ∉ entry.plain.toList) :
    (table.addMethod owner entry).Lacks c where
  classes := h.classes
  fields := h.fields
  methods key symbol hfound := by
    rcases mem_find_insert hfound with rfl | hold
    · exact ⟨hdeclaring, hplain⟩
    · exact h.methods key symbol hold

end Lacks

/-! ### Source files -/

theorem mem_lastSegment {c : Char} {name : List Char} (h : c ∈ ClassName.lastSegment name) :
    c ∈ name := by
  unfold ClassName.lastSegment at h
  split at h
  · rename_i before segment hcut
    rw [(Text.eq_of_cutLast? hcut).1]
    exact List.mem_append_right before (List.mem_cons_of_mem '.' h)
  · exact h

theorem mem_outermost {c : Char} {segment : List Char} (h : c ∈ ClassName.outermost segment) :
    c ∈ segment := by
  unfold ClassName.outermost at h
  split at h
  · exact h
  · exact (List.takeWhile_prefix _).subset h

/-- **The characters of a source file are those of its class and of the extension.** -/
theorem mem_sourceFile {c : Char} {name : String}
    (h : c ∈ (ClassName.sourceFile name).toList) : c ∈ name.toList ∨ c ∈ ".java".toList := by
  unfold ClassName.sourceFile at h
  split at h
  · simp at h
  · rw [String.toList_append, List.mem_append, String.toList_ofList] at h
    exact h.imp_left fun hmem => mem_lastSegment (mem_outermost hmem)

/-! ### Resolved frames -/

namespace Lacks

variable {table : SymbolTable} {c : Char}

theorem plainClass (h : table.Lacks c) {name : String} (hname : c ∉ name.toList) :
    c ∉ (table.plainClass name).toList := by
  rw [SymbolTable.plainClass, Std.TreeMap.getD_eq_getD_getElem?]
  cases hplain : table.classes[name]? with
  | none => exact hname
  | some plain => exact h.classes name plain hplain

/-- **A character that neither the table nor the frame contains is in no frame that the frame
may stand for.** -/
theorem resolve (h : table.Lacks c) (hjava : c ∉ ".java".toList) {frame : StackFrame}
    (hclass : c ∉ frame.className.toList) (hfile : c ∉ frame.sourceFile.toList)
    (hmethod : c ∉ frame.method.toList) :
    ∀ plain ∈ table.resolve frame, c ∉ plain.className.toList ∧ c ∉ plain.sourceFile.toList ∧
      c ∉ plain.method.toList := by
  have hsource : ∀ {name : String}, c ∉ name.toList → c ∉ (ClassName.sourceFile name).toList :=
    fun hname hmem => (mem_sourceFile hmem).elim hname hjava
  have howner := h.plainClass hclass
  intro plain hplain
  rw [SymbolTable.resolve] at hplain
  split at hplain
  · rw [List.mem_singleton] at hplain
    subst hplain
    refine ⟨howner, ?_, hmethod⟩
    show c ∉ (if frame.sourceFile.isEmpty then _ else frame.sourceFile).toList
    split
    · exact hsource howner
    · exact hfile
  · rcases List.mem_append.1 hplain with hfield | hmember
    · obtain ⟨symbol, hsymbol, rfl⟩ := List.mem_map.1 hfield
      have hnames := h.fields _ symbol (List.mem_filter.1 hsymbol).1
      exact ⟨hnames.1, hsource hnames.1, hmethod⟩
    · obtain ⟨symbol, hsymbol, rfl⟩ := List.mem_map.1 hmember
      have hnames := h.methods _ symbol (List.mem_filter.1 hsymbol).1
      exact ⟨hnames.1, hsource hnames.1, hnames.2⟩

end Lacks

end Deobfuscation.SymbolTable
