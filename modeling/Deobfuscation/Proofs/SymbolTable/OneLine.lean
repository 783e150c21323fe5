import Deobfuscation.Proofs.ByteSource
import Deobfuscation.Proofs.SymbolTable.Invariants
import Deobfuscation.Proofs.SymbolTable.PlainNames

/-!
# Texts in one line

An entry of a symbol map is read from one line, so there is no newline in any of its texts.  A table
that is read tells nothing but such texts, and resolving a frame brings in nothing but what the
table tells: a frame whose texts are in one line is resolved to frames whose texts are.

* `FieldSymbol.Lacks`, `MethodSymbol.Lacks`, `StackFrame.Lacks` — no text contains a character;
* `SymbolTable.TextsLack` — nor does any text that a table tells;
* `TextsLack.addClass`, `TextsLack.addField`, `TextsLack.addMethod` — **proved**: entries without
  the character keep it so;
* `textsLack_newline` — **proved**: so a table that is read has no newlines;
* `TextsLack.resolve` — **proved**: resolving a frame does not bring the character in.
-/

namespace Deobfuscation

open SymbolMap (Entry ClassEntry FieldEntry MethodEntry)

/-! ### Symbols and frames -/

/-- No text of the field contains a character. -/
def FieldSymbol.Lacks (c : Char) (symbol : FieldSymbol) : Prop :=
  ∀ text ∈ [symbol.declaringClass, symbol.type, symbol.name], c ∉ text.toList

/-- No text of the method contains a character. -/
def MethodSymbol.Lacks (c : Char) (symbol : MethodSymbol) : Prop :=
  ∀ text ∈ [symbol.declaringClass, symbol.type, symbol.name, symbol.arguments], c ∉ text.toList

/-- No text of the frame contains a character. -/
def StackFrame.Lacks (c : Char) (frame : StackFrame) : Prop :=
  ∀ text ∈ [frame.className, frame.sourceFile, frame.type, frame.field, frame.method,
    frame.arguments], c ∉ text.toList

variable {c : Char}

theorem not_mem_getD {owner : String} {declaring : Option String} (howner : c ∉ owner.toList)
    (hdeclaring : ∀ text ∈ declaring.toList, c ∉ text.toList) :
    c ∉ (declaring.getD owner).toList := by
  cases declaring with
  | none => exact howner
  | some text => exact hdeclaring text (by simp)

theorem FieldSymbol.lacks_ofEntry {owner : String} {entry : FieldEntry}
    (howner : c ∉ owner.toList) (h : (Entry.ofField entry).Lacks c) :
    (FieldSymbol.ofEntry owner entry).Lacks c := by
  simp only [Entry.Lacks, Entry.texts, List.forall_mem_cons] at h
  obtain ⟨htype, hplain, -, hdeclaring⟩ := h
  simp only [FieldSymbol.Lacks, FieldSymbol.ofEntry, List.forall_mem_cons]
  exact ⟨not_mem_getD howner hdeclaring, htype, hplain, by simp⟩

theorem MethodSymbol.lacks_ofEntry {owner : String} {entry : MethodEntry}
    (howner : c ∉ owner.toList) (h : (Entry.ofMethod entry).Lacks c) :
    (MethodSymbol.ofEntry owner entry).Lacks c := by
  simp only [Entry.Lacks, Entry.texts, List.forall_mem_cons] at h
  obtain ⟨htype, hplain, harguments, -, hdeclaring⟩ := h
  simp only [MethodSymbol.Lacks, MethodSymbol.ofEntry, List.forall_mem_cons]
  exact ⟨not_mem_getD howner hdeclaring, htype, hplain, harguments, by simp⟩

namespace SymbolTable

/-! ### Tables -/

/-- No text that the table tells contains a character. -/
structure TextsLack (table : SymbolTable) (c : Char) : Prop where
  classes : ∀ obfuscated plain : String, table.classes[obfuscated]? = some plain → c ∉ plain.toList
  fields : ∀ key, ∀ symbol ∈ table.fields.find key, symbol.Lacks c
  methods : ∀ key, ∀ symbol ∈ table.methods.find key, symbol.Lacks c

theorem textsLack_empty (c : Char) : empty.TextsLack c where
  classes obfuscated plain h := by simp [empty] at h
  fields key symbol h := by simp [empty] at h
  methods key symbol h := by simp [empty] at h

namespace TextsLack

variable {table : SymbolTable}

/-- In particular no plain name contains the character. -/
theorem lacks (h : table.TextsLack c) : table.Lacks c where
  classes := h.classes
  fields key symbol hmem :=
    ⟨h.fields key symbol hmem _ (by simp), h.fields key symbol hmem _ (by simp)⟩
  methods key symbol hmem :=
    ⟨h.methods key symbol hmem _ (by simp), h.methods key symbol hmem _ (by simp)⟩

theorem addClass (h : table.TextsLack c) {entry : ClassEntry}
    (hentry : (Entry.ofClass entry).Lacks c) : (table.addClass entry).TextsLack c where
  classes := (h.lacks.addClass (hentry _ (by simp [Entry.texts]))).classes
  fields := h.fields
  methods := h.methods

theorem addField (h : table.TextsLack c) {owner : String} {entry : FieldEntry}
    (howner : c ∉ owner.toList) (hentry : (Entry.ofField entry).Lacks c) :
    (table.addField owner entry).TextsLack c where
  classes := h.classes
  fields key symbol hfound := by
    rcases mem_find_insert hfound with rfl | hold
    · exact FieldSymbol.lacks_ofEntry howner hentry
    · exact h.fields key symbol hold
  methods := h.methods

theorem addMethod (h : table.TextsLack c) {owner : String} {entry : MethodEntry}
    (howner : c ∉ owner.toList) (hentry : (Entry.ofMethod entry).Lacks c) :
    (table.addMethod owner entry).TextsLack c where
  classes := h.classes
  fields := h.fields
  methods key symbol hfound := by
    rcases mem_find_insert hfound with rfl | hold
    · exact MethodSymbol.lacks_ofEntry howner hentry
    · exact h.methods key symbol hold

end TextsLack

/-- Entries without a character keep it so. -/
theorem consumer_keeps_textsLack (c : Char) :
    consumer.Keeps (Entry.Lacks c) (TextsLack · c) where
  openClass _ _ hentry h := h.addClass hentry
  addField _ _ _ howner hentry h := h.addField (howner _ (by simp [Entry.texts])) hentry
  addMethod _ _ _ howner hentry h := h.addMethod (howner _ (by simp [Entry.texts])) hentry

/-- **A table that is read from a symbol map tells no newline.** -/
theorem textsLack_newline {source : ByteSource} {table : SymbolTable}
    (h : ofSource source = .ok table) : table.TextsLack '\n' := by
  refine holds_of_ofSource (consumer_keeps_textsLack '\n') (textsLack_empty '\n') ?_ h
  intro line hline entry hentry
  obtain ⟨s, hdecode, hreads⟩ := SymbolMap.exists_reads_of_ofBytes hentry
  exact hreads.lacks (ByteSource.newline_not_mem_trim hline hdecode)

/-! ### Resolved frames -/

namespace TextsLack

variable {table : SymbolTable}

/-- **A character that neither the table nor the frame contains is in no frame that the frame may
stand for.** -/
theorem resolve (h : table.TextsLack c) (hjava : c ∉ ".java".toList) {frame : StackFrame}
    (hframe : frame.Lacks c) : ∀ plain ∈ table.resolve frame, plain.Lacks c := by
  simp only [StackFrame.Lacks, List.forall_mem_cons] at hframe ⊢
  obtain ⟨hclass, hfile, htype, hfield, hmethod, harguments, hnil⟩ := hframe
  have hsource : ∀ {name : String}, c ∉ name.toList → c ∉ (ClassName.sourceFile name).toList :=
    fun hname hmem => (mem_sourceFile hmem).elim hname hjava
  have howner := h.lacks.plainClass hclass
  intro plain hplain
  rw [SymbolTable.resolve] at hplain
  split at hplain
  · rw [List.mem_singleton] at hplain
    subst hplain
    refine ⟨howner, ?_, htype, hfield, hmethod, harguments, hnil⟩
    show c ∉ (if frame.sourceFile.isEmpty then _ else frame.sourceFile).toList
    split
    · exact hsource howner
    · exact hfile
  · rcases List.mem_append.1 hplain with hmember | hmember
    · obtain ⟨symbol, hsymbol, rfl⟩ := List.mem_map.1 hmember
      have htexts := h.fields _ symbol (List.mem_filter.1 hsymbol).1
      simp only [FieldSymbol.Lacks, List.forall_mem_cons] at htexts
      obtain ⟨hdeclaring, htype', hname, -⟩ := htexts
      exact ⟨hdeclaring, hsource hdeclaring, htype', hname, hmethod, harguments, hnil⟩
    · obtain ⟨symbol, hsymbol, rfl⟩ := List.mem_map.1 hmember
      have htexts := h.methods _ symbol (List.mem_filter.1 hsymbol).1
      simp only [MethodSymbol.Lacks, List.forall_mem_cons] at htexts
      obtain ⟨hdeclaring, htype', hname, harguments', -⟩ := htexts
      exact ⟨hdeclaring, hsource hdeclaring, htype', hfield, hname, harguments', hnil⟩

end TextsLack

end SymbolTable

end Deobfuscation
