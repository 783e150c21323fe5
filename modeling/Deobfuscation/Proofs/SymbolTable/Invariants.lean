import Deobfuscation.Proofs.SymbolMap.Cuts
import Deobfuscation.SymbolTable.Basic

/-!
# Invariants of reading

A consumer sees the entries of a symbol map one after the other, each member with the plain name of
the class that is open.  So if all entries of the lines are of a kind, a property of its state that
entries of this kind keep is kept by reading the lines.

* `Consumer.Keeps` — a property is kept by the entries of a kind;
* `Reading.Holds` — the state has the property, and the open class was opened by such an entry;
* `Keeps.next`, `Keeps.readLines` — **proved**: reading a line keeps it so, and reading lines does;
* `SymbolTable.holds_of_ofSource` — **proved**: so a table that is read has the property.
-/

namespace Deobfuscation.SymbolMap

section Readings

variable {σ : Type}

/-- A property of the state is kept by the entries of a kind, members of classes of this kind. -/
structure Consumer.Keeps (consumer : Consumer σ) (kind : Entry → Prop) (P : σ → Prop) : Prop where
  openClass : ∀ entry state, kind (.ofClass entry) → P state →
    P (consumer.openClass entry state).2
  addField : ∀ (owner : ClassEntry) (entry : FieldEntry) state, kind (.ofClass owner) →
    kind (.ofField entry) → P state → P (consumer.addField owner.plain entry state)
  addMethod : ∀ (owner : ClassEntry) (entry : MethodEntry) state, kind (.ofClass owner) →
    kind (.ofMethod entry) → P state → P (consumer.addMethod owner.plain entry state)

/-- The state has a property, and an entry of a kind has opened the class that is open. -/
structure Reading.Holds (kind : Entry → Prop) (P : σ → Prop) (reading : Reading σ) : Prop where
  state : P reading.state
  openClass : ∀ name, reading.openClass = some name →
    ∃ entry : ClassEntry, kind (.ofClass entry) ∧ entry.plain = name

variable {consumer : Consumer σ} {kind : Entry → Prop} {P : σ → Prop} {reading : Reading σ}

theorem Reading.Holds.initial {state : σ} (h : P state) : (initial state).Holds kind P where
  state := h
  openClass name hname := by simp [Reading.initial] at hname

/-- A fault changes what is open and what is reported, not the state. -/
theorem Reading.Holds.fail (h : reading.Holds kind P) (raw : List UInt8) (fault : Fault) :
    (reading.fail raw fault).Holds kind P := by
  rw [Reading.fail]
  split
  · exact ⟨h.state, fun name hname => absurd hname (by simp)⟩
  · split
    · exact h
    · exact ⟨h.state, h.openClass⟩

/-- An entry of the kind is handed to the consumer. -/
theorem Consumer.Keeps.consume (hkeeps : consumer.Keeps kind P) (h : reading.Holds kind P)
    {entry : Entry} (hentry : kind entry) : (reading.consume consumer entry).Holds kind P := by
  cases entry with
  | ofClass entry =>
    refine ⟨hkeeps.openClass entry reading.state hentry h.state, fun name hname => ?_⟩
    dsimp only [Reading.consume] at hname
    split at hname
    · exact ⟨entry, hentry, Option.some.inj hname⟩
    · exact absurd hname (by simp)
  | ofField entry =>
    dsimp only [Reading.consume]
    split
    · rename_i name hopen
      obtain ⟨owner, howner, rfl⟩ := h.openClass name hopen
      exact ⟨hkeeps.addField owner entry reading.state howner hentry h.state, h.openClass⟩
    · exact h
  | ofMethod entry =>
    dsimp only [Reading.consume]
    split
    · rename_i name hopen
      obtain ⟨owner, howner, rfl⟩ := h.openClass name hopen
      exact ⟨hkeeps.addMethod owner entry reading.state howner hentry h.state, h.openClass⟩
    · exact h

/-- **What the entries of a kind keep is kept by reading a line**, if its entry is of this kind. -/
theorem Consumer.Keeps.next (hkeeps : consumer.Keeps kind P) (h : reading.Holds kind P)
    {raw : List UInt8} (hentry : ∀ entry, Entry.ofBytes raw = .ok (some entry) → kind entry) :
    (reading.next consumer raw).Holds kind P := by
  -- the line is counted first
  have hcounted : Reading.Holds kind P { reading with linesRead := reading.linesRead + 1 } :=
    ⟨h.state, h.openClass⟩
  rw [Reading.next]
  cases hread : Entry.ofBytes raw with
  | error fault => exact hcounted.fail raw fault
  | ok found =>
    cases found with
    | none => exact hcounted
    | some entry => exact hkeeps.consume hcounted (hentry entry hread)

/-- **What the entries of a kind keep is kept by reading lines.** -/
theorem Consumer.Keeps.readLines (hkeeps : consumer.Keeps kind P) (lines : List (List UInt8))
    (hentries : ∀ line ∈ lines, ∀ entry, Entry.ofBytes line = .ok (some entry) → kind entry) :
    ∀ {reading : Reading σ}, reading.Holds kind P →
      (readLines consumer reading lines).Holds kind P := by
  induction lines with
  | nil => exact fun h => h
  | cons line lines ih =>
    intro reading h
    have hnext := hkeeps.next h (hentries line List.mem_cons_self)
    exact ih (fun other hmem => hentries other (List.mem_cons_of_mem line hmem)) hnext

/-- The entry of a line is read by the cuts of the trimmed text of the line. -/
theorem exists_reads_of_ofBytes {raw : List UInt8} {entry : Entry}
    (h : Entry.ofBytes raw = .ok (some entry)) :
    ∃ s, Utf8.decode raw = .ok s ∧ Reads (Text.trim s) entry := by
  unfold Entry.ofBytes at h
  split at h
  · rename_i s hdecode
    exact ⟨s, hdecode, (reads_of_ofText h).2⟩
  · simp at h

end Readings

end Deobfuscation.SymbolMap

namespace Deobfuscation.SymbolTable

/-- **A table that is read from entries of a kind has what they keep.** -/
theorem holds_of_ofSource {kind : SymbolMap.Entry → Prop} {P : SymbolTable → Prop}
    (hkeeps : consumer.Keeps kind P) (hempty : P empty) {source : ByteSource}
    (hentries : ∀ line ∈ source.lines, ∀ entry,
      SymbolMap.Entry.ofBytes line = .ok (some entry) → kind entry)
    {table : SymbolTable} (h : ofSource source = .ok table) : P table := by
  have hread := hkeeps.readLines source.lines hentries (.initial hempty)
  unfold ofSource load SymbolMap.read at h
  cases hfailure : source.failure with
  | some cause => simp [hfailure] at h
  | none =>
    rw [hfailure] at h
    exact Except.ok.inj h ▸ hread.state

end Deobfuscation.SymbolTable
