import Deobfuscation.Proofs.SymbolMap.Calls
import Deobfuscation.Proofs.SymbolMap.Cuts

/-!
# The class of a member

Which class a member is handed over with is a matter of the open class, a piece of the reading's
state that every kind of line sets, keeps or clears.  Here it is told from the lines alone: the
nearest line in front that is written like a class, the **header**, decides.  Lines that are no text
are no headers, whatever their text would be if their defects were replaced.

* `isHeaderLine`, `ownerAfter` — a header, and the class that the nearest header opens;
* `Fault.IsOfMember`, `isOfMember_of_memberOfText` — the faults of a member, and **proved**: a line
  that is no header has no others;
* `openClass_next`, `openClass_readLines` — **proved**: what a line makes of the open class, and
  from it what all lines make of it;
* `memberCalls_iff` — **proved**: a member is handed over exactly with the class that the nearest
  header in front of its line opens.
-/

namespace Deobfuscation.SymbolMap

open Text

variable {σ : Type}

/-! ### Headers -/

/-- The text of the line ends like a class entry and does not begin like a comment. -/
def isHeaderLine (raw : List UInt8) : Bool :=
  match Utf8.decode raw with
  | .ok s => !isVacant (trim s) && isHeader (trim s)
  | .error _ => false

/-- The class that a header opens: that of a class entry, if the consumer asks for its members. -/
def openedBy (consumer : Consumer σ) (state : σ) (raw : List UInt8) : Option String :=
  match Entry.ofBytes raw with
  | .ok (some (.ofClass entry)) =>
    if (consumer.openClass entry state).1 then some entry.plain else none
  | _ => none

/-- The last header among lines, and the lines in front of it. -/
def lastHeader? (lines : List (List UInt8)) : Option (List (List UInt8) × List UInt8) :=
  match lines.reverse.dropWhile fun raw => !isHeaderLine raw with
  | [] => none
  | raw :: front => some (front.reverse, raw)

/-- The class that is open behind lines: that which the last header among them opens, if there is
one, where the consumer is asked in the state that the lines in front of the header make. -/
def ownerAfter (consumer : Consumer σ) (state : σ) (lines : List (List UInt8)) : Option String :=
  match lastHeader? lines with
  | none => none
  | some (front, raw) =>
    openedBy consumer (readLines consumer (.initial state) front).state raw

/-! ### Faults -/

/-- The faults that only the line of a member can have. -/
inductive Fault.IsOfMember : Fault → Prop
  | missingSeparator : IsOfMember .missingSeparator
  | missingArrow : IsOfMember .missingArrow
  | invalidLineNumber (text : String) : IsOfMember (.invalidLineNumber text)

theorem Fault.not_isOfMember_malformedClass : ¬ Fault.malformedClass.IsOfMember := by
  intro h
  cases h

/-- What fails in two steps fails in one of them. -/
theorem eq_error_of_bind {α β : Type} {first : Except Fault α} {second : α → Except Fault β}
    {fault : Fault} (h : first >>= second = .error fault) :
    first = .error fault ∨ ∃ a, first = .ok a ∧ second a = .error fault := by
  cases first with
  | error cause =>
    obtain rfl : cause = fault := Except.error.inj h
    exact .inl rfl
  | ok a => exact .inr ⟨a, rfl, h⟩

theorem isOfMember_of_lineOfText {s : List Char} {fault : Fault}
    (h : lineOfText s = .error fault) : fault.IsOfMember := by
  rw [lineOfText] at h
  split at h
  · exact absurd h (by simp)
  · obtain rfl := Except.error.inj h
    exact .invalidLineNumber _

/-- Line numbers that are none are faults of a member. -/
theorem isOfMember_of_lines {first last : List Char} {lines : LineNumber → LineNumber → LineMap}
    {fault : Fault}
    (h : (do
      let first ← lineOfText first
      let last ← lineOfText last
      return lines first last) = .error fault) : fault.IsOfMember := by
  rcases eq_error_of_bind h with hfirst | ⟨_, -, h⟩
  · exact isOfMember_of_lineOfText hfirst
  · rcases eq_error_of_bind h with hlast | ⟨_, -, h⟩
    · exact isOfMember_of_lineOfText hlast
    · exact absurd h (by simp [pure, Except.pure])

theorem isOfMember_of_obfuscatedLines {range : Option (List Char × List Char)} {fault : Fault}
    (h : obfuscatedLines range = .error fault) : fault.IsOfMember := by
  cases range with
  | none => exact absurd h (by simp [obfuscatedLines])
  | some range => exact isOfMember_of_lines h

theorem isOfMember_of_plainLines {suffix : List Char} {lines : LineMap} {fault : Fault}
    (h : plainLines suffix lines = .error fault) : fault.IsOfMember := by
  rw [plainLines] at h
  split at h
  · split at h
    · exact isOfMember_of_lines h
    · rcases eq_error_of_bind h with hline | ⟨_, -, h⟩
      · exact isOfMember_of_lineOfText hline
      · exact absurd h (by simp [pure, Except.pure])
  · exact absurd h (by simp)

theorem isOfMember_of_methodOfParts {range : Option (List Char × List Char)}
    {type name arguments suffix obfuscated : List Char} {fault : Fault}
    (h : methodOfParts range type name arguments suffix obfuscated = .error fault) :
    fault.IsOfMember := by
  rw [methodOfParts] at h
  split at h
  · exact absurd h (by simp)
  · rcases eq_error_of_bind h with hfirst | ⟨_, -, h⟩
    · exact isOfMember_of_obfuscatedLines hfirst
    · rcases eq_error_of_bind h with hlines | ⟨_, -, h⟩
      · exact isOfMember_of_plainLines hlines
      · exact absurd h (by simp [pure, Except.pure])

/-- **The fault of a member's line is one of a member.** -/
theorem isOfMember_of_memberOfText {line : List Char} {fault : Fault}
    (h : memberOfText line = .error fault) : fault.IsOfMember := by
  rw [memberOfText] at h
  split at h
  · obtain rfl := Except.error.inj h
    exact .missingSeparator
  · dsimp only at h
    split at h
    · split at h
      · obtain rfl := Except.error.inj h
        exact .missingArrow
      · exact isOfMember_of_methodOfParts h
    · split at h
      · obtain rfl := Except.error.inj h
        exact .missingArrow
      · exact absurd h (by simp)

/-- Only a class entry lacks the form of one. -/
theorem memberOfText_ne_malformedClass (line : List Char) :
    memberOfText line ≠ .error .malformedClass :=
  fun h => Fault.not_isOfMember_malformedClass (isOfMember_of_memberOfText h)

theorem classOfText_eq_error {line : List Char} {fault : Fault}
    (h : classOfText line = .error fault) : fault = .malformedClass := by
  rw [classOfText] at h
  split at h
  · exact (Except.error.inj h).symm
  · split at h
    · exact (Except.error.inj h).symm
    · split at h
      · exact (Except.error.inj h).symm
      · exact absurd h (by simp)

/-- A header is read as a class entry, or lacks the form of one. -/
theorem ofBytes_of_isHeaderLine {raw : List UInt8} (h : isHeaderLine raw = true) :
    (∃ entry, Entry.ofBytes raw = .ok (some (.ofClass entry))) ∨
      Entry.ofBytes raw = .error .malformedClass := by
  rw [isHeaderLine] at h
  rw [Entry.ofBytes]
  cases hdecode : Utf8.decode raw with
  | error cause => simp [hdecode] at h
  | ok s =>
    simp only [hdecode, Bool.and_eq_true, Bool.not_eq_true'] at h
    have htext : Entry.ofText s =
        (classOfText (trim s)).map fun entry => some (.ofClass entry) := by
      simp [Entry.ofText, h]
    dsimp only
    rw [htext]
    cases hclass : classOfText (trim s) with
    | ok entry => exact .inl ⟨entry, rfl⟩
    | error fault => exact .inr (by rw [classOfText_eq_error hclass]; rfl)

/-- Any other line is neither. -/
theorem ofBytes_of_not_isHeaderLine {raw : List UInt8} (h : isHeaderLine raw = false) :
    (∀ entry, Entry.ofBytes raw ≠ .ok (some (.ofClass entry))) ∧
      Entry.ofBytes raw ≠ .error .malformedClass := by
  rw [isHeaderLine] at h
  rw [Entry.ofBytes]
  cases hdecode : Utf8.decode raw with
  | error cause => simp
  | ok s =>
    simp only [hdecode, Bool.and_eq_false_iff, Bool.not_eq_false'] at h
    dsimp only
    constructor
    · intro entry hentry
      obtain ⟨hvacant, hreads⟩ := reads_of_ofText hentry
      cases hreads with
      | header hheader =>
        rcases h with h | h
        · exact absurd (hvacant.symm.trans h) (by decide)
        · exact absurd (hheader.symm.trans h) (by decide)
    · rw [Entry.ofText]
      rcases h with h | h
      · simp [h]
      · simp only [h, Bool.false_eq_true, if_false]
        split
        · simp
        · exact memberOfText_ne_malformedClass _

/-! ### What a line makes of the open class -/

theorem openClass_consume (consumer : Consumer σ) (reading : Reading σ) (entry : Entry) :
    (reading.consume consumer entry).openClass =
      match entry with
      | .ofClass entry =>
        if (consumer.openClass entry reading.state).1 then some entry.plain else none
      | _ => reading.openClass := by
  cases entry with
  | ofClass entry => rfl
  | ofField entry =>
    rw [Reading.consume]
    split <;> rfl
  | ofMethod entry =>
    rw [Reading.consume]
    split <;> rfl

theorem openClass_fail (reading : Reading σ) (raw : List UInt8) (fault : Fault) :
    (reading.fail raw fault).openClass =
      if fault = .malformedClass then none else reading.openClass := by
  rw [Reading.fail]
  split
  · rfl
  · split
    · rfl
    · rfl

/-- **What a line makes of the open class**: a header opens its class or none, and any other line
leaves it as it is. -/
theorem openClass_next (consumer : Consumer σ) (reading : Reading σ) (raw : List UInt8) :
    (reading.next consumer raw).openClass =
      if isHeaderLine raw then openedBy consumer reading.state raw else reading.openClass := by
  rw [Reading.next, openedBy]
  cases hheader : isHeaderLine raw with
  | true =>
    rcases ofBytes_of_isHeaderLine hheader with ⟨entry, hentry⟩ | hentry
    · simp [hentry, openClass_consume]
    · simp [hentry, openClass_fail]
  | false =>
    obtain ⟨hclass, hmalformed⟩ := ofBytes_of_not_isHeaderLine hheader
    cases hentry : Entry.ofBytes raw with
    | error fault =>
      have hfault : fault ≠ .malformedClass := fun heq => hmalformed (heq ▸ hentry)
      simp [openClass_fail, hfault]
    | ok found =>
      cases found with
      | none => simp
      | some entry =>
        cases entry with
        | ofClass entry => exact absurd hentry (hclass entry)
        | ofField entry => simp [openClass_consume]
        | ofMethod entry => simp [openClass_consume]

/-- **What all lines make of the open class.** -/
theorem openClass_readLines (consumer : Consumer σ) (state : σ) (lines : List (List UInt8)) :
    (readLines consumer (.initial state) lines).openClass = ownerAfter consumer state lines := by
  induction lines using List.reverseRecOn with
  | nil => rfl
  | append_singleton lines raw ih =>
    have hnext := openClass_next consumer (readLines consumer (.initial state) lines) raw
    rw [readLines_append]
    show ((readLines consumer (.initial state) lines).next consumer raw).openClass = _
    rw [hnext, ownerAfter, lastHeader?, List.reverse_append]
    cases h : isHeaderLine raw with
    | true => simp [h]
    | false =>
      rw [ih, ownerAfter, lastHeader?]
      simp [h]

/-! ### Members -/

/-- **A member is handed over exactly with the class that the last header in front of its line
opens**: for whatever lines and whatever consumer, a line causes the call for a member of a class
just if it is read as the member and the last header in front of it, asked for in its place,
opens the class. -/
theorem memberCalls_iff (consumer : Consumer σ) (state : σ) (source : ByteSource) (i : Nat)
    (owner : String) :
    (∀ entry, .ofField owner entry ∈ callsOfLine consumer state source.lines i ↔
      ((∃ raw, source.lines[i]? = some raw ∧ Entry.ofBytes raw = .ok (some (.ofField entry))) ∧
        ownerAfter consumer state (source.lines.take i) = some owner)) ∧
    ∀ entry, .ofMethod owner entry ∈ callsOfLine consumer state source.lines i ↔
      ((∃ raw, source.lines[i]? = some raw ∧ Entry.ofBytes raw = .ok (some (.ofMethod entry))) ∧
        ownerAfter consumer state (source.lines.take i) = some owner) := by
  cases h : source.lines[i]? with
  | none =>
    rw [callsOfLine_of_length_le (List.getElem?_eq_none_iff.1 h)]
    simp
  | some raw =>
    rw [callsOfLine_eq h, Reading.nextCalls]
    have howner := openClass_readLines consumer state (source.lines.take i)
    cases hentry : Entry.ofBytes raw with
    | error fault => simp [hentry]
    | ok found =>
      cases found with
      | none => simp [hentry]
      | some found => cases found <;> simp [hentry, Reading.callsFor, howner, and_comm]

/-- A class, a line that would be that of another class if it were text, and a member. -/
def undecodableHeader : ByteSource :=
  .ofBytes (Utf8.encode "A -> a:\nB".toList ++ 0xFF :: Utf8.encode " -> b:\n\tint x -> y\n".toList)

/-- The member behind a line that is no text is handed over with the class in front of that line,
also where the line would be a header if its defect were replaced. -/
theorem memberCalls_undecodableHeader :
    (∃ raw, undecodableHeader.lines[1]? = some raw ∧
      Utf8.decode raw = .error (.invalid 1 1) ∧
      isVacant (trim (Utf8.decodeLossy raw)) = false ∧
      isHeader (trim (Utf8.decodeLossy raw)) = true) ∧
    callsOfLine SymbolTable.consumer .empty undecodableHeader.lines 2 =
      [.ofField "A" ⟨"int", "x", "y", none⟩] := by
  constructor
  · exact ⟨_, rfl, by decide +kernel, by decide +kernel, by decide +kernel⟩
  · decide +kernel

end Deobfuscation.SymbolMap
