import Deobfuscation.Proofs.SymbolMap.ClassContext
import Deobfuscation.Proofs.SymbolMap.Reports

/-!
# Which lines are reported

The reports of a symbol map can be told from its lines alone.  A line that is no text is reported
wherever it stands.  The fault of a member is reported where members are looked at, behind a last
header that is a class entry and accepted by the consumer; and no other fault is reported, a header
without its form least of all.

* `IsOpenAfter`, `isOpenAfter_iff` — members are looked at behind lines, and **proved**: this is to
  say that a class is open;
* `IsDue` — the report that is due for one of the lines;
* `Reading.mem_nextReports_iff`, `mem_reports_readLines_iff`, `mem_reports_iff_isDue` — **proved**:
  what the next line is reported for, and from it that all lines lead to the reports that are due;
* `reports_readLines_pairwise` — **proved**: the reports stand in the order of their lines;
* `reports_of_read` — **proved**: the reports of a symbol map are those that are due, in order, and
  no call comes from a line that is reported.
-/

namespace Deobfuscation.SymbolMap

open ByteSource (ofBytes)

variable {σ : Type}

/-! ### Reports that are due -/

/-- The last header among the lines is a class entry that the consumer accepts. -/
def IsOpenAfter (consumer : Consumer σ) (state : σ) (lines : List (List UInt8)) : Prop :=
  ∃ front header entry, lastHeader? lines = some (front, header) ∧
    Entry.ofBytes header = .ok (some (.ofClass entry)) ∧
    (consumer.openClass entry (readLines consumer (.initial state) front).state).1 = true

/-- The text of a line in its report: its defects are replaced and the blanks at its end left out.
-/
def reportedText (raw : List UInt8) : String :=
  String.ofList (Text.trimEnd (Utf8.decodeLossy raw))

/-- The report that is due for one of the lines: for a line that is no text in any place, for the
fault of a member where members are looked at. -/
inductive IsDue (consumer : Consumer σ) (state : σ) (lines : List (List UInt8)) : Report → Prop
  | undecodable {i : Nat} {raw : List UInt8} {cause : Utf8.DecodeError} : lines[i]? = some raw →
    Utf8.decode raw = .error cause →
    IsDue consumer state lines ⟨i + 1, reportedText raw, .undecodable cause⟩
  | member {i : Nat} {raw : List UInt8} {s : List Char} {fault : Fault} : lines[i]? = some raw →
    Utf8.decode raw = .ok s → Entry.ofText s = .error fault → fault.IsOfMember →
    IsOpenAfter consumer state (lines.take i) →
    IsDue consumer state lines ⟨i + 1, reportedText raw, fault⟩

/-- Members are looked at just if a class is open. -/
theorem isOpenAfter_iff (consumer : Consumer σ) (state : σ) (lines : List (List UInt8)) :
    IsOpenAfter consumer state lines ↔
      (readLines consumer (.initial state) lines).openClass.isNone = false := by
  rw [openClass_readLines, ownerAfter, IsOpenAfter]
  cases hlast : lastHeader? lines with
  | none => simp
  | some sides =>
    obtain ⟨front, header⟩ := sides
    dsimp only
    rw [openedBy]
    constructor
    · rintro ⟨front', header', entry, hsides, hentry, haccepted⟩
      obtain ⟨rfl, rfl⟩ := Prod.mk.inj (Option.some.inj hsides)
      rw [hentry]
      dsimp only
      rw [if_pos haccepted]
      rfl
    · intro hopen
      split at hopen
      · rename_i entry hentry
        split at hopen
        · rename_i haccepted
          exact ⟨front, header, entry, rfl, hentry, haccepted⟩
        · exact absurd hopen (by simp)
      · exact absurd hopen (by simp)

/-! ### The reports of a line -/

/-- A text is at fault as a member, or as a header that lacks its form. -/
theorem ofText_eq_error {s : List Char} {fault : Fault} (h : Entry.ofText s = .error fault) :
    fault = .malformedClass ∨ fault.IsOfMember := by
  rw [Entry.ofText] at h
  split at h
  · exact absurd h (by simp)
  · split at h
    · cases hclass : classOfText (Text.trim s) with
      | ok entry => exact absurd h (by simp [hclass, Except.map])
      | error cause =>
        rw [hclass] at h
        obtain rfl : cause = fault := Except.error.inj h
        exact .inl (classOfText_eq_error hclass)
    · exact .inr (isOfMember_of_memberOfText h)

namespace Reading

variable {reading : Reading σ} {raw : List UInt8}

/-- The report that the next line leads to if it is reported with a fault. -/
def nextReport (reading : Reading σ) (raw : List UInt8) (fault : Fault) : Report :=
  ⟨reading.linesRead + 1, reportedText raw, fault⟩

theorem nextReports_of_undecodable {cause : Utf8.DecodeError}
    (h : Utf8.decode raw = .error cause) :
    reading.nextReports raw = [reading.nextReport raw (.undecodable cause)] := by
  rw [nextReports, Entry.ofBytes, h]
  simp [Fault.isUndecodable, nextReport, reportedText]

theorem nextReports_of_isOfMember {fault : Fault} (h : Entry.ofBytes raw = .error fault)
    (hmember : fault.IsOfMember) :
    reading.nextReports raw =
      if reading.openClass.isNone then [] else [reading.nextReport raw fault] := by
  rw [nextReports, h]
  cases hmember <;> simp [Fault.isUndecodable, nextReport, reportedText]

/-- **The next line is reported just if it is no text, or at fault as a member while a class is
open.** -/
theorem mem_nextReports_iff {report : Report} :
    report ∈ reading.nextReports raw ↔
      (∃ cause, Utf8.decode raw = .error cause ∧
        report = reading.nextReport raw (.undecodable cause)) ∨
      ∃ s fault, Utf8.decode raw = .ok s ∧ Entry.ofText s = .error fault ∧ fault.IsOfMember ∧
        reading.openClass.isNone = false ∧ report = reading.nextReport raw fault := by
  cases hdecode : Utf8.decode raw with
  | error cause => simp [nextReports_of_undecodable hdecode]
  | ok s =>
    have hbytes : Entry.ofBytes raw = Entry.ofText s := by rw [Entry.ofBytes, hdecode]
    cases hread : Entry.ofText s with
    | ok found => simp [nextReports, hbytes, hread]
    | error fault =>
      rw [hread] at hbytes
      rcases ofText_eq_error hread with rfl | hmember
      · simp [nextReports, hbytes, hread, Fault.not_isOfMember_malformedClass]
      · rw [nextReports_of_isOfMember hbytes hmember]
        cases hopen : reading.openClass <;> simp [hread, hmember]

end Reading

/-! ### The reports of all lines -/

/-- **The reports of lines are those that each of them leads to in its place.** -/
theorem mem_reports_readLines_iff {consumer : Consumer σ} {state : σ} {lines : List (List UInt8)}
    {report : Report} :
    report ∈ (readLines consumer (.initial state) lines).reports ↔
      ∃ i raw, lines[i]? = some raw ∧
        report ∈ (readLines consumer (.initial state) (lines.take i)).nextReports raw := by
  induction lines using List.reverseRecOn with
  | nil => simp [readLines, Reading.initial]
  | append_singleton lines raw ih =>
    have hnext := Reading.reports_next consumer (readLines consumer (.initial state) lines) raw
    have hlast : (lines ++ [raw])[lines.length]? = some raw := by simp
    rw [readLines_append]
    show report ∈ ((readLines consumer (.initial state) lines).next consumer raw).reports ↔ _
    rw [hnext, List.mem_append, ih]
    constructor
    · rintro (hown | ⟨i, other, hi, hearlier⟩)
      · exact ⟨lines.length, raw, hlast, by rwa [List.take_left]⟩
      · have hlt := (List.getElem?_eq_some_iff.1 hi).1
        refine ⟨i, other, by rw [List.getElem?_append_left hlt, hi], ?_⟩
        rwa [List.take_append_of_le_length (Nat.le_of_lt hlt)]
    · rintro ⟨i, other, hi, hreport⟩
      have hle : i ≤ lines.length := by
        have hlt := (List.getElem?_eq_some_iff.1 hi).1
        rw [List.length_append, List.length_singleton] at hlt
        omega
      rw [List.take_append_of_le_length hle] at hreport
      rcases Nat.lt_or_eq_of_le hle with hlt | rfl
      · rw [List.getElem?_append_left hlt] at hi
        exact .inr ⟨i, other, hi, hreport⟩
      · rw [List.take_length] at hreport
        obtain rfl := Option.some.inj (hlast.symm.trans hi)
        exact .inl hreport

/-- **The reports of lines are those that are due.** -/
theorem mem_reports_iff_isDue {consumer : Consumer σ} {state : σ} {lines : List (List UInt8)}
    {report : Report} :
    report ∈ (readLines consumer (.initial state) lines).reports ↔
      IsDue consumer state lines report := by
  have hcount : ∀ i raw, lines[i]? = some raw →
      (readLines consumer (.initial state) (lines.take i)).linesRead = i := by
    intro i raw hi
    have hlt := (List.getElem?_eq_some_iff.1 hi).1
    rw [linesRead_readLines_initial, List.length_take_of_le (Nat.le_of_lt hlt)]
  rw [mem_reports_readLines_iff]
  constructor
  · rintro ⟨i, raw, hi, hreport⟩
    rcases Reading.mem_nextReports_iff.1 hreport with
      ⟨cause, hdecode, rfl⟩ | ⟨s, fault, hdecode, hread, hmember, hopen, rfl⟩
    · rw [Reading.nextReport, hcount i raw hi]
      exact .undecodable hi hdecode
    · rw [Reading.nextReport, hcount i raw hi]
      exact .member hi hdecode hread hmember ((isOpenAfter_iff consumer state _).2 hopen)
  · intro hdue
    cases hdue with
    | @undecodable i raw cause hi hdecode =>
      refine ⟨i, raw, hi, Reading.mem_nextReports_iff.2 (.inl ⟨cause, hdecode, ?_⟩)⟩
      rw [Reading.nextReport, hcount i raw hi]
    | @member i raw s fault hi hdecode hread hmember hopen =>
      have hclass := (isOpenAfter_iff consumer state _).1 hopen
      refine ⟨i, raw, hi, Reading.mem_nextReports_iff.2 (.inr ⟨s, fault, hdecode, hread, hmember,
        hclass, ?_⟩)⟩
      rw [Reading.nextReport, hcount i raw hi]

/-- The next line leads to one report at most. -/
theorem Reading.nextReports_pairwise (reading : Reading σ) (raw : List UInt8)
    (before : Report → Report → Prop) : (reading.nextReports raw).Pairwise before := by
  rw [nextReports]
  split
  · exact List.Pairwise.nil
  · split
    · exact List.Pairwise.nil
    · split
      · exact List.Pairwise.nil
      · exact List.pairwise_singleton before _

/-- **The reports of lines stand in the order of the lines**, the newest in front. -/
theorem reports_readLines_pairwise (consumer : Consumer σ) (state : σ)
    (lines : List (List UInt8)) :
    (readLines consumer (.initial state) lines).reports.Pairwise
      fun later earlier => earlier.lineNumber < later.lineNumber := by
  induction lines using List.reverseRecOn with
  | nil => exact List.Pairwise.nil
  | append_singleton lines raw ih =>
    let reading := readLines consumer (.initial state) lines
    have hnext := Reading.reports_next consumer reading raw
    have hcount : reading.linesRead = lines.length :=
      linesRead_readLines_initial consumer state lines
    rw [readLines_append]
    show (reading.next consumer raw).reports.Pairwise _
    rw [hnext, List.pairwise_append]
    refine ⟨reading.nextReports_pairwise raw _, ih, fun later hlater earlier hearlier => ?_⟩
    have hown := Reading.lineNumber_of_mem_nextReports hlater
    have hle := (lineNumber_of_mem_readLines hearlier).2
    omega

/-! ### The reports of a source -/

section Due

variable {consumer : Consumer σ} {state : σ} {lines : List (List UInt8)} {report : Report}

/-- A report that is due tells the fault of its line, which is not that of a header. -/
theorem IsDue.ofBytes (h : IsDue consumer state lines report) :
    ∃ i raw, lines[i]? = some raw ∧ report.lineNumber = i + 1 ∧
      Entry.ofBytes raw = .error report.fault ∧ report.fault ≠ .malformedClass := by
  cases h with
  | @undecodable i raw cause hi hdecode =>
    exact ⟨i, raw, hi, rfl, by rw [Entry.ofBytes, hdecode], by simp⟩
  | @member i raw s fault hi hdecode hread hmember _ =>
    refine ⟨i, raw, hi, rfl, by rw [Entry.ofBytes, hdecode]; exact hread, ?_⟩
    rintro rfl
    exact Fault.not_isOfMember_malformedClass hmember

/-- No call comes from a line for which a report is due. -/
theorem IsDue.callsOfLine (h : IsDue consumer state lines report) :
    callsOfLine consumer state lines (report.lineNumber - 1) = [] := by
  obtain ⟨i, raw, hi, hnumber, hfault, -⟩ := h.ofBytes
  rw [hnumber, Nat.add_sub_cancel, callsOfLine_eq hi, Reading.nextCalls, hfault]

end Due

/-- **The reports of a symbol map are those that are due, and no others**, for whatever bytes and
whatever consumer: they stand in the order of their lines, each has the number of one of them, none
is for a header that lacks its form, and no call comes from a line that is reported. -/
theorem reports_of_read (consumer : Consumer σ) (state : σ) (bytes : List UInt8) :
    ∃ reports last, read consumer state (ofBytes bytes) = (.ok reports, last) ∧
      reports.Pairwise (fun earlier later => earlier.lineNumber < later.lineNumber) ∧
      (∀ report ∈ reports,
        (1 ≤ report.lineNumber ∧ report.lineNumber ≤ (ofBytes bytes).lines.length) ∧
          report.fault ≠ .malformedClass ∧
          callsOfLine consumer state (ofBytes bytes).lines (report.lineNumber - 1) = []) ∧
      ∀ report, report ∈ reports ↔ IsDue consumer state (ofBytes bytes).lines report := by
  let newest := (readLines consumer (.initial state) (ofBytes bytes).lines).reports
  have hdue : ∀ report, report ∈ newest.reverse ↔
      IsDue consumer state (ofBytes bytes).lines report := fun report => by
    rw [List.mem_reverse]
    exact mem_reports_iff_isDue
  refine ⟨newest.reverse, _, rfl, ?_, fun report hreport => ?_, hdue⟩
  · rw [List.pairwise_reverse]
    exact reports_readLines_pairwise consumer state (ofBytes bytes).lines
  · have hown := (hdue report).1 hreport
    obtain ⟨_, _, _, _, _, hfault⟩ := hown.ofBytes
    exact ⟨lineNumber_of_mem_readLines (List.mem_reverse.1 hreport), hfault, hown.callsOfLine⟩

/-- Two classes, the second of which is refused, and the first once more; with members, lines that
are at fault, one of which is no text, and a header that lacks its form. -/
def faultyMap : List UInt8 :=
  Utf8.encode "A -> a:\n int x -> y\nlost \t\nB -> b:\nlost\n".toList ++ [0xFF, 0x0D, 0x0A] ++
    Utf8.encode "A -> a:\n x:1:void f() -> g\n-> :\nlost\n".toList

/-- A table that asks for the members of one class only. -/
def choosyTable : Consumer SymbolTable :=
  { SymbolTable.consumer with
    openClass := fun entry table => (entry.obfuscated == "a", table.addClass entry) }

theorem reports_of_read_faulty :
    (read choosyTable .empty (ofBytes faultyMap)).1 =
        .ok [⟨3, "lost", .missingSeparator⟩, ⟨6, "\uFFFD", .undecodable (.invalid 1 0)⟩,
          ⟨8, " x:1:void f() -> g", .invalidLineNumber "x"⟩] ∧
      IsDue choosyTable .empty (ofBytes faultyMap).lines
        ⟨8, " x:1:void f() -> g", .invalidLineNumber "x"⟩ ∧
      (∀ line, ¬ IsDue choosyTable .empty (ofBytes faultyMap).lines
        ⟨5, line, .missingSeparator⟩) ∧
      callsOfLine choosyTable .empty (ofBytes faultyMap).lines 7 = [] := by
  obtain ⟨reports, last, hread, -, hreports, hdue⟩ := reports_of_read choosyTable .empty faultyMap
  have hall : reports = [⟨3, "lost", .missingSeparator⟩,
      ⟨6, "\uFFFD", .undecodable (.invalid 1 0)⟩,
      ⟨8, " x:1:void f() -> g", .invalidLineNumber "x"⟩] :=
    Except.ok.inj ((congrArg Prod.fst hread).symm.trans (by decide +kernel))
  subst hall
  refine ⟨by rw [hread], (hdue _).1 (by simp), fun line hline => ?_, ?_⟩
  · exact absurd ((hdue _).2 hline) (by simp)
  · exact (hreports ⟨8, " x:1:void f() -> g", .invalidLineNumber "x"⟩ (by simp)).2.2

end Deobfuscation.SymbolMap
