import Mathlib.Data.List.Induction
import Deobfuscation.SymbolMap.Reading

/-!
# The reports of a reading

A line adds at most one report, of its own fault and with its own number, and leaves the others as
they are.  The numbers are all that a reading knows of the lines in front, so it goes on behind
other lines as it would from the beginning, only with higher numbers.

* `Reading.nextReports`, `reports_next` — the reports of the next line, and **proved**: a line adds
  these;
* `linesRead_readLines`, `mem_reports_readLines`, `lineNumber_of_mem_readLines` — **proved**: all
  lines are counted, and a report has the number of one of them;
* `Reading.behind`, `next_behind`, `readLines_behind` — a reading as it stands behind other lines,
  and **proved**: it goes on from there as it would alone, for one line and so for all lines.
-/

namespace Deobfuscation.SymbolMap

variable {σ : Type}

/-! ### The reports of a line -/

namespace Reading

/-- The reports that the next line leads to. -/
def nextReports (reading : Reading σ) (raw : List UInt8) : List Report :=
  match Entry.ofBytes raw with
  | .ok _ => []
  | .error fault =>
    if fault = .malformedClass then []
    else if reading.openClass.isNone && !fault.isUndecodable then []
    else [⟨reading.linesRead + 1, String.ofList (Text.trimEnd (Utf8.decodeLossy raw)), fault⟩]

theorem linesRead_consume (consumer : Consumer σ) (reading : Reading σ) (entry : Entry) :
    (reading.consume consumer entry).linesRead = reading.linesRead := by
  cases entry with
  | ofClass entry => rfl
  | ofField entry => rw [consume]; split <;> rfl
  | ofMethod entry => rw [consume]; split <;> rfl

theorem reports_consume (consumer : Consumer σ) (reading : Reading σ) (entry : Entry) :
    (reading.consume consumer entry).reports = reading.reports := by
  cases entry with
  | ofClass entry => rfl
  | ofField entry => rw [consume]; split <;> rfl
  | ofMethod entry => rw [consume]; split <;> rfl

theorem linesRead_fail (reading : Reading σ) (raw : List UInt8) (fault : Fault) :
    (reading.fail raw fault).linesRead = reading.linesRead := by
  rw [fail]
  split
  · rfl
  · split <;> rfl

theorem linesRead_next (consumer : Consumer σ) (reading : Reading σ) (raw : List UInt8) :
    (reading.next consumer raw).linesRead = reading.linesRead + 1 := by
  rw [next]
  cases Entry.ofBytes raw with
  | error fault => exact linesRead_fail _ raw fault
  | ok found =>
    cases found with
    | none => rfl
    | some entry => exact linesRead_consume consumer _ entry

/-- **A line adds its own reports to those in front of it.** -/
theorem reports_next (consumer : Consumer σ) (reading : Reading σ) (raw : List UInt8) :
    (reading.next consumer raw).reports = reading.nextReports raw ++ reading.reports := by
  rw [next, nextReports]
  cases Entry.ofBytes raw with
  | error fault =>
    dsimp only
    rw [fail]
    by_cases hclass : fault = .malformedClass
    · rw [if_pos hclass, if_pos hclass]
      rfl
    · rw [if_neg hclass, if_neg hclass]
      dsimp only
      split <;> rfl
  | ok found =>
    cases found with
    | none => rfl
    | some entry => exact reports_consume consumer _ entry

/-- A report of the next line has its number. -/
theorem lineNumber_of_mem_nextReports {reading : Reading σ} {raw : List UInt8} {report : Report}
    (h : report ∈ reading.nextReports raw) : report.lineNumber = reading.linesRead + 1 := by
  rw [nextReports] at h
  split at h
  · exact absurd h List.not_mem_nil
  · split at h
    · exact absurd h List.not_mem_nil
    · split at h
      · exact absurd h List.not_mem_nil
      · rw [List.mem_singleton.1 h]

end Reading

/-- All lines are counted. -/
theorem linesRead_readLines (consumer : Consumer σ) (reading : Reading σ)
    (lines : List (List UInt8)) :
    (readLines consumer reading lines).linesRead = reading.linesRead + lines.length := by
  induction lines generalizing reading with
  | nil => rfl
  | cons raw lines ih =>
    have hnext := Reading.linesRead_next consumer reading raw
    show (readLines consumer (reading.next consumer raw) lines).linesRead = _
    rw [ih, hnext, List.length_cons]
    omega

theorem linesRead_readLines_initial (consumer : Consumer σ) (state : σ)
    (lines : List (List UInt8)) :
    (readLines consumer (.initial state) lines).linesRead = lines.length :=
  (linesRead_readLines consumer (.initial state) lines).trans (Nat.zero_add lines.length)

/-- **A report was there or has the number of a line that was read.** -/
theorem mem_reports_readLines {consumer : Consumer σ} {reading : Reading σ}
    {lines : List (List UInt8)} {report : Report}
    (h : report ∈ (readLines consumer reading lines).reports) :
    report ∈ reading.reports ∨
      (reading.linesRead < report.lineNumber ∧
        report.lineNumber ≤ reading.linesRead + lines.length) := by
  induction lines using List.reverseRecOn with
  | nil => exact .inl h
  | append_singleton lines raw ih =>
    have hcount := linesRead_readLines consumer reading lines
    have hnext := Reading.reports_next consumer (readLines consumer reading lines) raw
    rw [readLines_append] at h
    rw [List.length_append, List.length_singleton]
    rcases List.mem_append.1 (hnext ▸ h) with hnew | hearlier
    · have hnumber := Reading.lineNumber_of_mem_nextReports hnew
      exact .inr (by omega)
    · rcases ih hearlier with hold | hread
      · exact .inl hold
      · exact .inr (by omega)

/-- A reading that begins with no reports counts its lines from one. -/
theorem lineNumber_of_mem_readLines {consumer : Consumer σ} {state : σ} {owner : Option String}
    {lines : List (List UInt8)} {report : Report}
    (h : report ∈ (readLines consumer ⟨state, owner, 0, []⟩ lines).reports) :
    0 < report.lineNumber ∧ report.lineNumber ≤ lines.length := by
  rcases mem_reports_readLines h with hold | ⟨hpos, hle⟩
  · exact absurd hold List.not_mem_nil
  · exact ⟨hpos, Nat.zero_add lines.length ▸ hle⟩

/-! ### Behind other lines -/

/-- The report of a line that stands behind others. -/
def Report.behind (count : Nat) (report : Report) : Report :=
  { report with lineNumber := count + report.lineNumber }

namespace Reading

/-- The reading as it stands behind other lines and their reports. -/
def behind (count : Nat) (reports : List Report) (reading : Reading σ) : Reading σ where
  state := reading.state
  openClass := reading.openClass
  linesRead := count + reading.linesRead
  reports := reading.reports.map (Report.behind count) ++ reports

variable (count : Nat) (reports : List Report)

theorem consume_behind (consumer : Consumer σ) (reading : Reading σ) (entry : Entry) :
    (reading.behind count reports).consume consumer entry =
      (reading.consume consumer entry).behind count reports := by
  cases entry with
  | ofClass entry => rfl
  | ofField entry => cases h : reading.openClass <;> simp [consume, behind, h]
  | ofMethod entry => cases h : reading.openClass <;> simp [consume, behind, h]

theorem fail_behind (reading : Reading σ) (raw : List UInt8) (fault : Fault) :
    (reading.behind count reports).fail raw fault =
      (reading.fail raw fault).behind count reports := by
  unfold fail
  split
  · rfl
  · show (if (reading.openClass.isNone && !fault.isUndecodable) = true then _ else _) = _
    split <;> rfl

/-- **A line makes of a reading behind other lines what it makes of the reading alone.** -/
theorem next_behind (consumer : Consumer σ) (reading : Reading σ) (raw : List UInt8) :
    (reading.behind count reports).next consumer raw =
      (reading.next consumer raw).behind count reports := by
  rw [next, next]
  cases Entry.ofBytes raw with
  | error fault =>
    exact fail_behind count reports { reading with linesRead := reading.linesRead + 1 } raw fault
  | ok found =>
    cases found with
    | none => rfl
    | some entry =>
      exact consume_behind count reports consumer
        { reading with linesRead := reading.linesRead + 1 } entry

end Reading

/-- **Lines make of a reading behind other lines what they make of the reading alone.** -/
theorem readLines_behind (consumer : Consumer σ) (count : Nat) (reports : List Report)
    (reading : Reading σ) (lines : List (List UInt8)) :
    readLines consumer (reading.behind count reports) lines =
      (readLines consumer reading lines).behind count reports := by
  induction lines generalizing reading with
  | nil => rfl
  | cons raw lines ih =>
    have hnext := Reading.next_behind count reports consumer reading raw
    show readLines consumer ((reading.behind count reports).next consumer raw) lines = _
    rw [hnext]
    exact ih (reading.next consumer raw)

end Deobfuscation.SymbolMap
