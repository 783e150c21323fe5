import Deobfuscation.Proofs.SymbolMap.ClassContext
import Deobfuscation.Proofs.SymbolMap.Reports

/-!
# Refused classes

A consumer may refuse the members of a class when the class is handed over to it.  A symbol map is
read for it as for a consumer that refuses none, only the calls for members and the reports of
faulty members behind a refused class are left out: the open class of the two readings differs up to
the next header, and a header, whether it is well formed or not, brings them together again.

* `CallLog.lastClass?`, `CallLog.endsRefused` — the class that calls hand over last, and whether it
  is refused;
* `CallLog.withoutMembers` — the calls without those for members of refused classes;
* `Reading.Refuses` — a reading that has refused classes beside one that has refused none;
* `Refuses.next`, `Refuses.nextCalls`, `Refuses.nextReports` — **proved**: what the next line makes
  of both;
* `refuses_readLines`, `reports_readLines_refusing` — **proved**: and so what all lines make of
  them;
* `read_refusing` — **proved**: refusing classes only leaves out.
-/

namespace Deobfuscation.SymbolTable

open SymbolMap (ClassEntry)

/-! ### Calls without members -/

/-- The class that a call hands over, if it is for a class. -/
def Call.class? : Call → Option ClassEntry
  | .ofClass entry => some entry
  | _ => none

namespace CallLog

variable (refused : String → Bool)

/-- The class that calls hand over last. -/
def lastClass? (log : CallLog) : Option ClassEntry := log.reverse.findSome? Call.class?

/-- The class that calls hand over last is refused. -/
def endsRefused (log : CallLog) : Bool := log.lastClass?.any fun entry => refused entry.obfuscated

/-- The calls without those for members in front of which a refused class is handed over last. -/
def withoutMembers (log : CallLog) : CallLog :=
  (log.zipIdx.filter fun (call, i) =>
    call.class?.isSome || !endsRefused refused (log.take i)).map Prod.fst

theorem lastClass?_concat (log : CallLog) (call : Call) :
    lastClass? (log ++ [call]) = call.class?.or (lastClass? log) := by
  rw [lastClass?, List.reverse_append, List.reverse_singleton, List.singleton_append,
    List.findSome?_cons, lastClass?]
  cases call.class? <;> rfl

theorem withoutMembers_concat (log : CallLog) (call : Call) :
    withoutMembers refused (log ++ [call]) =
      withoutMembers refused log ++
        [call].filter fun call => call.class?.isSome || !endsRefused refused log := by
  -- what stands in front of a call is the same in the longer log
  have hfront : ∀ place ∈ log.zipIdx,
      (place.1.class?.isSome || !endsRefused refused ((log ++ [call]).take place.2)) =
        (place.1.class?.isSome || !endsRefused refused (log.take place.2)) := by
    intro place hplace
    have hlt := List.snd_lt_of_mem_zipIdx hplace
    rw [List.take_append_of_le_length (by omega)]
  have hlast : (log ++ [call]).take log.length = log := List.take_left
  rw [withoutMembers, List.zipIdx_append, List.filter_append, List.map_append]
  refine congrArg₂ (· ++ ·) (congrArg _ (List.filter_congr hfront)) ?_
  cases hkept : call.class?.isSome || !endsRefused refused log <;>
    simp [hlast, hkept]

/-- Calls for members hand no class over. -/
theorem lastClass?_append {log more : CallLog} (h : ∀ call ∈ more, call.class? = none) :
    lastClass? (log ++ more) = lastClass? log := by
  induction more using List.reverseRecOn with
  | nil => rw [List.append_nil]
  | append_singleton more call ih =>
    rw [List.forall_mem_append, List.forall_mem_singleton] at h
    rw [← List.append_assoc, lastClass?_concat, h.2, ih h.1]
    rfl

end CallLog

end Deobfuscation.SymbolTable

namespace Deobfuscation.SymbolMap

open ByteSource (ofBytes)
open SymbolTable (Call CallLog)

variable {σ τ : Type}

/-! ### Two readings -/

namespace Reading

/-- A reading that has refused classes beside one that has refused none: where the class handed over
last is refused, it has no class open. -/
structure Refuses (isRefused : Bool) (reading : Reading σ) (refusing : Reading τ) : Prop where
  openClass : refusing.openClass = if isRefused then none else reading.openClass
  linesRead : refusing.linesRead = reading.linesRead

/-- A line leads to one call at most. -/
theorem nextCalls_cases (reading : Reading σ) (raw : List UInt8) :
    reading.nextCalls raw = [] ∨ ∃ call, reading.nextCalls raw = [call] := by
  rw [nextCalls]
  cases Entry.ofBytes raw with
  | error fault => exact .inl rfl
  | ok found =>
    cases found with
    | none => exact .inl rfl
    | some entry =>
      cases entry with
      | ofClass entry => exact .inr ⟨_, rfl⟩
      | ofField entry => cases hopen : reading.openClass <;> simp [callsFor, hopen]
      | ofMethod entry => cases hopen : reading.openClass <;> simp [callsFor, hopen]

/-- Only a header leads to a call for a class. -/
theorem class?_of_mem_nextCalls {reading : Reading σ} {raw : List UInt8}
    (h : isHeaderLine raw = false) : ∀ call ∈ reading.nextCalls raw, call.class? = none := by
  have hclass := (ofBytes_of_not_isHeaderLine h).1
  rw [nextCalls]
  cases hentry : Entry.ofBytes raw with
  | error fault => simp
  | ok found =>
    cases found with
    | none => simp
    | some entry =>
      cases entry with
      | ofClass entry => exact absurd hentry (hclass entry)
      | ofField entry => simp [callsFor, Call.class?]
      | ofMethod entry => simp [callsFor, Call.class?]

namespace Refuses

variable {isRefused : Bool} {reading : Reading σ} {refusing : Reading τ}

/-- **The next line leads to the same calls, without those for members of a refused class.** -/
theorem nextCalls (h : Refuses isRefused reading refusing) (raw : List UInt8) :
    refusing.nextCalls raw =
      (reading.nextCalls raw).filter fun call => call.class?.isSome || !isRefused := by
  rw [Reading.nextCalls, Reading.nextCalls]
  cases Entry.ofBytes raw with
  | error fault => rfl
  | ok found =>
    cases found with
    | none => rfl
    | some entry =>
      have hopen := h.openClass
      cases entry with
      | ofClass entry => rfl
      | ofField entry =>
        cases isRefused <;> cases hclass : reading.openClass <;>
          simp [callsFor, hopen, hclass, Call.class?]
      | ofMethod entry =>
        cases isRefused <;> cases hclass : reading.openClass <;>
          simp [callsFor, hopen, hclass, Call.class?]

/-- **The next line leads to the same reports, without those for members of a refused class.** -/
theorem nextReports (h : Refuses isRefused reading refusing) (raw : List UInt8) :
    refusing.nextReports raw =
      (reading.nextReports raw).filter fun report =>
        report.fault.isUndecodable || !isRefused := by
  rw [Reading.nextReports, Reading.nextReports, h.linesRead, h.openClass]
  cases Entry.ofBytes raw with
  | ok found => rfl
  | error fault =>
    dsimp only
    split
    · rfl
    · cases isRefused <;> cases hundecodable : fault.isUndecodable <;>
        cases hclass : reading.openClass <;> simp [hundecodable]

variable {refused : String → Bool} {accepting : Consumer σ} {denying : Consumer τ} {log : CallLog}

/-- **The next line leaves both readings side by side.** -/
theorem next (h : Refuses (log.endsRefused refused) reading refusing)
    (haccepting : ∀ entry state, (accepting.openClass entry state).1 = true)
    (hdenying : ∀ entry state, (denying.openClass entry state).1 = !refused entry.obfuscated)
    (raw : List UInt8) :
    Refuses (CallLog.endsRefused refused (log ++ reading.nextCalls raw))
      (reading.next accepting raw) (refusing.next denying raw) := by
  refine ⟨?_, by rw [linesRead_next, linesRead_next, h.linesRead]⟩
  rw [openClass_next, openClass_next]
  cases hheader : isHeaderLine raw with
  | false =>
    rw [CallLog.endsRefused, CallLog.lastClass?_append (class?_of_mem_nextCalls hheader)]
    exact h.openClass
  | true =>
    -- a header brings the readings together, whatever was open in front of it
    rcases ofBytes_of_isHeaderLine hheader with ⟨entry, hentry⟩ | hfault
    · have hcalls : reading.nextCalls raw = [.ofClass entry] := by
        rw [Reading.nextCalls, hentry]
        rfl
      have hlast : CallLog.endsRefused refused (log ++ [.ofClass entry]) =
          refused entry.obfuscated := by
        rw [CallLog.endsRefused, CallLog.lastClass?_concat]
        rfl
      simp only [openedBy, hentry, hcalls, hlast, haccepting, hdenying]
      cases refused entry.obfuscated <;> rfl
    · simp [openedBy, hfault]

end Refuses

end Reading

/-! ### All lines -/

section Lines

variable {refused : String → Bool} {accepting : Consumer σ} {denying : Consumer τ}

/-- **All lines leave both readings side by side**, and lead to the same calls, without those for
members of refused classes. -/
theorem refuses_readLines (haccepting : ∀ entry state, (accepting.openClass entry state).1 = true)
    (hdenying : ∀ entry state, (denying.openClass entry state).1 = !refused entry.obfuscated)
    (state : σ) (other : τ) (lines : List (List UInt8)) :
    Reading.Refuses ((callsOf accepting state lines).endsRefused refused)
        (readLines accepting (.initial state) lines) (readLines denying (.initial other) lines) ∧
      callsOf denying other lines = (callsOf accepting state lines).withoutMembers refused := by
  induction lines using List.reverseRecOn with
  | nil => exact ⟨⟨rfl, rfl⟩, rfl⟩
  | append_singleton lines raw ih =>
    obtain ⟨hreadings, hcalls⟩ := ih
    rw [callsOf_append, callsOf_append, readLines_append, readLines_append, hcalls,
      hreadings.nextCalls]
    refine ⟨hreadings.next haccepting hdenying raw, ?_⟩
    rcases Reading.nextCalls_cases (readLines accepting (.initial state) lines) raw with
      hnone | ⟨call, hcall⟩
    · rw [hnone, List.filter_nil, List.append_nil, List.append_nil]
    · rw [hcall, CallLog.withoutMembers_concat]

/-- The class that is handed over last in front of a line is refused. -/
def isRefusedAt (refused : String → Bool) (consumer : Consumer σ) (state : σ)
    (lines : List (List UInt8)) (number : Nat) : Bool :=
  (callsOf consumer state (lines.take (number - 1))).endsRefused refused

/-- **All lines lead to the same reports**, without those for members of refused classes. -/
theorem reports_readLines_refusing
    (haccepting : ∀ entry state, (accepting.openClass entry state).1 = true)
    (hdenying : ∀ entry state, (denying.openClass entry state).1 = !refused entry.obfuscated)
    (state : σ) (other : τ) (lines : List (List UInt8)) :
    (readLines denying (.initial other) lines).reports =
      (readLines accepting (.initial state) lines).reports.filter fun report =>
        report.fault.isUndecodable ||
          !isRefusedAt refused accepting state lines report.lineNumber := by
  induction lines using List.reverseRecOn with
  | nil => rfl
  | append_singleton lines raw ih =>
    let reading := readLines accepting (.initial state) lines
    obtain ⟨hreadings, -⟩ := refuses_readLines haccepting hdenying state other lines
    have hcount : reading.linesRead = lines.length :=
      linesRead_readLines_initial accepting state lines
    -- the lines in front of a line do not change with those behind it
    have hearlier : ∀ report ∈ reading.reports,
        (report.fault.isUndecodable ||
            !isRefusedAt refused accepting state (lines ++ [raw]) report.lineNumber) =
          (report.fault.isUndecodable ||
            !isRefusedAt refused accepting state lines report.lineNumber) := by
      intro report hreport
      have hle := (lineNumber_of_mem_readLines hreport).2
      rw [isRefusedAt, List.take_append_of_le_length (by omega), ← isRefusedAt]
    have hown : ∀ report ∈ reading.nextReports raw,
        (report.fault.isUndecodable ||
            !isRefusedAt refused accepting state (lines ++ [raw]) report.lineNumber) =
          (report.fault.isUndecodable ||
            !(callsOf accepting state lines).endsRefused refused) := by
      intro report hreport
      rw [isRefusedAt, Reading.lineNumber_of_mem_nextReports hreport, Nat.add_sub_cancel, hcount,
        List.take_left]
    rw [readLines_append, readLines_append]
    show (Reading.next denying _ raw).reports = (Reading.next accepting _ raw).reports.filter _
    rw [Reading.reports_next, Reading.reports_next, List.filter_append,
      List.filter_congr hearlier, List.filter_congr hown, hreadings.nextReports, ih]

end Lines

/-- **Refusing classes only leaves out.**  A consumer that refuses the classes of some obfuscated
names is called like one that accepts every class, without the calls for members in front of which a
refused class is handed over last; and it is given the same reports, without those of entries in
front of whose line a refused class is handed over last. -/
theorem read_refusing {accepting : Consumer σ} {denying : Consumer τ} (refused : String → Bool)
    (haccepting : ∀ entry state, (accepting.openClass entry state).1 = true)
    (hdenying : ∀ entry state, (denying.openClass entry state).1 = !refused entry.obfuscated)
    (state : σ) (other : τ) (bytes : List UInt8) :
    calls denying other (ofBytes bytes) =
        (calls accepting state (ofBytes bytes)).withoutMembers refused ∧
      ∃ reports, (read accepting state (ofBytes bytes)).1 = .ok reports ∧
        (read denying other (ofBytes bytes)).1 =
          .ok (reports.filter fun report =>
            report.fault.isUndecodable ||
              !isRefusedAt refused accepting state (ofBytes bytes).lines report.lineNumber) := by
  obtain ⟨-, hcalls⟩ := refuses_readLines haccepting hdenying state other (ofBytes bytes).lines
  have hreports :=
    reports_readLines_refusing haccepting hdenying state other (ofBytes bytes).lines
  constructor
  · rw [calls_eq_callsOf, calls_eq_callsOf, hcalls]
  · refine ⟨_, rfl, ?_⟩
    show Except.ok (readLines denying (.initial other) (ofBytes bytes).lines).reports.reverse = _
    rw [hreports, List.filter_reverse]

/-- Three classes, the second of which is refused by its obfuscated name, with members and lines
that are at fault, a line that is no text and a header without a class. -/
def partlyRefused : List UInt8 :=
  Utf8.encode "A -> a:\n int x -> y\nlost\nB -> b:\n void f() -> g\nlost\n".toList ++
    [0xFF, 0x0A] ++ Utf8.encode "-> c:\nlost\n int u -> v\nC -> c:\n int w -> z\n".toList

/-- A table that refuses the members of one class. -/
def refusingTable : Consumer SymbolTable :=
  { SymbolTable.consumer with
    openClass := fun entry table => (!(entry.obfuscated == "b"), table.addClass entry) }

theorem read_refusing_second :
    (∀ entry state, (SymbolTable.consumer.openClass entry state).1 = true) ∧
      (∀ entry state, (refusingTable.openClass entry state).1 = !(entry.obfuscated == "b")) ∧
      calls refusingTable .empty (ofBytes partlyRefused) =
        [.ofClass ⟨"A", "a"⟩, .ofField "A" ⟨"int", "x", "y", none⟩, .ofClass ⟨"B", "b"⟩,
          .ofClass ⟨"C", "c"⟩, .ofField "C" ⟨"int", "w", "z", none⟩] ∧
      (read SymbolTable.consumer .empty (ofBytes partlyRefused)).1 =
        .ok [⟨3, "lost", .missingSeparator⟩, ⟨6, "lost", .missingSeparator⟩,
          ⟨7, "\uFFFD", .undecodable (.invalid 1 0)⟩] ∧
      (read refusingTable .empty (ofBytes partlyRefused)).1 =
        .ok [⟨3, "lost", .missingSeparator⟩, ⟨7, "\uFFFD", .undecodable (.invalid 1 0)⟩] := by
  have haccepting : ∀ entry state, (SymbolTable.consumer.openClass entry state).1 = true :=
    fun _ _ => rfl
  have hrefusing : ∀ entry state,
      (refusingTable.openClass entry state).1 = !(entry.obfuscated == "b") := fun _ _ => rfl
  obtain ⟨hcalls, reports, hreports, hkept⟩ :=
    read_refusing (· == "b") haccepting hrefusing .empty .empty partlyRefused
  have hall : reports = [⟨3, "lost", .missingSeparator⟩, ⟨6, "lost", .missingSeparator⟩,
      ⟨7, "\uFFFD", .undecodable (.invalid 1 0)⟩] :=
    Except.ok.inj (hreports.symm.trans (by decide +kernel))
  refine ⟨haccepting, hrefusing, ?_, ?_, ?_⟩
  · rw [hcalls]
    decide +kernel
  · rw [hreports, hall]
  · rw [hkept, hall]
    exact congrArg Except.ok (by decide +kernel)

end Deobfuscation.SymbolMap
