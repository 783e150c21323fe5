import Deobfuscation.Proofs.ByteSource.Delivery
import Deobfuscation.Proofs.SymbolMap.ClassContext
import Deobfuscation.Proofs.SymbolMap.Reports

/-!
# Symbol maps in parts

Between two lines a reading knows the open class, the number of lines and the reports, besides the
state of its consumer.  What a symbol map in several parts says comes down to these: a header leaves
nothing of the class that is open in front of it, a line that tells nothing leaves the class open,
and the number of lines only moves the numbers of the reports.

* `isVacantLine`, `next_within_vacant`, `next_within_header` — a line that is blank or a comment,
  and **proved**: such a line keeps the class that is open in front, a header does not ask for it;
* `read_joined` — **proved**: a symbol map in front of one that begins with a header is read like
  both of them in turn;
* `TellsNothing`, `read_withoutLine` — a member's line that tells nothing, and **proved**: without
  it a symbol map is read as with it, except for its own report and the numbers behind it;
* `read_cutOff` — **proved**: a symbol map whose source fails is read up to the last end mark.
-/

namespace Deobfuscation.SymbolMap

open ByteSource (lineFeed ofBytes InWholeLines IsClosedPart Delivers)
open SymbolTable (CallLog)
open Text

variable {σ : Type}

theorem lines_append {front : List UInt8} (h : InWholeLines front) (back : List UInt8) :
    (ofBytes (front ++ back)).lines = (ofBytes front).lines ++ (ofBytes back).lines :=
  splitAfter_append h back

/-! ### The open class in front of a line -/

/-- The line is blank or a comment, its defects replaced where its bytes are no text. -/
def isVacantLine (raw : List UInt8) : Bool := isVacant (trim (Utf8.decodeLossy raw))

/-- The first of the lines that is neither blank nor a comment, if there is one, is a header. -/
def BeginWithHeader (lines : List (List UInt8)) : Prop :=
  ∀ raw ∈ lines.find? (fun raw => !isVacantLine raw), isHeaderLine raw = true

instance (lines : List (List UInt8)) : Decidable (BeginWithHeader lines) :=
  inferInstanceAs (Decidable (∀ raw ∈ lines.find? _, _))

theorem ofBytes_of_isVacantLine {raw : List UInt8} (h : isVacantLine raw = true) :
    Entry.ofBytes raw = .ok none ∨ ∃ cause, Entry.ofBytes raw = .error (.undecodable cause) := by
  rw [Entry.ofBytes]
  cases hdecode : Utf8.decode raw with
  | error cause => exact .inr ⟨cause, rfl⟩
  | ok s =>
    rw [isVacantLine, Utf8.decodeLossy_of_decode hdecode] at h
    exact .inl (by simp [Entry.ofText, h])

namespace Reading

/-- The reading, with another class open. -/
def within (owner : Option String) (reading : Reading σ) : Reading σ :=
  { reading with openClass := owner }

/-- **A line that is blank or a comment keeps the class that is open**, and is read alike in each.
-/
theorem next_within_vacant {raw : List UInt8} (h : isVacantLine raw = true)
    (consumer : Consumer σ) (reading : Reading σ) (owner : Option String) :
    (reading.within owner).next consumer raw = (reading.next consumer raw).within owner := by
  rw [next, next]
  rcases ofBytes_of_isVacantLine h with hnone | ⟨cause, hcause⟩
  · rw [hnone]
    rfl
  · simp [hcause, fail, within, Fault.isUndecodable]

/-- **A header does not ask for the class that is open in front of it.** -/
theorem next_within_header {raw : List UInt8} (h : isHeaderLine raw = true)
    (consumer : Consumer σ) (reading : Reading σ) (owner : Option String) :
    (reading.within owner).next consumer raw = reading.next consumer raw := by
  rw [next, next]
  rcases ofBytes_of_isHeaderLine h with ⟨entry, hentry⟩ | hfault
  · rw [hentry]
    rfl
  · simp [hfault, fail, within]

end Reading

/-- Lines that begin with a header are read alike in each class, only their end may be in another.
-/
theorem readLines_within {lines : List (List UInt8)} (h : BeginWithHeader lines)
    (consumer : Consumer σ) (reading : Reading σ) (owner : Option String) :
    ∃ last, readLines consumer (reading.within owner) lines =
      (readLines consumer reading lines).within last := by
  induction lines generalizing reading with
  | nil => exact ⟨owner, rfl⟩
  | cons raw lines ih =>
    cases hvacant : isVacantLine raw with
    | true =>
      have hnext := Reading.next_within_vacant hvacant consumer reading owner
      have hrest : BeginWithHeader lines := fun other hother =>
        h other (by simpa [hvacant] using hother)
      obtain ⟨last, hlast⟩ := ih hrest (reading.next consumer raw)
      refine ⟨last, ?_⟩
      show readLines consumer ((reading.within owner).next consumer raw) lines = _
      rw [hnext]
      exact hlast
    | false =>
      have hnext := Reading.next_within_header (h raw (by simp [hvacant])) consumer reading owner
      refine ⟨(readLines consumer (reading.next consumer raw) lines).openClass, ?_⟩
      show readLines consumer ((reading.within owner).next consumer raw) lines = _
      rw [hnext]
      rfl

/-! ### Two symbol maps in one -/

theorem read_ofBytes (consumer : Consumer σ) (state : σ) (bytes : List UInt8) :
    read consumer state (ofBytes bytes) =
      (.ok (readLines consumer (.initial state) (ofBytes bytes).lines).reports.reverse,
        (readLines consumer (.initial state) (ofBytes bytes).lines).state) := rfl

/-- What a consumer is told by two symbol maps in one, it is told by both of them in turn. -/
theorem read_append {front back : List UInt8} (hfront : InWholeLines front)
    (hback : BeginWithHeader (ofBytes back).lines) (consumer : Consumer σ) (state : σ) :
    ∃ reports middle later last,
      read consumer state (ofBytes front) = (.ok reports, middle) ∧
      read consumer middle (ofBytes back) = (.ok later, last) ∧
      read consumer state (ofBytes (front ++ back)) =
        (.ok (reports ++ later.map (Report.behind (ofBytes front).lines.length)), last) := by
  let reading := readLines consumer (.initial state) (ofBytes front).lines
  let fresh := readLines consumer (.initial reading.state) (ofBytes back).lines
  have hcount : reading.linesRead = (ofBytes front).lines.length :=
    linesRead_readLines_initial consumer state _
  obtain ⟨owner, howner⟩ :=
    readLines_within hback consumer (.initial reading.state) reading.openClass
  -- the second part is read from where the first has come, in a class that does not matter
  have hlines : readLines consumer (.initial state) (ofBytes (front ++ back)).lines =
      (fresh.within owner).behind reading.linesRead reading.reports := by
    rw [lines_append hfront, readLines_append, ← howner, ← readLines_behind]
    rfl
  refine ⟨_, _, _, _, read_ofBytes consumer state front,
    read_ofBytes consumer reading.state back, ?_⟩
  rw [read_ofBytes, hlines, ← hcount, List.map_reverse, ← List.reverse_append]
  rfl

/-- **Two symbol maps in one are read like both of them in turn**, if the first is empty or ends in
an end mark and the second begins with a header: every consumer is called alike, the reports are
those of the first and then those of the second, whose line numbers count the lines of the first,
and a table is filled alike. -/
theorem read_joined {front back : List UInt8} (hfront : InWholeLines front)
    (hback : BeginWithHeader (ofBytes back).lines) :
    (∀ (σ : Type) (consumer : Consumer σ) (state : σ), ∃ reports middle later last,
      read consumer state (ofBytes front) = (.ok reports, middle) ∧
      read consumer middle (ofBytes back) = (.ok later, last) ∧
      read consumer state (ofBytes (front ++ back)) =
        (.ok (reports ++ later.map (Report.behind (ofBytes front).lines.length)), last) ∧
      calls consumer state (ofBytes (front ++ back)) =
        calls consumer state (ofBytes front) ++ calls consumer middle (ofBytes back)) ∧
    ∃ table, SymbolTable.ofSource (ofBytes front) = .ok table ∧
      SymbolTable.ofSource (ofBytes (front ++ back)) = .ok (table.load (ofBytes back)).2 := by
  constructor
  · intro σ consumer state
    obtain ⟨reports, middle, later, last, hreports, hlater, hall⟩ :=
      read_append hfront hback consumer state
    refine ⟨reports, middle, later, last, hreports, hlater, hall, ?_⟩
    -- the consumer that writes down its calls is told the same in both ways, too
    obtain ⟨_, _, _, _, hreports', hlater', hall'⟩ :=
      read_append hfront hback consumer.recorded (state, [])
    rw [read_recorded, hreports] at hreports'
    obtain ⟨-, rfl⟩ := Prod.mk.inj hreports'
    rw [read_recorded, List.nil_append] at hlater'
    obtain ⟨-, rfl⟩ := Prod.mk.inj hlater'
    rw [calls, hall']
  · obtain ⟨reports, table, later, last, hreports, hlater, hall⟩ :=
      read_append hfront hback SymbolTable.consumer SymbolTable.empty
    refine ⟨table, ?_, ?_⟩
    · rw [SymbolTable.ofSource, SymbolTable.load, hreports]
    · rw [SymbolTable.ofSource, SymbolTable.load, SymbolTable.load, hall, hlater]

/-- A class with a member and a line that is at fault. -/
def firstMap : List UInt8 := Utf8.encode "A -> a:\n    int x -> y\nlost\n".toList

/-- A comment that is no text, a blank line and then a class with a member and a line at fault. -/
def secondMap : List UInt8 :=
  [0x23, 0xFF, 0x0A, 0x0A] ++ Utf8.encode "B -> b:\n    void f() -> g\nlost\n".toList

theorem read_joined_comment :
    InWholeLines firstMap ∧ BeginWithHeader (ofBytes secondMap).lines ∧
      (read SymbolTable.consumer .empty (ofBytes (firstMap ++ secondMap))).1 =
        .ok [⟨3, "lost", .missingSeparator⟩, ⟨4, "#\uFFFD", .undecodable (.invalid 1 1)⟩,
          ⟨8, "lost", .missingSeparator⟩] ∧
      calls SymbolTable.consumer .empty (ofBytes (firstMap ++ secondMap)) =
        [.ofClass ⟨"A", "a"⟩, .ofField "A" ⟨"int", "x", "y", none⟩, .ofClass ⟨"B", "b"⟩,
          .ofMethod "B" ⟨"void", "f", "g", none, "", .unknown⟩] := by
  have hfirst : InWholeLines firstMap := by decide +kernel
  have hsecond : BeginWithHeader (ofBytes secondMap).lines := by decide +kernel
  obtain ⟨reports, middle, later, last, hreports, hlater, hall, hcalls⟩ :=
    (read_joined hfirst hsecond).1 _ SymbolTable.consumer .empty
  obtain rfl : middle = _ := (congrArg Prod.snd hreports).symm
  have hreports' : reports = [⟨3, "lost", .missingSeparator⟩] :=
    Except.ok.inj ((congrArg Prod.fst hreports).symm.trans (by decide +kernel))
  have hlater' : later =
      [⟨1, "#\uFFFD", .undecodable (.invalid 1 1)⟩, ⟨5, "lost", .missingSeparator⟩] :=
    Except.ok.inj ((congrArg Prod.fst hlater).symm.trans (by decide +kernel))
  refine ⟨hfirst, hsecond, ?_, ?_⟩
  · rw [hall, hreports', hlater']
    exact congrArg Except.ok (by decide +kernel)
  · rw [hcalls]
    decide +kernel

/-! ### A symbol map without a line -/

/-- What a text is read as tells nothing: the text is blank, a comment or lacks a name, or it is at
fault where only the text of a member can be. -/
inductive TellsNothing : Except Fault (Option Entry) → Prop
  | nothing : TellsNothing (.ok none)
  | missingSeparator : TellsNothing (.error .missingSeparator)
  | missingArrow : TellsNothing (.error .missingArrow)
  | invalidLineNumber (text : String) : TellsNothing (.error (.invalidLineNumber text))

/-- A line that tells nothing is counted and reported, and that is all. -/
theorem next_of_tellsNothing {raw : List UInt8} (h : TellsNothing (Entry.ofBytes raw))
    (consumer : Consumer σ) (reading : Reading σ) :
    reading.next consumer raw =
      { reading with
        linesRead := reading.linesRead + 1
        reports := reading.nextReports raw ++ reading.reports } := by
  have hfault : ∀ fault : Fault, fault ≠ .malformedClass → Entry.ofBytes raw = .error fault →
      reading.next consumer raw =
        { reading with
          linesRead := reading.linesRead + 1
          reports := reading.nextReports raw ++ reading.reports } := by
    intro fault hclass hread
    rw [Reading.next, Reading.nextReports, hread]
    dsimp only
    rw [Reading.fail, if_neg hclass, if_neg hclass]
    dsimp only
    split <;> rfl
  cases hread : Entry.ofBytes raw with
  | ok found =>
    rw [hread] at h
    cases h
    rw [Reading.next, Reading.nextReports, hread]
    rfl
  | error fault =>
    refine hfault fault ?_ hread
    rw [hread] at h
    cases h <;> simp

/-- The report in a symbol map without the line that has the number: the report of this line is
gone, and the lines behind it move up. -/
def Report.without (number : Nat) (report : Report) : Option Report :=
  if report.lineNumber = number then none
  else if report.lineNumber < number then some report
  else some { report with lineNumber := report.lineNumber - 1 }

namespace Report

variable {report : Report} {number : Nat}

theorem without_of_eq (h : report.lineNumber = number) : report.without number = none := if_pos h

theorem without_of_lt (h : report.lineNumber < number) : report.without number = some report := by
  rw [without, if_neg (by omega), if_pos h]

theorem without_behind (h : 0 < report.lineNumber) (count : Nat) :
    (report.behind (count + 1)).without (count + 1) = some (report.behind count) := by
  have hne : ¬count + 1 + report.lineNumber = count + 1 := by omega
  have hle : ¬count + 1 + report.lineNumber < count + 1 := by omega
  have hsub : count + 1 + report.lineNumber - 1 = count + report.lineNumber := by omega
  simp only [without, behind, hne, hle, hsub, if_false]

end Report

/-- The reports without those of a line, where the numbers of the others tell on which side they
are. -/
theorem filterMap_without {earlier own later : List Report} {i : Nat}
    (hearlier : ∀ report ∈ earlier, report.lineNumber ≤ i)
    (hown : ∀ report ∈ own, report.lineNumber = i + 1)
    (hlater : ∀ report ∈ later, 0 < report.lineNumber) :
    (later.map (Report.behind (i + 1)) ++ (own ++ earlier)).reverse.filterMap
        (Report.without (i + 1)) =
      (later.map (Report.behind i) ++ earlier).reverse := by
  have hkept : earlier.filterMap (Report.without (i + 1)) = earlier := by
    rw [List.filterMap_congr (g := some), List.filterMap_some]
    exact fun report hreport => Report.without_of_lt (Nat.lt_succ_of_le (hearlier report hreport))
  have hgone : own.filterMap (Report.without (i + 1)) = [] :=
    List.filterMap_eq_nil_iff.2 fun report hreport => Report.without_of_eq (hown report hreport)
  have hmoved : (later.map (Report.behind (i + 1))).filterMap (Report.without (i + 1)) =
      later.map (Report.behind i) := by
    rw [List.filterMap_map, ← List.filterMap_eq_map]
    exact List.filterMap_congr fun report hreport =>
      Report.without_behind (hlater report hreport) i
  rw [List.filterMap_reverse, List.filterMap_append, List.filterMap_append, hkept, hgone, hmoved,
    List.nil_append]

theorem lines_withoutLine (bytes : List UInt8) (i : Nat) :
    (ofBytes (withoutLine lineFeed i bytes)).lines = (ofBytes bytes).lines.eraseIdx i :=
  splitAfter_withoutLine i bytes

/-- The line that tells nothing stands between lines that are read alike with and without it. -/
theorem read_eraseLine {bytes raw : List UInt8} {i : Nat}
    (hline : (ofBytes bytes).lines[i]? = some raw) (hnothing : TellsNothing (Entry.ofBytes raw))
    (consumer : Consumer σ) (state : σ) :
    ∃ reports last, read consumer state (ofBytes bytes) = (.ok reports, last) ∧
      read consumer state (ofBytes (withoutLine lineFeed i bytes)) =
        (.ok (reports.filterMap (Report.without (i + 1))), last) := by
  obtain ⟨hi, hraw⟩ := List.getElem?_eq_some_iff.1 hline
  let front := (ofBytes bytes).lines.take i
  let back := (ofBytes bytes).lines.drop (i + 1)
  let reading := readLines consumer (.initial state) front
  let own := reading.nextReports raw
  let later := readLines consumer ⟨reading.state, reading.openClass, 0, []⟩ back
  have hwith : (ofBytes bytes).lines = front ++ raw :: back := by
    rw [← hraw, List.getElem_cons_drop, List.take_append_drop]
  have hwithout : (ofBytes (withoutLine lineFeed i bytes)).lines = front ++ back := by
    rw [lines_withoutLine, List.eraseIdx_eq_take_drop_succ]
  have hcount : reading.linesRead = i := by
    rw [linesRead_readLines_initial, List.length_take_of_le (by omega)]
  -- behind the line both runs go on as one run that begins there
  have hlong : readLines consumer (.initial state) (ofBytes bytes).lines =
      later.behind (i + 1) (own ++ reading.reports) := by
    have hnext := next_of_tellsNothing hnothing consumer reading
    rw [hwith, readLines_append, ← readLines_behind]
    show readLines consumer (reading.next consumer raw) back = _
    rw [hnext, hcount]
    rfl
  have hshort : readLines consumer (.initial state)
      (ofBytes (withoutLine lineFeed i bytes)).lines = later.behind i reading.reports := by
    rw [hwithout, readLines_append, ← readLines_behind, ← hcount]
    rfl
  have hearlier : ∀ report ∈ reading.reports, report.lineNumber ≤ i := by
    intro report hreport
    have hle := (lineNumber_of_mem_readLines hreport).2
    rwa [List.length_take_of_le (by omega)] at hle
  have hown : ∀ report ∈ own, report.lineNumber = i + 1 := fun report hreport =>
    hcount ▸ Reading.lineNumber_of_mem_nextReports hreport
  have hlater : ∀ report ∈ later.reports, 0 < report.lineNumber := fun report hreport =>
    (lineNumber_of_mem_readLines hreport).1
  refine ⟨_, _, read_ofBytes consumer state bytes, ?_⟩
  rw [read_ofBytes, hlong, hshort]
  exact congrArg (fun reports => (Except.ok reports, later.state))
    (filterMap_without hearlier hown hlater).symm

/-- **Without a line that tells nothing a symbol map is read as with it**, only the report of this
line is gone and the numbers behind it are smaller by one. -/
theorem read_withoutLine {bytes raw : List UInt8} {i : Nat} {s : List Char}
    (hline : (ofBytes bytes).lines[i]? = some raw) (hdecode : Utf8.decode raw = .ok s)
    (hnothing : TellsNothing (Entry.ofText s)) (consumer : Consumer σ) (state : σ) :
    ∃ reports last, read consumer state (ofBytes bytes) = (.ok reports, last) ∧
      read consumer state (ofBytes (withoutLine lineFeed i bytes)) =
        (.ok (reports.filterMap (Report.without (i + 1))), last) ∧
      calls consumer state (ofBytes (withoutLine lineFeed i bytes)) =
        calls consumer state (ofBytes bytes) := by
  have hread : Entry.ofBytes raw = Entry.ofText s := by rw [Entry.ofBytes, hdecode]
  obtain ⟨reports, last, hwith, hwithout⟩ :=
    read_eraseLine hline (hread ▸ hnothing) consumer state
  -- the consumer that writes down its calls is told the same in both ways, too
  obtain ⟨_, _, hwith', hwithout'⟩ :=
    read_eraseLine hline (hread ▸ hnothing) consumer.recorded (state, [])
  exact ⟨reports, last, hwith, hwithout, by rw [calls, calls, hwith', hwithout']⟩

/-- A class with a method whose line numbers are none, a field and a line that is at fault. -/
def misnumberedMap : List UInt8 :=
  Utf8.encode "A -> a:\n    x:1:void f() -> g\n    int y -> z\nlost\n".toList

/-- The line of the method. -/
def misnumberedLine : List Char := "    x:1:void f() -> g\n".toList

theorem read_withoutLine_misnumbered :
    (ofBytes misnumberedMap).lines[1]? = some (Utf8.encode misnumberedLine) ∧
      Utf8.decode (Utf8.encode misnumberedLine) = .ok misnumberedLine ∧
      TellsNothing (Entry.ofText misnumberedLine) ∧
      (read SymbolTable.consumer .empty (ofBytes misnumberedMap)).1 =
        .ok [⟨2, "    x:1:void f() -> g", .invalidLineNumber "x"⟩, ⟨4, "lost", .missingSeparator⟩] ∧
      (read SymbolTable.consumer .empty (ofBytes (withoutLine lineFeed 1 misnumberedMap))).1 =
        .ok [⟨3, "lost", .missingSeparator⟩] ∧
      calls SymbolTable.consumer .empty (ofBytes (withoutLine lineFeed 1 misnumberedMap)) =
        [.ofClass ⟨"A", "a"⟩, .ofField "A" ⟨"int", "y", "z", none⟩] := by
  have hline : (ofBytes misnumberedMap).lines[1]? = some (Utf8.encode misnumberedLine) := by
    decide +kernel
  have hdecode := Utf8.decode_encode misnumberedLine
  have hread : Entry.ofText misnumberedLine = .error (.invalidLineNumber "x") := by decide +kernel
  have hnothing : TellsNothing (Entry.ofText misnumberedLine) := hread ▸ .invalidLineNumber "x"
  obtain ⟨reports, last, hwith, hwithout, hcalls⟩ :=
    read_withoutLine hline hdecode hnothing SymbolTable.consumer .empty
  have hreports : reports = [⟨2, "    x:1:void f() -> g", .invalidLineNumber "x"⟩,
      ⟨4, "lost", .missingSeparator⟩] :=
    Except.ok.inj ((congrArg Prod.fst hwith).symm.trans (by decide +kernel))
  refine ⟨hline, hdecode, hnothing, ?_, ?_, ?_⟩
  · rw [hwith, hreports]
  · rw [hwithout, hreports]
    exact congrArg Except.ok (by decide +kernel)
  · rw [hcalls]
    decide +kernel

/-! ### A symbol map that is cut off -/

/-- **A symbol map whose source fails is read up to the last end mark**: the failure is told, and
what the consumer was called with is what it would be called with if the symbol map had ended there,
so that a table knows what it would know then. -/
theorem read_cutOff (bytes : List UInt8) (count : Nat) (cause : String) :
    ∃ front, IsClosedPart front (bytes.take count) ∧
      Delivers ((ofBytes bytes).failingAfter count cause) (ofBytes front).lines (some cause) ∧
      (∀ (σ : Type) (consumer : Consumer σ) (state : σ), ∃ reports last,
        read consumer state (ofBytes front) = (.ok reports, last) ∧
        read consumer state ((ofBytes bytes).failingAfter count cause) = (.error cause, last) ∧
        calls consumer state ((ofBytes bytes).failingAfter count cause) =
          calls consumer state (ofBytes front)) ∧
      SymbolTable.ofSource ((ofBytes bytes).failingAfter count cause) = .error cause ∧
      ∀ table : SymbolTable, (table.load ((ofBytes bytes).failingAfter count cause)) =
        (.error cause, (table.load (ofBytes front)).2) := by
  obtain ⟨front, opened, hsplit, hfront, hopened⟩ :=
    ByteSource.exists_append_opened (bytes.take count)
  have hlines : ((ofBytes bytes).failingAfter count cause).lines = (ofBytes front).lines := by
    rw [ByteSource.failingAfter, ofBytes, hsplit]
    exact ByteSource.lines_failing hfront hopened cause
  have hread : ∀ (σ : Type) (consumer : Consumer σ) (state : σ),
      read consumer state ((ofBytes bytes).failingAfter count cause) =
        (.error cause, (read consumer state (ofBytes front)).2) := by
    intro σ consumer state
    rw [read, hlines]
    rfl
  refine ⟨front, hsplit ▸ ByteSource.isClosedPart_append hfront hopened,
    ByteSource.delivers_iff.2 ⟨hlines.symm, rfl⟩, fun σ consumer state => ?_, ?_, fun table => ?_⟩
  · refine ⟨_, _, read_ofBytes consumer state front, hread σ consumer state, ?_⟩
    rw [calls_eq_callsOf, calls_eq_callsOf, hlines]
  · rw [SymbolTable.ofSource, SymbolTable.load, hread]
  · exact hread SymbolTable SymbolTable.consumer table

end Deobfuscation.SymbolMap
