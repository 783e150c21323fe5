import Deobfuscation.Proofs.ByteSource
import Deobfuscation.Proofs.SymbolMap.Rendering
import Deobfuscation.Proofs.SymbolTable.CallLog

/-!
# Symbol maps made of blocks

A symbol map is written block by block: the line of a class, and below it the lines of its
members.  Reading such a map into a table makes one call for each line, in order, each member for
the class of its block, and reports nothing.

* `MemberLine`, `Block`, `fileText` — blocks, and the text of a symbol map;
* `Block.calls`, `logOf` — the calls that a map tells;
* `next_member`, `next_header`, `readLines_members`, `readLines_blocks` — **proved**: what a line
  makes of a reading, and from it what all lines make of it;
* `ofSource_fileText` — **proved**: the table of a written map is the table of its calls.
-/

namespace Deobfuscation.SymbolMap

open SymbolTable (Call CallLog)

/-! ### Blocks -/

/-- A line below the line of a class. -/
inductive MemberLine where
  | field (entry : FieldEntry)
  | method (line : MethodLine)
  deriving DecidableEq, Repr

namespace MemberLine

/-- The line as it is written. -/
def text : MemberLine → List Char
  | field entry => entry.text
  | method line => line.text

/-- The entry that the line tells. -/
def entry : MemberLine → Entry
  | field entry => .ofField entry
  | method line => .ofMethod line.entry

/-- The call that the line leads to below the line of a class. -/
def call (owner : String) : MemberLine → Call
  | field entry => .ofField owner entry
  | method line => .ofMethod owner line.entry

/-- The line is read as its entry, and it is one line. -/
inductive WellFormed : MemberLine → Prop
  | field {entry : FieldEntry} : entry.WellFormed → '\n' ∉ entry.text → WellFormed (field entry)
  | method {line : MethodLine} : line.WellFormed → '\n' ∉ line.text → WellFormed (method line)

end MemberLine

/-- A class and its members. -/
structure Block where
  header : ClassEntry
  members : List MemberLine
  deriving DecidableEq, Repr

namespace Block

/-- The lines of a block, those of the members after an indent. -/
def lines (indent : List Char) (block : Block) : List (List Char) :=
  block.header.text :: block.members.map fun member => indent ++ member.text

/-- The calls that a block leads to. -/
def calls (block : Block) : CallLog :=
  .ofClass block.header :: block.members.map (MemberLine.call block.header.plain)

/-- Each line is read as its entry. -/
structure WellFormed (block : Block) : Prop where
  header : block.header.WellFormed
  header_line : '\n' ∉ block.header.text
  members : ∀ member ∈ block.members, member.WellFormed

end Block

/-- The text of a symbol map. -/
def fileText (indent : List Char) (blocks : List Block) : List Char :=
  ByteSource.closedLines (blocks.flatMap (·.lines indent))

/-- The calls that a symbol map tells. -/
def logOf (blocks : List Block) : CallLog := blocks.flatMap Block.calls

/-! ### Lines -/

section Lines

variable {indent : List Char}

/-- The mark behind a line is blank. -/
theorem isBlank_mark : ∀ c ∈ ['\n'], Text.isBlank c = true :=
  List.forall_mem_singleton.2 (by decide)

/-- Encoded text is read as text. -/
theorem ofBytes_encode (s : List Char) : Entry.ofBytes (Utf8.encode s) = Entry.ofText s := by
  rw [Entry.ofBytes, Utf8.decode_encode]

/-- A member's line is read as its entry. -/
theorem ofBytes_member (hindent : ∀ c ∈ indent, Text.isBlank c = true) {member : MemberLine}
    (h : member.WellFormed) :
    Entry.ofBytes (Utf8.encode (indent ++ member.text ++ ['\n'])) = .ok (some member.entry) := by
  rw [ofBytes_encode]
  cases h with
  | field hentry _ => exact ofText_field hentry hindent isBlank_mark
  | method hline _ => exact ofText_method hline hindent isBlank_mark

/-- A class's line is read as its entry. -/
theorem ofBytes_header {header : ClassEntry} (h : header.WellFormed) :
    Entry.ofBytes (Utf8.encode (header.text ++ ['\n'])) = .ok (some (.ofClass header)) := by
  have hnone : ∀ c ∈ ([] : List Char), Text.isBlank c = true := by simp
  have htext := ofText_class h hnone isBlank_mark
  rw [List.nil_append] at htext
  rw [ofBytes_encode, htext]

/-- **A member's line makes one call**, for the class that is open. -/
theorem next_member (hindent : ∀ c ∈ indent, Text.isBlank c = true) {member : MemberLine}
    (h : member.WellFormed) {reading : Reading SymbolTable} {owner : String}
    (hopen : reading.openClass = some owner) :
    reading.next SymbolTable.consumer (Utf8.encode (indent ++ member.text ++ ['\n'])) =
      { reading with
        state := (member.call owner).apply reading.state
        linesRead := reading.linesRead + 1 } := by
  rw [Reading.next, ofBytes_member hindent h]
  cases member with
  | field entry =>
    simp only [MemberLine.entry, Reading.consume, hopen]
    rfl
  | method line =>
    simp only [MemberLine.entry, Reading.consume, hopen]
    rfl

/-- **A class's line makes one call** and opens the class. -/
theorem next_header {header : ClassEntry} (h : header.WellFormed) (reading : Reading SymbolTable) :
    reading.next SymbolTable.consumer (Utf8.encode (header.text ++ ['\n'])) =
      { reading with
        state := (Call.ofClass header).apply reading.state
        openClass := some header.plain
        linesRead := reading.linesRead + 1 } := by
  rw [Reading.next, ofBytes_header h]
  rfl

/-! ### Blocks and files -/

/-- The lines of members make their calls and report nothing, and the class stays open. -/
theorem readLines_members (hindent : ∀ c ∈ indent, Text.isBlank c = true)
    {members : List MemberLine} (h : ∀ member ∈ members, member.WellFormed) :
    ∀ (reading : Reading SymbolTable) (owner : String), reading.openClass = some owner →
      let last := readLines SymbolTable.consumer reading
        (members.map fun member => Utf8.encode (indent ++ member.text ++ ['\n']))
      last.state = (members.map (MemberLine.call owner)).foldl Call.apply reading.state ∧
        last.reports = reading.reports := by
  induction members with
  | nil => exact fun _ _ _ => ⟨rfl, rfl⟩
  | cons member members ih =>
    intro reading owner hopen
    have hnext := next_member hindent (h member List.mem_cons_self) hopen
    have hrest := ih (fun other hmem => h other (List.mem_cons_of_mem member hmem))
      (reading.next SymbolTable.consumer (Utf8.encode (indent ++ member.text ++ ['\n']))) owner
      (by rw [hnext]; exact hopen)
    rw [List.map_cons, readLines, List.foldl_cons, List.map_cons, List.foldl_cons]
    obtain ⟨hstate, hreports⟩ := hrest
    refine ⟨hstate.trans ?_, hreports.trans ?_⟩
    · rw [hnext]
    · rw [hnext]

/-- The lines of the first block come first. -/
theorem encoded_lines_cons (block : Block) (blocks : List Block) :
    ((block :: blocks).flatMap (·.lines indent)).map
        (fun line => Utf8.encode (line ++ ['\n'])) =
      Utf8.encode (block.header.text ++ ['\n']) ::
        (block.members.map (fun member => Utf8.encode (indent ++ member.text ++ ['\n'])) ++
          (blocks.flatMap (·.lines indent)).map fun line => Utf8.encode (line ++ ['\n'])) := by
  rw [List.flatMap_cons, Block.lines, List.cons_append, List.map_cons, List.map_append,
    List.map_map]
  rfl

/-- The calls of the first block are made first. -/
theorem foldl_logOf_cons (block : Block) (blocks : List Block) (table : SymbolTable) :
    (logOf (block :: blocks)).foldl Call.apply table =
      (logOf blocks).foldl Call.apply
        ((block.members.map (MemberLine.call block.header.plain)).foldl Call.apply
          ((Call.ofClass block.header).apply table)) := by
  rw [logOf, List.flatMap_cons, List.foldl_append, Block.calls, List.foldl_cons]
  rfl

/-- The lines of blocks make their calls and report nothing. -/
theorem readLines_blocks (hindent : ∀ c ∈ indent, Text.isBlank c = true) {blocks : List Block}
    (h : ∀ block ∈ blocks, block.WellFormed) :
    ∀ reading : Reading SymbolTable,
      let last := readLines SymbolTable.consumer reading
        ((blocks.flatMap (·.lines indent)).map fun line => Utf8.encode (line ++ ['\n']))
      last.state = (logOf blocks).foldl Call.apply reading.state ∧
        last.reports = reading.reports := by
  induction blocks with
  | nil => exact fun _ => ⟨rfl, rfl⟩
  | cons block blocks ih =>
    intro reading
    have hblock := h block List.mem_cons_self
    have hopened := next_header hblock.header reading
    have hmembers := readLines_members hindent hblock.members
      (reading.next SymbolTable.consumer (Utf8.encode (block.header.text ++ ['\n'])))
      block.header.plain (by rw [hopened])
    have hrest := ih (fun other hmem => h other (List.mem_cons_of_mem block hmem))
      (readLines SymbolTable.consumer
        (reading.next SymbolTable.consumer (Utf8.encode (block.header.text ++ ['\n'])))
        (block.members.map fun member => Utf8.encode (indent ++ member.text ++ ['\n'])))
    have hfirst : ∀ line lines, readLines SymbolTable.consumer reading (line :: lines) =
        readLines SymbolTable.consumer (reading.next SymbolTable.consumer line) lines :=
      fun _ _ => rfl
    rw [encoded_lines_cons, foldl_logOf_cons, hfirst, readLines_append]
    obtain ⟨hstate, hreports⟩ := hmembers
    obtain ⟨hstate', hreports'⟩ := hrest
    refine ⟨hstate'.trans ?_, hreports'.trans (hreports.trans ?_)⟩
    · rw [hstate, hopened]
    · rw [hopened]

/-- **The table of a written symbol map is the table of its calls.** -/
theorem ofSource_fileText (hindent : ∀ c ∈ indent, c = ' ' ∨ c = '\t') {blocks : List Block}
    (h : ∀ block ∈ blocks, block.WellFormed) :
    SymbolTable.ofSource (.ofBytes (Utf8.encode (fileText indent blocks))) =
      .ok (SymbolTable.ofLog (logOf blocks)) := by
  have hblank : ∀ c ∈ indent, Text.isBlank c = true := by
    intro c hc
    rcases hindent c hc with rfl | rfl <;> decide
  have hnewline : '\n' ∉ indent := by
    intro hmem
    rcases hindent _ hmem with heq | heq
    · revert heq
      decide
    · revert heq
      decide
  have hlines : ∀ line ∈ blocks.flatMap (·.lines indent), '\n' ∉ line := by
    intro line hline
    obtain ⟨block, hblock, hmem⟩ := List.mem_flatMap.1 hline
    rcases List.mem_cons.1 hmem with rfl | hmember
    · exact (h block hblock).header_line
    · obtain ⟨member, hin, rfl⟩ := List.mem_map.1 hmember
      rw [List.mem_append, not_or]
      refine ⟨hnewline, ?_⟩
      cases (h block hblock).members member hin with
      | field _ hnot => exact hnot
      | method _ hnot => exact hnot
  have hread := (readLines_blocks hblank h (.initial SymbolTable.empty)).1
  rw [SymbolTable.ofSource, SymbolTable.load, read, fileText, ByteSource.lines_encode hlines]
  dsimp only [ByteSource.ofBytes]
  rw [hread]
  rfl

end Lines

end Deobfuscation.SymbolMap
