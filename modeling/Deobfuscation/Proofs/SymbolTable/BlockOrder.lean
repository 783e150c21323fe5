import Deobfuscation.Proofs.SymbolMap.Parts
import Deobfuscation.Proofs.SymbolTable.Reloading

/-!
# The order of the blocks of a symbol map

A symbol map is made of blocks: a class entry, and the lines below it up to the next header.  What a
block tells is told for its class alone, so blocks of different classes may stand in any order; the
order of the lines within a block still counts.

* `ClassBlock` — a class entry and the lines below it, none of which is a header;
* `ClassBlock.calls`, `readLines_block` — the calls of a block, and **proved**: these are made,
  wherever the block stands;
* `ofSource_blocks` — **proved**: the table of blocks is that of their calls, one block after the
  other;
* `flatMap_perm` — **proved**: what at most one of any two elements tells does not depend on their
  order;
* `ofSource_perm` — **proved**: neither does what a table of blocks of different classes answers.
-/

namespace Deobfuscation.SymbolTable

open ByteSource (ofBytes InWholeLines)
open SymbolMap (ClassEntry Entry Reading isHeaderLine readLines)

/-! ### Blocks -/

/-- The bytes of a class entry and of the lines below it, none of which is a header. -/
structure ClassBlock where
  bytes : List UInt8
  entry : ClassEntry
  header : List UInt8
  below : List (List UInt8)
  whole : InWholeLines bytes
  lines_eq : (ofBytes bytes).lines = header :: below
  opens : Entry.ofBytes header = .ok (some (.ofClass entry))
  noHeader : ∀ raw ∈ below, isHeaderLine raw = false

namespace ClassBlock

/-- The calls that the lines of a block lead to. -/
def calls (block : ClassBlock) : CallLog :=
  .ofClass block.entry ::
    block.below.flatMap (Reading.nextCalls ⟨(), some block.entry.plain, 0, []⟩)

/-- The text of blocks, one after the other. -/
def fileBytes (blocks : List ClassBlock) : List UInt8 := blocks.flatMap bytes

end ClassBlock

/-! ### What a block is read as -/

/-- A line changes a table by the calls that it leads to. -/
theorem state_next (reading : Reading SymbolTable) (raw : List UInt8) :
    (reading.next consumer raw).state = (reading.nextCalls raw).foldl Call.apply reading.state :=
  congrArg Reading.state (reading.next_withTable reading.state raw)

/-- Which calls a line leads to is a matter of the open class alone. -/
theorem nextCalls_congr {σ τ : Type} {reading : Reading σ} {other : Reading τ}
    (h : reading.openClass = other.openClass) (raw : List UInt8) :
    reading.nextCalls raw = other.nextCalls raw := by
  have hcalls : reading.callsFor = other.callsFor := by
    funext entry
    cases entry <;> simp only [Reading.callsFor, h]
  rw [Reading.nextCalls, Reading.nextCalls, hcalls]

/-- Lines that are no headers make the calls of the class that is open in front of them. -/
theorem readLines_below {owner : String} {lines : List (List UInt8)}
    (h : ∀ raw ∈ lines, isHeaderLine raw = false) {reading : Reading SymbolTable}
    (howner : reading.openClass = some owner) :
    (readLines consumer reading lines).state =
      (lines.flatMap (Reading.nextCalls ⟨(), some owner, 0, []⟩)).foldl Call.apply reading.state := by
  induction lines generalizing reading with
  | nil => rfl
  | cons raw lines ih =>
    have hopen : (reading.next consumer raw).openClass = some owner := by
      rw [SymbolMap.openClass_next, h raw List.mem_cons_self]
      exact howner
    have hrest := ih (fun other hmem => h other (List.mem_cons_of_mem raw hmem)) hopen
    have hcalls : reading.nextCalls raw = Reading.nextCalls ⟨(), some owner, 0, []⟩ raw :=
      nextCalls_congr howner raw
    rw [List.flatMap_cons, List.foldl_append, ← hcalls, ← state_next]
    exact hrest

/-- **A block makes its calls wherever it stands.** -/
theorem readLines_block (block : ClassBlock) (reading : Reading SymbolTable) :
    (readLines consumer reading (ofBytes block.bytes).lines).state =
      block.calls.foldl Call.apply reading.state := by
  have hnext : reading.next consumer block.header =
      ⟨reading.state.addClass block.entry, some block.entry.plain, reading.linesRead + 1,
        reading.reports⟩ := by
    rw [Reading.next, block.opens]
    rfl
  rw [block.lines_eq]
  show (readLines consumer (reading.next consumer block.header) block.below).state = _
  rw [readLines_below block.noHeader (by rw [hnext]), hnext]
  rfl

theorem readLines_blocks (blocks : List ClassBlock) (reading : Reading SymbolTable) :
    (readLines consumer reading (ofBytes (ClassBlock.fileBytes blocks)).lines).state =
      (blocks.flatMap ClassBlock.calls).foldl Call.apply reading.state := by
  induction blocks generalizing reading with
  | nil => rfl
  | cons block blocks ih =>
    rw [ClassBlock.fileBytes, List.flatMap_cons, SymbolMap.lines_append block.whole,
      SymbolMap.readLines_append, List.flatMap_cons, List.foldl_append, ← readLines_block]
    exact ih _

/-- **The table of blocks is that of their calls**, one block after the other. -/
theorem ofSource_blocks (blocks : List ClassBlock) :
    ofSource (ofBytes (ClassBlock.fileBytes blocks)) =
      .ok (ofLog (blocks.flatMap ClassBlock.calls)) := by
  rw [ofSource, load, SymbolMap.read_ofBytes, readLines_blocks]
  rfl

/-! ### What a block tells -/

/-- The call is for a member of the class. -/
inductive IsMemberOf (owner : String) : Call → Prop
  | field (entry : SymbolMap.FieldEntry) : IsMemberOf owner (.ofField owner entry)
  | method (entry : SymbolMap.MethodEntry) : IsMemberOf owner (.ofMethod owner entry)

theorem isMemberOf_of_mem_nextCalls {σ : Type} {reading : Reading σ} {owner : String}
    (howner : reading.openClass = some owner) {raw : List UInt8} (h : isHeaderLine raw = false)
    {call : Call} (hcall : call ∈ reading.nextCalls raw) : IsMemberOf owner call := by
  rw [Reading.nextCalls] at hcall
  cases hread : Entry.ofBytes raw with
  | error fault => simp [hread] at hcall
  | ok found =>
    cases found with
    | none => simp [hread] at hcall
    | some entry =>
      cases entry with
      | ofClass entry => exact absurd hread ((SymbolMap.ofBytes_of_not_isHeaderLine h).1 entry)
      | ofField entry =>
        simp only [hread, Reading.callsFor, howner, Option.toList_some, List.map_singleton,
          List.mem_singleton] at hcall
        exact hcall ▸ .field entry
      | ofMethod entry =>
        simp only [hread, Reading.callsFor, howner, Option.toList_some, List.map_singleton,
          List.mem_singleton] at hcall
        exact hcall ▸ .method entry

namespace ClassBlock

/-- A block tells its class, and members of it. -/
theorem calls_cases (block : ClassBlock) :
    ∀ call ∈ block.calls, call = .ofClass block.entry ∨ IsMemberOf block.entry.plain call := by
  intro call hcall
  rcases List.mem_cons.1 hcall with rfl | hbelow
  · exact .inl rfl
  · obtain ⟨raw, hraw, hmem⟩ := List.mem_flatMap.1 hbelow
    exact .inr (isMemberOf_of_mem_nextCalls rfl (block.noHeader raw hraw) hmem)

/-- A block tells nothing of other obfuscated classes. -/
theorem plainClass?_calls {block : ClassBlock} {name : String}
    (h : block.entry.obfuscated ≠ name) : block.calls.filterMap (Call.plainClass? name) = [] := by
  refine List.filterMap_eq_nil_iff.2 fun call hcall => ?_
  rcases block.calls_cases call hcall with rfl | hmember
  · exact if_neg h
  · cases hmember <;> rfl

/-- A block tells nothing of the fields of other classes. -/
theorem field?_calls {block : ClassBlock} {key : MemberKey} (h : block.entry.plain ≠ key.owner) :
    block.calls.filterMap (Call.field? key) = [] := by
  refine List.filterMap_eq_nil_iff.2 fun call hcall => ?_
  rcases block.calls_cases call hcall with rfl | hmember
  · rfl
  · cases hmember with
    | field entry => exact if_neg fun hkey => h hkey.1
    | method entry => rfl

/-- A block tells nothing of the methods of other classes. -/
theorem method?_calls {block : ClassBlock} {key : MemberKey} (h : block.entry.plain ≠ key.owner) :
    block.calls.filterMap (Call.method? key) = [] := by
  refine List.filterMap_eq_nil_iff.2 fun call hcall => ?_
  rcases block.calls_cases call hcall with rfl | hmember
  · rfl
  · cases hmember with
    | field entry => rfl
    | method entry => exact if_neg fun hkey => h hkey.1

end ClassBlock

/-! ### The order of blocks -/

/-- **What at most one of any two elements tells does not depend on their order.** -/
theorem flatMap_perm {α β : Type} {tell : α → List β} {xs ys : List α} (hperm : xs.Perm ys)
    (hone : xs.Pairwise fun x y => tell x = [] ∨ tell y = []) :
    xs.flatMap tell = ys.flatMap tell := by
  induction hperm with
  | nil => rfl
  | cons x _ ih => rw [List.flatMap_cons, List.flatMap_cons, ih hone.of_cons]
  | swap x y xs =>
    rw [List.flatMap_cons, List.flatMap_cons, List.flatMap_cons, List.flatMap_cons]
    rcases (List.pairwise_cons.1 hone).1 x List.mem_cons_self with hnone | hnone
    · rw [hnone, List.nil_append, List.nil_append]
    · rw [hnone, List.nil_append, List.nil_append]
  | trans hfirst _ ihfirst ihsecond =>
    exact (ihfirst hone).trans (ihsecond (hfirst.pairwise hone Or.symm))

/-- What blocks tell is the same in any order, if a thing is told for one name only and no two
blocks have this name. -/
theorem filterMap_calls_perm {α β : Type} {blocks others : List ClassBlock}
    (hperm : blocks.Perm others) (nameOf : ClassBlock → β) (hnames : (blocks.map nameOf).Nodup)
    (tell : Call → Option α) (name : β)
    (htell : ∀ block : ClassBlock, nameOf block ≠ name → block.calls.filterMap tell = []) :
    (blocks.flatMap ClassBlock.calls).filterMap tell =
      (others.flatMap ClassBlock.calls).filterMap tell := by
  rw [List.filterMap_flatMap, List.filterMap_flatMap]
  refine flatMap_perm hperm ((List.pairwise_map.1 hnames).imp fun {x y} hne => ?_)
  by_cases hx : nameOf x = name
  · exact .inr (htell y fun hy => hne (hx.trans hy.symm))
  · exact .inl (htell x hx)

/-- **The blocks of different classes may stand in any order**: if neither a plain nor an obfuscated
class name is told by two of them, the table answers the same in each order. -/
theorem ofSource_perm {blocks others : List ClassBlock} (hperm : blocks.Perm others)
    (hplain : (blocks.map (·.entry.plain)).Nodup)
    (hobfuscated : (blocks.map (·.entry.obfuscated)).Nodup) :
    ∃ table other, ofSource (ofBytes (ClassBlock.fileBytes blocks)) = .ok table ∧
      ofSource (ofBytes (ClassBlock.fileBytes others)) = .ok other ∧
      table.classCount = other.classCount ∧ table.memberCount = other.memberCount ∧
      (∀ name, table.plainClass name = other.plainClass name) ∧
      ∀ frame, table.resolve frame = other.resolve frame := by
  have halike : Alike (ofLog (blocks.flatMap ClassBlock.calls))
      (ofLog (others.flatMap ClassBlock.calls)) :=
    alike_ofLog
      (fun name => filterMap_calls_perm hperm _ hobfuscated _ name fun _ =>
        ClassBlock.plainClass?_calls)
      (fun key => filterMap_calls_perm hperm _ hplain _ key.owner fun _ =>
        ClassBlock.field?_calls)
      (fun key => filterMap_calls_perm hperm _ hplain _ key.owner fun _ =>
        ClassBlock.method?_calls)
      (hperm.flatMap_right _)
  exact ⟨_, _, ofSource_blocks blocks, ofSource_blocks others, halike.classCount,
    halike.memberCount, halike.plainClass, halike.resolve⟩

/-- A class with two fields of one name, a line that is at fault and one that is no text. -/
def blockWithFields : ClassBlock where
  bytes := Utf8.encode "A -> a:\n    int x -> z\nlost\n    int y -> z\n".toList ++ [0xFF, 0x0A]
  entry := ⟨"A", "a"⟩
  header := Utf8.encode "A -> a:\n".toList
  below := [Utf8.encode "    int x -> z\n".toList, Utf8.encode "lost\n".toList,
    Utf8.encode "    int y -> z\n".toList, [0xFF, 0x0A]]
  whole := by decide +kernel
  lines_eq := by decide +kernel
  opens := by decide +kernel
  noHeader := by decide +kernel

/-- A class that inherits a method of the other. -/
def blockWithMethod : ClassBlock where
  bytes := Utf8.encode "B -> b:\n    void A.f() -> z\n".toList
  entry := ⟨"B", "b"⟩
  header := Utf8.encode "B -> b:\n".toList
  below := [Utf8.encode "    void A.f() -> z\n".toList]
  whole := by decide +kernel
  lines_eq := by decide +kernel
  opens := by decide +kernel
  noHeader := by decide +kernel

theorem ofSource_perm_swapped :
    [blockWithFields, blockWithMethod].Perm [blockWithMethod, blockWithFields] ∧
      ([blockWithFields, blockWithMethod].map (·.entry.plain)).Nodup ∧
      ([blockWithFields, blockWithMethod].map (·.entry.obfuscated)).Nodup ∧
      ∃ table other,
        ofSource (ofBytes (ClassBlock.fileBytes [blockWithFields, blockWithMethod])) = .ok table ∧
        ofSource (ofBytes (ClassBlock.fileBytes [blockWithMethod, blockWithFields])) = .ok other ∧
        table.memberCount = 3 ∧ other.memberCount = 3 ∧
        ∀ frame, table.resolve frame = other.resolve frame := by
  have hperm : [blockWithFields, blockWithMethod].Perm [blockWithMethod, blockWithFields] :=
    .swap _ _ _
  have hplain : ([blockWithFields, blockWithMethod].map (·.entry.plain)).Nodup := by decide
  have hobfuscated : ([blockWithFields, blockWithMethod].map (·.entry.obfuscated)).Nodup := by
    decide
  obtain ⟨table, other, htable, hother, -, hmembers, -, hresolve⟩ :=
    ofSource_perm hperm hplain hobfuscated
  have hcount : table.memberCount = 3 := by
    obtain rfl := Except.ok.inj ((ofSource_blocks _).symm.trans htable)
    decide +kernel
  exact ⟨hperm, hplain, hobfuscated, table, other, htable, hother, hcount, hmembers ▸ hcount,
    hresolve⟩

end Deobfuscation.SymbolTable
