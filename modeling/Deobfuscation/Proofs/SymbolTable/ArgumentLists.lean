import Deobfuscation.Proofs.SymbolMap.ClassContext
import Deobfuscation.Proofs.SymbolTable.ArgumentPositions
import Deobfuscation.Proofs.SymbolTable.NamedMembers

/-!
# Lists of argument types

A frame lists the argument types of a method as it likes: the blanks around the commas are taken
away, each type is put in its plain form, and the forms are parted by commas alone.  What is put
together so is compared with the text of an entry.  But that text keeps the blanks that it was
written with.  So it depends on the entry alone whether a frame that lists the types of a method
finds it: an entry without blanks is found however the frame is written, and one with blanks is not,
even if the frame is written in the same way.

* `ListsTypes` — a text that lists types without blanks in them;
* `ListsTypes.plainArguments` — **proved**: the plain form of a list does not depend on its blanks;
* `ListsTypes.eq_intercalate_iff` — **proved**: a list is parted by commas alone exactly if it has
  no blanks;
* `ListsMethod`, `AsksFor` — a method that a source lists, and a frame that asks for its name;
* `mem_find_of_listsMethod` — **proved**: a table that is read knows the methods of its source;
* `frame_mem_resolve_iff` — **proved**: a frame finds a method if the arguments agree;
* `resolve_listsMethod` — **proved**: so a method is found exactly if its entry has no blanks.
-/

namespace Deobfuscation.SymbolTable

open Text
open SymbolMap (Entry MethodEntry Reading readLines ownerAfter)

/-! ### Lists of types -/

/-- A text lists types: they are parted by commas, and blanks may stand around them. -/
inductive ListsTypes : List Char → List (List Char) → Prop
  | one {lead type trail : List Char} : IsSpace lead → IsListed type → IsSpace trail →
    ListsTypes (lead ++ type ++ trail) [type]
  | cons {lead type trail text : List Char} {types : List (List Char)} : IsSpace lead →
    IsListed type → IsSpace trail → ListsTypes text types →
    ListsTypes (lead ++ type ++ trail ++ ',' :: text) (type :: types)

namespace ListsTypes

variable {text : List Char} {types : List (List Char)}

theorem ne_nil (h : ListsTypes text types) : types ≠ [] := by
  cases h with
  | one => exact List.cons_ne_nil _ _
  | cons => exact List.cons_ne_nil _ _

/-- Types without blanks are listed as types with blanks among them are. -/
theorem writesTypes (h : ListsTypes text types) : WritesTypes text types := by
  induction h with
  | one hlead htype htrail =>
    exact ⟨List.cons_ne_nil _ _, [_], .cons (htype.pads hlead htrail) .nil,
      List.intercalate_singleton.symm⟩
  | cons hlead htype htrail _ ih =>
    obtain ⟨written, hpads, rfl⟩ := ih.parts
    obtain ⟨next, rest, rfl⟩ := List.exists_cons_of_ne_nil (ih.written_ne_nil hpads)
    refine ⟨List.cons_ne_nil _ _, _ :: next :: rest, .cons (htype.pads hlead htrail) hpads, ?_⟩
    rw [List.intercalate_cons_cons]
    exact List.append_cons _ _ _

/-- **The plain form of a list does not depend on its blanks.** -/
theorem plainArguments (h : ListsTypes text types) (table : SymbolTable) :
    table.plainArguments text = List.intercalate [','] (types.map table.plainType) :=
  h.writesTypes.plainArguments table

/-- A further type is put in front of the others. -/
theorem intercalate_cons (h : ListsTypes text types) (type : List Char) :
    List.intercalate [','] (type :: types) = type ++ ',' :: List.intercalate [','] types := by
  obtain ⟨next, types, rfl⟩ := List.exists_cons_of_ne_nil h.ne_nil
  rw [List.intercalate_cons_cons, List.append_assoc, List.singleton_append]

/-- Types that are parted by commas alone have no blanks among them. -/
theorem not_blank_intercalate (h : ListsTypes text types) :
    ∀ c ∈ List.intercalate [','] types, isBlank c = false := by
  induction h with
  | one _ htype _ =>
    rw [List.intercalate_singleton]
    exact htype.blank
  | cons _ htype _ htypes ih =>
    rw [htypes.intercalate_cons, List.forall_mem_append, List.forall_mem_cons]
    exact ⟨htype.blank, by decide, ih⟩

/-- They are not nothing. -/
theorem intercalate_ne_nil (h : ListsTypes text types) : List.intercalate [','] types ≠ [] := by
  cases h with
  | one _ htype _ =>
    rw [List.intercalate_singleton]
    exact htype.ne_nil
  | cons _ htype _ htypes =>
    rw [htypes.intercalate_cons]
    exact List.append_ne_nil_of_left_ne_nil htype.ne_nil _

/-- **A list is parted by commas alone exactly if it has no blanks.** -/
theorem eq_intercalate_iff (h : ListsTypes text types) :
    text = List.intercalate [','] types ↔ ∀ c ∈ text, isBlank c = false := by
  refine ⟨fun heq => heq ▸ h.not_blank_intercalate, fun hblank => ?_⟩
  -- blanks without blanks are nothing
  have hnil : ∀ {s : List Char}, IsSpace s → (∀ c ∈ s, isBlank c = false) → s = [] := by
    intro s hspace hnot
    refine List.eq_nil_iff_forall_not_mem.2 fun c hc => ?_
    exact Bool.false_ne_true ((hnot c hc).symm.trans (hspace c hc))
  induction h with
  | one hlead _ htrail =>
    simp only [List.forall_mem_append] at hblank
    rw [hnil hlead hblank.1.1, hnil htrail hblank.2, List.nil_append, List.append_nil,
      List.intercalate_singleton]
  | cons hlead _ htrail htypes ih =>
    simp only [List.forall_mem_append, List.forall_mem_cons] at hblank
    rw [htypes.intercalate_cons, ← ih hblank.2.2, hnil hlead hblank.1.1.1, hnil htrail hblank.1.2,
      List.nil_append, List.append_nil]

end ListsTypes

/-! ### What a table knows -/

/-- A source lists a method of a class: a line is read as the method, and the last header in front
of it opens the class. -/
def ListsMethod (source : ByteSource) (owner : String) (entry : MethodEntry) : Prop :=
  ∃ i raw, source.lines[i]? = some raw ∧ Entry.ofBytes raw = .ok (some (.ofMethod entry)) ∧
    ownerAfter consumer .empty (source.lines.take i) = some owner

/-- A table that is read is what the lines of its source have made of the empty one. -/
theorem state_of_ofSource {source : ByteSource} {table : SymbolTable}
    (h : ofSource source = .ok table) :
    (readLines consumer (.initial empty) source.lines).state = table := by
  unfold ofSource load SymbolMap.read at h
  cases hfailure : source.failure with
  | some cause => simp [hfailure] at h
  | none =>
    rw [hfailure] at h
    exact Except.ok.inj h

/-- A method that is known stays known. -/
theorem consumer_keeps_method (key : MemberKey) (symbol : MethodSymbol) :
    consumer.Keeps (fun _ => True) fun table => symbol ∈ table.methods.find key where
  openClass _ _ _ h := h
  addField _ _ _ _ _ h := h
  addMethod _ _ _ _ _ h := mem_find_insert_of_mem h

/-- **A table that is read knows the methods that its source lists.** -/
theorem mem_find_of_listsMethod {source : ByteSource} {table : SymbolTable}
    (hload : ofSource source = .ok table) {owner : String} {entry : MethodEntry}
    (h : ListsMethod source owner entry) :
    .ofEntry owner entry ∈ table.methods.find ⟨owner, entry.obfuscated⟩ := by
  obtain ⟨i, raw, hraw, hentry, howner⟩ := h
  obtain ⟨hlength, hget⟩ := List.getElem?_eq_some_iff.1 hraw
  have hlines : source.lines = source.lines.take i ++ raw :: source.lines.drop (i + 1) := by
    rw [← hget, ← List.drop_eq_getElem_cons hlength, List.take_append_drop]
  have hopen := SymbolMap.openClass_readLines consumer .empty (source.lines.take i)
  rw [howner] at hopen
  -- the line itself adds the method, and the lines behind it keep it
  have hadded : Reading.Holds (fun _ => True)
      (fun table : SymbolTable =>
        MethodSymbol.ofEntry owner entry ∈ table.methods.find ⟨owner, entry.obfuscated⟩)
      ((readLines consumer (.initial empty) (source.lines.take i)).next consumer raw) := by
    refine ⟨?_, fun name _ => ⟨⟨name, ""⟩, trivial, rfl⟩⟩
    rw [Reading.next, hentry]
    dsimp only [Reading.consume]
    rw [hopen]
    exact mem_find_insert_self
  have hkept := (consumer_keeps_method ⟨owner, entry.obfuscated⟩
    (.ofEntry owner entry)).readLines (source.lines.drop (i + 1)) (fun _ _ _ _ => trivial) hadded
  have hall : MethodSymbol.ofEntry owner entry ∈
      (readLines consumer (.initial empty) source.lines).state.methods.find
        ⟨owner, entry.obfuscated⟩ := by
    rw [hlines, SymbolMap.readLines_append]
    exact hkept.state
  rwa [state_of_ofSource hload] at hall

/-- What an entry tells of a class and of a method is not nothing. -/
def Tells : Entry → Prop
  | .ofClass entry => entry.obfuscated ≠ ""
  | .ofField _ => True
  | .ofMethod entry => entry.type ≠ ""

theorem tells_of_ofBytes {raw : List UInt8} {entry : Entry}
    (h : Entry.ofBytes raw = .ok (some entry)) : Tells entry := by
  obtain ⟨s, -, hreads⟩ := SymbolMap.exists_reads_of_ofBytes h
  cases hreads with
  | header _ _ _ _ hobfuscated => exact SymbolMap.ofList_ne_empty hobfuscated
  | field => trivial
  | method _ _ _ _ htype _ _ => exact SymbolMap.ofList_ne_empty htype

/-- No class is known by the empty name. -/
theorem consumer_keeps_plainClass_empty :
    consumer.Keeps Tells fun table => table.plainClass "" = "" where
  openClass entry table hentry h := by
    show (table.classes.insert entry.obfuscated entry.plain).getD "" "" = ""
    rw [Std.TreeMap.getD_insert, if_neg]
    · exact h
    · rw [Std.LawfulEqCmp.compare_eq_iff_eq]
      exact hentry
  addField _ _ _ _ _ h := h
  addMethod _ _ _ _ _ h := h

/-- **A table that is read leaves the empty name as it is.** -/
theorem plainClass_empty_of_ofSource {source : ByteSource} {table : SymbolTable}
    (h : ofSource source = .ok table) : table.plainClass "" = "" := by
  have hempty : empty.plainClass "" = "" := by
    rw [plainClass, empty, Std.TreeMap.getD_emptyc]
  exact holds_of_ofSource consumer_keeps_plainClass_empty hempty
    (fun _ _ _ hentry => tells_of_ofBytes hentry) h

/-! ### What a frame finds -/

/-- A frame asks for a method of a class by its name, and tells neither a line nor a type. -/
structure AsksFor (table : SymbolTable) (owner name : String) (frame : StackFrame) : Prop where
  className : table.plainClass frame.className = owner
  method : frame.method = name
  field : frame.field = ""
  type : frame.type = ""
  line : frame.line = 0

section Resolving

variable {table : SymbolTable} {owner name : String} {symbol : MethodSymbol} {frame : StackFrame}

/-- Of the methods that a name leads to, a frame finds those whose arguments agree. -/
theorem frame_mem_methodFrames_iff (hempty : table.plainClass "" = "")
    (hknown : symbol ∈ table.methods.find ⟨owner, name⟩) (hasks : AsksFor table owner name frame) :
    symbol.frame frame ∈ table.methodFrames owner frame ↔
      admits (String.ofList (table.plainArguments frame.arguments.toList)) symbol.arguments =
        true := by
  have htype : String.ofList (table.plainType frame.type.toList) = "" := by
    rw [hasks.type]
    show String.ofList ((table.plainClass "").toList ++ []) = ""
    rw [hempty]
    rfl
  rw [methodFrames, htype, hasks.method, hasks.line]
  constructor
  · intro h
    obtain ⟨other, hother, hframe⟩ := List.mem_map.1 h
    have hagrees := (List.mem_filter.1 hother).2
    have harguments : other.arguments = symbol.arguments := congrArg StackFrame.arguments hframe
    rw [MethodSymbol.agrees, Bool.and_eq_true] at hagrees
    rw [← harguments]
    exact hagrees.2
  · intro hadmits
    refine List.mem_map.2 ⟨symbol, List.mem_filter.2 ⟨hknown, ?_⟩, rfl⟩
    rw [MethodSymbol.agrees, hadmits]
    rfl

/-- **A frame finds a method that its name leads to exactly if the arguments agree.** -/
theorem frame_mem_resolve_iff (hnames : table.KnowsNames) (hempty : table.plainClass "" = "")
    (hknown : symbol ∈ table.methods.find ⟨owner, name⟩) (htype : symbol.type ≠ "")
    (hasks : AsksFor table owner name frame) :
    symbol.frame frame ∈ table.resolve frame ↔
      admits (String.ofList (table.plainArguments frame.arguments.toList)) symbol.arguments =
        true := by
  have hfields : table.fieldFrames owner frame = [] := by
    rw [fieldFrames, hasks.field, hnames.fields]
    rfl
  rw [← frame_mem_methodFrames_iff hempty hknown hasks, resolve, hasks.className, hfields,
    List.nil_append]
  split
  · -- the frame of the class tells no type
    rename_i hnone
    rw [List.isEmpty_iff.1 hnone]
    refine iff_of_false (fun h => htype ?_) List.not_mem_nil
    have hframe := congrArg StackFrame.type (List.mem_singleton.1 h)
    exact hframe.trans hasks.type
  · exact Iff.rfl

end Resolving

/-- **A frame that lists the types of a method finds it exactly if its entry has no blanks among
them.** -/
theorem frame_mem_resolve_iff_not_blank {source : ByteSource} {table : SymbolTable}
    (hload : ofSource source = .ok table) {owner : String} {entry : MethodEntry}
    (hlists : ListsMethod source owner entry) {frame : StackFrame}
    (hasks : AsksFor table owner entry.obfuscated frame) {types : List (List Char)}
    (hentry : ListsTypes entry.arguments.toList types)
    (hframe : ListsTypes frame.arguments.toList types)
    (hplain : ∀ type ∈ types, table.plainType type = type) :
    (MethodSymbol.ofEntry owner entry).frame frame ∈ table.resolve frame ↔
      ∀ c ∈ entry.arguments.toList, isBlank c = false := by
  have htype : (MethodSymbol.ofEntry owner entry).type ≠ "" := by
    obtain ⟨i, raw, -, hread, -⟩ := hlists
    exact tells_of_ofBytes hread
  have hmap : types.map table.plainType = types :=
    (List.map_congr_left hplain).trans (List.map_id types)
  have hsome : (String.ofList (List.intercalate [','] types)).isEmpty = false := by
    rw [← Bool.not_eq_true, String.isEmpty_iff]
    exact SymbolMap.ofList_ne_empty hentry.intercalate_ne_nil
  rw [frame_mem_resolve_iff (knowsNames_of_ofSource hload) (plainClass_empty_of_ofSource hload)
    (mem_find_of_listsMethod hload hlists) htype hasks, hframe.plainArguments, hmap,
    ← hentry.eq_intercalate_iff, admits, hsome, Bool.false_or, beq_iff_eq]
  show String.ofList (List.intercalate [','] types) = entry.arguments ↔ _
  rw [← String.toList_inj, String.toList_ofList]
  exact eq_comm

/-- **Of two lists of the same types the blanks in a frame do not matter, but those in an entry
do**: whatever symbol map is read, a frame that lists the types of a method, if they are plain,
finds the method exactly if the entry has no blanks among them. -/
theorem resolve_listsMethod (bytes : List UInt8) :
    ∃ table, ofSource (.ofBytes bytes) = .ok table ∧
      ∀ {owner : String} {entry : MethodEntry} {types : List (List Char)} {frame : StackFrame},
        ListsMethod (.ofBytes bytes) owner entry → AsksFor table owner entry.obfuscated frame →
          ListsTypes entry.arguments.toList types → ListsTypes frame.arguments.toList types →
            (∀ type ∈ types, table.plainType type = type) →
              ((MethodSymbol.ofEntry owner entry).frame frame ∈ table.resolve frame ↔
                ∀ c ∈ entry.arguments.toList, isBlank c = false) :=
  ⟨_, rfl, fun hlists hasks hentry hframe hplain =>
    frame_mem_resolve_iff_not_blank rfl hlists hasks hentry hframe hplain⟩

/-- Two numbers as they are listed in an entry without blanks and in a frame with some. -/
theorem resolve_listsMethod_numbers :
    let source := ByteSource.ofBytes "A -> a:\n    void foo(int,int) -> b\n".toUTF8.toList
    let frame := { StackFrame.unknown with
      className := "a", method := "b", arguments := "int , int" }
    ∃ table, ofSource source = .ok table ∧
      { frame with
        className := "A", sourceFile := "A.java", type := "void", method := "foo",
        arguments := "int,int" } ∈ table.resolve frame := by
  intro source frame
  let entry : MethodEntry := ⟨"void", "foo", "b", none, "int,int", .unknown⟩
  obtain ⟨table, hload, h⟩ :=
    resolve_listsMethod "A -> a:\n    void foo(int,int) -> b\n".toUTF8.toList
  have hlists : ListsMethod source "A" entry :=
    ⟨1, "    void foo(int,int) -> b\n".toUTF8.toList, by decide +kernel, by decide +kernel,
      by decide +kernel⟩
  have hplain : (ofSource source).map (fun table =>
      (table.plainClass "a", table.plainType "int".toList)) = .ok ("A", "int".toList) := by
    decide +kernel
  rw [hload] at hplain
  obtain ⟨howner, htype⟩ := Prod.mk.inj (Except.ok.inj hplain)
  have hasks : AsksFor table "A" entry.obfuscated frame := ⟨howner, rfl, rfl, rfl, rfl⟩
  have hint : IsListed "int".toList := by decide
  have hnone : IsSpace [] := by decide
  have hone : IsSpace [' '] := by decide
  have hentry : ListsTypes "int,int".toList ["int".toList, "int".toList] :=
    .cons hnone hint hnone (.one hnone hint hnone)
  have hframe : ListsTypes "int , int".toList ["int".toList, "int".toList] :=
    .cons hnone hint hone (.one hone hint hnone)
  have hfound : (MethodSymbol.ofEntry "A" entry).frame frame ∈ table.resolve frame := by
    refine (h hlists hasks hentry hframe fun type hmem => ?_).2
      (hentry.eq_intercalate_iff.1 (by decide))
    obtain rfl : type = "int".toList := by simpa using hmem
    exact htype
  have hsymbol : (MethodSymbol.ofEntry "A" entry).frame frame =
      { frame with
        className := "A", sourceFile := "A.java", type := "void", method := "foo",
        arguments := "int,int" } := by
    decide +kernel
  exact ⟨table, hload, hsymbol ▸ hfound⟩

/-- **The blanks in an entry hide the method**: in this map, where some follow a comma, even a frame
whose arguments are written as those of the entry does not find it. -/
theorem resolve_listsMethod_blank :
    let source := ByteSource.ofBytes ("com.android.tools.r8.R8 -> a.a:\n" ++
      "    void foo(int) -> a\n    void bar(int, int) -> a\n").toUTF8.toList
    let owner := "com.android.tools.r8.R8"
    let entry : MethodEntry := ⟨"void", "bar", "a", none, "int, int", .unknown⟩
    let frame := { StackFrame.unknown with
      className := "a.a", method := "a", arguments := "int, int" }
    ∃ table, ofSource source = .ok table ∧ ListsMethod source owner entry ∧
      AsksFor table owner entry.obfuscated frame ∧
      ListsTypes entry.arguments.toList ["int".toList, "int".toList] ∧
      frame.arguments = entry.arguments ∧ table.plainType "int".toList = "int".toList ∧
      (MethodSymbol.ofEntry owner entry).frame frame ∉ table.resolve frame := by
  intro source owner entry frame
  obtain ⟨table, hload⟩ : ∃ table, ofSource source = .ok table := ⟨_, rfl⟩
  have hlists : ListsMethod source owner entry :=
    ⟨2, "    void bar(int, int) -> a\n".toUTF8.toList, by decide +kernel, by decide +kernel,
      by decide +kernel⟩
  have hplain : (ofSource source).map (fun table =>
      (table.plainClass "a.a", table.plainType "int".toList)) = .ok (owner, "int".toList) := by
    decide +kernel
  rw [hload] at hplain
  obtain ⟨howner, htype⟩ := Prod.mk.inj (Except.ok.inj hplain)
  have hasks : AsksFor table owner entry.obfuscated frame := ⟨howner, rfl, rfl, rfl, rfl⟩
  have hint : IsListed "int".toList := by decide
  have hnone : IsSpace [] := by decide
  have hone : IsSpace [' '] := by decide
  have hentry : ListsTypes "int, int".toList ["int".toList, "int".toList] :=
    .cons hnone hint hnone (.one hone hint hnone)
  -- the frame finds its class alone
  have hresolve : (ofSource source).map (·.resolve frame) =
      .ok [{ frame with className := owner, sourceFile := "R8.java" }] := by
    decide +kernel
  rw [hload] at hresolve
  refine ⟨table, hload, hlists, hasks, hentry, rfl, htype, ?_⟩
  have hframes : table.resolve frame =
      [{ frame with className := owner, sourceFile := "R8.java" }] := Except.ok.inj hresolve
  rw [hframes]
  decide +kernel

end Deobfuscation.SymbolTable
