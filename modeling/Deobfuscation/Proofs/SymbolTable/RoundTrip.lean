import Mathlib.Data.List.Nodup
import Deobfuscation.Proofs.SymbolMap.ClearNames

/-!
# Symbols through a symbol map

Symbols that are written down as a symbol map and read into a table are found again: none is
lost, none is made up, and they stay in the order of the file.  Classes may share a plain name,
and members an obfuscated one; then the symbols of all of them come together, each once.

* `storedFields`, `storedMethods` — the symbols that blocks tell for a member, in file order;
* `storedFieldFrames`, `storedMethodFrames`, `orClass` — the frames that they give;
* `filterMap_field?`, `filterMap_method?`, `plainClass_logOf` — **proved**: what the log of a
  symbol map tells;
* `resolve_ofSource` — **proved**: a frame resolves to the stored symbols that agree with it, or
  to its class alone.
-/

namespace Deobfuscation.SymbolTable

open SymbolMap

/-! ### Stored symbols -/

/-- The symbol that a line stores for an obfuscated field, below a class. -/
def fieldOfLine? (owner name : String) : MemberLine → Option FieldSymbol
  | .field entry =>
    if entry.obfuscated = name then
      some ⟨entry.declaringClass.getD owner, entry.type, entry.plain⟩
    else none
  | .method _ => none

/-- The symbol that a line stores for an obfuscated method, below a class. -/
def methodOfLine? (owner name : String) : MemberLine → Option MethodSymbol
  | .field _ => none
  | .method line =>
    if line.obfuscated = name then
      some ⟨line.declaringClass.getD owner, line.type, line.plain, line.arguments, line.lines⟩
    else none

/-- What the members of all blocks of a plain class store, in the order of the file. -/
def stored {α : Type} (ofLine? : MemberLine → Option α) (blocks : List Block) (owner : String) :
    List α :=
  (blocks.filter (·.header.plain = owner)).flatMap fun block => block.members.filterMap ofLine?

/-- The fields stored for an obfuscated name below a plain class. -/
def storedFields (blocks : List Block) (owner name : String) : List FieldSymbol :=
  stored (fieldOfLine? owner name) blocks owner

/-- The methods stored for an obfuscated name below a plain class. -/
def storedMethods (blocks : List Block) (owner name : String) : List MethodSymbol :=
  stored (methodOfLine? owner name) blocks owner

/-- One frame for each distinct stored field, in the order of the file. -/
def storedFieldFrames (blocks : List Block) (owner name : String) (line : LineNumber) :
    List StackFrame :=
  (storedFields blocks owner name).eraseDups.map fun symbol =>
    { className := symbol.declaringClass
      sourceFile := ClassName.sourceFile symbol.declaringClass
      line := line
      type := symbol.type
      field := symbol.name
      method := ""
      arguments := "" }

/-- One frame for each distinct stored method whose range accepts a line, in the order of the
file. -/
def storedMethodFrames (blocks : List Block) (owner name : String) (line : LineNumber) :
    List StackFrame :=
  let accepted := (storedMethods blocks owner name).filter fun symbol =>
    line = 0 ∨ symbol.lines.last = 0 ∨ symbol.lines.first ≤ line ∧ line ≤ symbol.lines.last
  accepted.eraseDups.map fun symbol =>
    { className := symbol.declaringClass
      sourceFile := ClassName.sourceFile symbol.declaringClass
      line := symbol.lines.plainLine line
      type := symbol.type
      field := ""
      method := symbol.name
      arguments := symbol.arguments }

/-- Frames of members or, where there are none, a frame whose class alone is resolved. -/
def orClass (owner : String) (frame : StackFrame) (members : List StackFrame) : List StackFrame :=
  if members = [] then
    [{ frame with
       className := owner
       sourceFile :=
         if frame.sourceFile = "" then ClassName.sourceFile owner else frame.sourceFile }]
  else members

/-! ### The log of a symbol map -/

section Log

variable {blocks : List Block}

/-- What a log tells of a member is what the blocks store, if it is so line by line. -/
theorem filterMap_logOf {α : Type} {tell : Call → Option α} {ofLine? : MemberLine → Option α}
    {owner : String} (hheader : ∀ header, tell (.ofClass header) = none)
    (hmember : ∀ member : MemberLine, tell (member.call owner) = ofLine? member)
    (hother : ∀ (member : MemberLine) (other : String), other ≠ owner →
      tell (member.call other) = none) (blocks : List Block) :
    (logOf blocks).filterMap tell = stored ofLine? blocks owner := by
  induction blocks with
  | nil => rfl
  | cons block blocks ih =>
    have hblock : block.calls.filterMap tell =
        block.members.filterMap fun member => tell (member.call block.header.plain) := by
      rw [Block.calls, List.filterMap_cons_none (hheader _), List.filterMap_map]
      rfl
    rw [logOf, List.flatMap_cons, List.filterMap_append, hblock, ← logOf, ih, stored, stored]
    by_cases howner : block.header.plain = owner
    · rw [List.filter_cons_of_pos (by simpa using howner), List.flatMap_cons, howner]
      simp only [hmember]
    · rw [List.filter_cons_of_neg (by simpa using howner)]
      have hnone : (block.members.filterMap fun member =>
          tell (member.call block.header.plain)) = [] :=
        List.filterMap_eq_nil_iff.2 fun member _ => hother member _ howner
      rw [hnone, List.nil_append]

/-- **The log tells the stored fields.** -/
theorem filterMap_field? (blocks : List Block) (owner name : String) :
    (logOf blocks).filterMap (Call.field? ⟨owner, name⟩) = storedFields blocks owner name := by
  refine filterMap_logOf (fun _ => rfl) (fun member => ?_) (fun member other hother => ?_) blocks
  · cases member with
    | field entry => simp [MemberLine.call, Call.field?, fieldOfLine?, FieldSymbol.ofEntry]
    | method line => rfl
  · cases member with
    | field entry => simp [MemberLine.call, Call.field?, hother]
    | method line => rfl

/-- **The log tells the stored methods.** -/
theorem filterMap_method? (blocks : List Block) (owner name : String) :
    (logOf blocks).filterMap (Call.method? ⟨owner, name⟩) = storedMethods blocks owner name := by
  refine filterMap_logOf (fun _ => rfl) (fun member => ?_) (fun member other hother => ?_) blocks
  · cases member with
    | field entry => rfl
    | method line =>
      simp [MemberLine.call, Call.method?, methodOfLine?, MethodSymbol.ofEntry, MethodLine.entry]
  · cases member with
    | field entry => rfl
    | method line => simp [MemberLine.call, Call.method?, hother]

/-- The plain names that the log tells for a class are those of its blocks. -/
theorem mem_filterMap_plainClass? {name plain : String} :
    plain ∈ (logOf blocks).filterMap (Call.plainClass? name) ↔
      ∃ block ∈ blocks, block.header.obfuscated = name ∧ block.header.plain = plain := by
  constructor
  · intro hmem
    obtain ⟨call, hcall, htell⟩ := List.mem_filterMap.1 hmem
    obtain ⟨block, hblock, hin⟩ := List.mem_flatMap.1 hcall
    rcases List.mem_cons.1 hin with rfl | hmember
    · rw [Call.plainClass?] at htell
      split at htell
      · exact ⟨block, hblock, ‹_›, Option.some.inj htell⟩
      · exact absurd htell (by simp)
    · obtain ⟨member, -, rfl⟩ := List.mem_map.1 hmember
      cases member <;> exact absurd htell (by simp [MemberLine.call, Call.plainClass?])
  · rintro ⟨block, hblock, hname, hplain⟩
    refine List.mem_filterMap.2 ⟨.ofClass block.header, ?_, ?_⟩
    · exact List.mem_flatMap.2 ⟨block, hblock, List.mem_cons_self⟩
    · rw [Call.plainClass?, if_pos hname, hplain]

/-- **The class of a block is resolved to its plain name.** -/
theorem plainClass_logOf (hdistinct : (blocks.map (·.header.obfuscated)).Nodup) {block : Block}
    (hblock : block ∈ blocks) :
    (logOf blocks).plainClass block.header.obfuscated = block.header.plain := by
  have hmem : block.header.plain ∈
      (logOf blocks).filterMap (Call.plainClass? block.header.obfuscated) :=
    mem_filterMap_plainClass?.2 ⟨block, hblock, rfl, rfl⟩
  have hlast := List.getLast?_eq_some_getLast (List.ne_nil_of_mem hmem)
  obtain ⟨other, hother, hname, hplain⟩ :=
    mem_filterMap_plainClass?.1 (List.mem_of_getLast? hlast)
  have hsame : other = block := List.inj_on_of_nodup_map hdistinct hother hblock hname
  rw [CallLog.plainClass, hlast, Option.getD_some, ← hplain, hsame]

/-- A name of no block is plain. -/
theorem plainClass_logOf_of_forall {name : String}
    (h : ∀ block ∈ blocks, block.header.obfuscated ≠ name) :
    (logOf blocks).plainClass name = name := by
  have hnone : (logOf blocks).filterMap (Call.plainClass? name) = [] := by
    refine List.eq_nil_iff_forall_not_mem.2 fun plain hmem => ?_
    obtain ⟨block, hblock, hname, -⟩ := mem_filterMap_plainClass?.1 hmem
    exact h block hblock hname
  rw [CallLog.plainClass, hnone, List.getLast?_nil, Option.getD_none]

end Log

/-! ### Empty names -/

section Clear

variable {blocks : List Block} (hclear : ∀ block ∈ blocks, block.IsClear)

/-- Nothing is stored where no line stores anything. -/
theorem stored_eq_nil {α : Type} {ofLine? : MemberLine → Option α}
    (h : ∀ block ∈ blocks, ∀ member ∈ block.members, ofLine? member = none) (owner : String) :
    stored ofLine? blocks owner = [] := by
  refine List.flatMap_eq_nil_iff.2 fun block hblock => List.filterMap_eq_nil_iff.2 ?_
  exact h block (List.mem_filter.1 hblock).1

include hclear

/-- Nothing is stored for the empty name. -/
theorem storedFields_nil (owner : String) : storedFields blocks owner "" = [] := by
  refine stored_eq_nil (fun block hblock member hmember => ?_) owner
  cases (hclear block hblock).members member hmember with
  | field h => exact if_neg fun hempty => h.clear_obfuscated.word.ne_nil (by rw [hempty]; rfl)
  | method _ _ => rfl

theorem storedMethods_nil (owner : String) : storedMethods blocks owner "" = [] := by
  refine stored_eq_nil (fun block hblock member hmember => ?_) owner
  cases (hclear block hblock).members member hmember with
  | field _ => rfl
  | method h _ => exact if_neg fun hempty => h.clear_obfuscated.word.ne_nil (by rw [hempty]; rfl)

/-- A frame that tells no type asks for none. -/
theorem plainType_nil : (logOf blocks).plainType "" = "" := by
  have hplain : (logOf blocks).plainClass "" = "" :=
    plainClass_logOf_of_forall fun block hblock hempty =>
      (hclear block hblock).obfuscated.word.ne_nil (by rw [hempty]; rfl)
  exact congrArg (· ++ "") hplain

theorem plainArguments_nil : (logOf blocks).plainArguments "" = "" := by
  have htype : (logOf blocks).plainType (String.ofList (Text.trim [])) = "" := plainType_nil hclear
  show String.ofList (List.intercalate [',']
    [((logOf blocks).plainType (String.ofList (Text.trim []))).toList]) = ""
  rw [htype]
  rfl

end Clear

/-! ### Resolving stored symbols -/

section Resolve

variable {blocks : List Block} (hclear : ∀ block ∈ blocks, block.IsClear)
  (hdistinct : (blocks.map (·.header.obfuscated)).Nodup) {block : Block} (hblock : block ∈ blocks)

include hclear hdistinct hblock

/-- A frame of a method is resolved to the stored methods that accept its line. -/
theorem resolve_logOf_method (name file : String) (line : LineNumber) :
    (logOf blocks).resolve ⟨block.header.obfuscated, file, line, "", "", name, ""⟩ =
      orClass block.header.plain ⟨block.header.obfuscated, file, line, "", "", name, ""⟩
        (storedMethodFrames blocks block.header.plain name line) := by
  have hfields : (logOf blocks).fieldFrames
      ⟨block.header.obfuscated, file, line, "", "", name, ""⟩ = [] := by
    rw [CallLog.fieldFrames]
    dsimp only
    rw [filterMap_field?, storedFields_nil hclear]
    rfl
  have hmethods : (logOf blocks).methodFrames
      ⟨block.header.obfuscated, file, line, "", "", name, ""⟩ =
        storedMethodFrames blocks block.header.plain name line := by
    rw [CallLog.methodFrames]
    dsimp only
    rw [plainClass_logOf hdistinct hblock, filterMap_method?, plainType_nil hclear,
      plainArguments_nil hclear, storedMethodFrames]
    simp only [true_or, and_true]
  rw [CallLog.resolve, hfields, hmethods, List.nil_append]
  dsimp only
  rw [plainClass_logOf hdistinct hblock, orClass]

/-- A frame of a field is resolved to the stored fields. -/
theorem resolve_logOf_field (name file : String) (line : LineNumber) :
    (logOf blocks).resolve ⟨block.header.obfuscated, file, line, "", name, "", ""⟩ =
      orClass block.header.plain ⟨block.header.obfuscated, file, line, "", name, "", ""⟩
        (storedFieldFrames blocks block.header.plain name line) := by
  have hfields : (logOf blocks).fieldFrames
      ⟨block.header.obfuscated, file, line, "", name, "", ""⟩ =
        storedFieldFrames blocks block.header.plain name line := by
    rw [CallLog.fieldFrames]
    dsimp only
    rw [plainClass_logOf hdistinct hblock, filterMap_field?, plainType_nil hclear,
      storedFieldFrames]
    simp only [true_or, decide_true, List.filter_true]
  have hmethods : (logOf blocks).methodFrames
      ⟨block.header.obfuscated, file, line, "", name, "", ""⟩ = [] := by
    rw [CallLog.methodFrames]
    dsimp only
    rw [filterMap_method?, storedMethods_nil hclear]
    rfl
  rw [CallLog.resolve, hfields, hmethods, List.append_nil]
  dsimp only
  rw [plainClass_logOf hdistinct hblock, orClass]

end Resolve

/-- **A symbol map survives the way through a table.**  A frame of a method is resolved to one
frame for each distinct method that is stored for it and accepts its line, a frame of a field to
one for each distinct field, in the order of the file; and only where there is none, to the class
alone. -/
theorem resolve_ofSource {indent : List Char} (hindent : ∀ c ∈ indent, c = ' ' ∨ c = '\t')
    {blocks : List Block} (hclear : ∀ block ∈ blocks, block.IsClear)
    (hdistinct : (blocks.map (·.header.obfuscated)).Nodup) :
    ∃ table, SymbolTable.ofSource (.ofBytes (Utf8.encode (fileText indent blocks))) = .ok table ∧
      ∀ block ∈ blocks, ∀ (name file : String) (line : LineNumber),
        table.resolve ⟨block.header.obfuscated, file, line, "", "", name, ""⟩ =
          orClass block.header.plain ⟨block.header.obfuscated, file, line, "", "", name, ""⟩
            (storedMethodFrames blocks block.header.plain name line) ∧
        table.resolve ⟨block.header.obfuscated, file, line, "", name, "", ""⟩ =
          orClass block.header.plain ⟨block.header.obfuscated, file, line, "", name, "", ""⟩
            (storedFieldFrames blocks block.header.plain name line) := by
  have hread := ofSource_fileText hindent fun block hblock => (hclear block hblock).wellFormed
  refine ⟨ofLog (logOf blocks), hread, fun block hblock name file line => ⟨?_, ?_⟩⟩
  · rw [(reflects_ofLog (logOf blocks)).resolve]
    exact resolve_logOf_method hclear hdistinct hblock name file line
  · rw [(reflects_ofLog (logOf blocks)).resolve]
    exact resolve_logOf_field hclear hdistinct hblock name file line

/-- Two classes of one plain name, whose methods share an obfuscated name. -/
def twins : List Block :=
  [⟨⟨"p.A", "a"⟩,
    [.method ⟨some (1, 3), "void", none, "f", "int", .range 11 13, "m"⟩,
      .field ⟨"int", "x", "m", none⟩]⟩,
   ⟨⟨"p.A", "b"⟩, [.method ⟨some (4, 6), "void", some "q.B", "g", "", .line 20, "m"⟩]⟩]

theorem resolve_ofSource_twins :
    (∀ c ∈ [' ', ' '], c = ' ' ∨ c = '\t') ∧ (∀ block ∈ twins, block.IsClear) ∧
      (twins.map (·.header.obfuscated)).Nodup ∧
      ∃ table, SymbolTable.ofSource
          (.ofBytes (Utf8.encode (fileText [' ', ' '] twins))) = .ok table ∧
        table.resolve ⟨"a", "", 2, "", "", "m", ""⟩ =
          [⟨"p.A", "A.java", 12, "void", "", "f", "int"⟩] ∧
        table.resolve ⟨"b", "", 0, "", "", "m", ""⟩ =
          [⟨"p.A", "A.java", 11, "void", "", "f", "int"⟩,
            ⟨"q.B", "B.java", 20, "void", "", "g", ""⟩] ∧
        table.resolve ⟨"b", "", 5, "", "m", "", ""⟩ =
          [⟨"p.A", "A.java", 5, "int", "x", "", ""⟩] := by
  have hindent : ∀ c ∈ [' ', ' '], c = ' ' ∨ c = '\t' := by simp
  have hclear : ∀ block ∈ twins, block.IsClear := by decide
  have hdistinct : (twins.map (·.header.obfuscated)).Nodup := by decide
  obtain ⟨table, hread, hresolve⟩ := resolve_ofSource hindent hclear hdistinct
  refine ⟨hindent, hclear, hdistinct, table, hread, ?_, ?_, ?_⟩
  · exact (hresolve (twins[0]) (by decide) "m" "" 2).1.trans (by decide)
  · exact (hresolve (twins[1]) (by decide) "m" "" 0).1.trans (by decide)
  · exact (hresolve (twins[1]) (by decide) "m" "" 5).2.trans (by decide)

/-- A class whose only method claims the first three lines. -/
def threeLines : List Block :=
  [⟨⟨"A", "a"⟩, [.method ⟨some (1, 3), "void", none, "f", "", .range 1 3, "b"⟩]⟩]

/-- **A frame whose line no method accepts is not lost**: where nothing is stored for it, its
class is still resolved. -/
theorem resolve_ofSource_outside :
    (∀ block ∈ threeLines, block.IsClear) ∧ (threeLines.map (·.header.obfuscated)).Nodup ∧
      ∃ table, SymbolTable.ofSource
          (.ofBytes (Utf8.encode (fileText [' ', ' ', ' ', ' '] threeLines))) = .ok table ∧
        table.resolve ⟨"a", "", 7, "", "", "b", ""⟩ = [⟨"A", "A.java", 7, "", "", "b", ""⟩] ∧
        table.resolve ⟨"a", "", 7, "", "", "b", ""⟩ ≠ storedMethodFrames threeLines "A" "b" 7 := by
  have hclear : ∀ block ∈ threeLines, block.IsClear := by decide
  have hdistinct : (threeLines.map (·.header.obfuscated)).Nodup := by decide
  have hindent : ∀ c ∈ [' ', ' ', ' ', ' '], c = ' ' ∨ c = '\t' := by simp
  have hread := ofSource_fileText hindent fun block hblock => (hclear block hblock).wellFormed
  have hresolve : (ofLog (logOf threeLines)).resolve ⟨"a", "", 7, "", "", "b", ""⟩ =
      [⟨"A", "A.java", 7, "", "", "b", ""⟩] := by
    rw [(reflects_ofLog (logOf threeLines)).resolve]
    have hblock : threeLines[0] ∈ threeLines := by decide
    exact (resolve_logOf_method hclear hdistinct hblock "b" "" 7).trans (by decide)
  refine ⟨hclear, hdistinct, ofLog (logOf threeLines), hread, hresolve, ?_⟩
  rw [hresolve]
  decide

end Deobfuscation.SymbolTable
