import Mathlib.Data.List.Induction
import Deobfuscation.SymbolTable.Resolve

/-!
# The log of a symbol table

A symbol table is filled by calls: one for each class, field and method that an entry tells.
What the table answers is a matter of the plain list of these calls, its **log**: of the calls
for a class the last one counts, of the calls for a member each distinct symbol counts once, at
the place where it came first.

* `Call`, `CallLog`, `ofLog` — the calls, and the table that they make of the empty one;
* `CallLog.plainClass`, `CallLog.plainType`, `CallLog.plainArguments` — plain forms, read off
  the log;
* `CallLog.fieldFrames`, `CallLog.methodFrames`, `CallLog.resolve` — the frames that a frame may
  stand for, read off the log;
* `Reflects` — a table knows what a log tells: kept by every call (`Reflects.concat`), so it is
  so for every log (`reflects_ofLog`, **proved**);
* `resolve_ofLog` — **proved**: a table resolves a frame as its log tells.
-/

namespace Deobfuscation.SymbolTable

open SymbolMap (ClassEntry FieldEntry MethodEntry LineMap)

/-! ### Calls -/

/-- An entry handed to a table.  A member comes with the plain name of the class that it is
listed under. -/
inductive Call where
  | ofClass (entry : ClassEntry)
  | ofField (owner : String) (entry : FieldEntry)
  | ofMethod (owner : String) (entry : MethodEntry)
  deriving DecidableEq, Repr

namespace Call

/-- What a call does to a table. -/
def apply (table : SymbolTable) : Call → SymbolTable
  | ofClass entry => table.addClass entry
  | ofField owner entry => table.addField owner entry
  | ofMethod owner entry => table.addMethod owner entry

/-- The plain name that a call tells for an obfuscated class. -/
def plainClass? (name : String) : Call → Option String
  | ofClass entry => if entry.obfuscated = name then some entry.plain else none
  | _ => none

/-- The symbol that a call tells for an obfuscated field of a plain class. -/
def field? (key : MemberKey) : Call → Option FieldSymbol
  | ofField owner entry =>
    if owner = key.owner ∧ entry.obfuscated = key.name then some (.ofEntry owner entry) else none
  | _ => none

/-- The symbol that a call tells for an obfuscated method of a plain class. -/
def method? (key : MemberKey) : Call → Option MethodSymbol
  | ofMethod owner entry =>
    if owner = key.owner ∧ entry.obfuscated = key.name then some (.ofEntry owner entry) else none
  | _ => none

end Call

/-- The calls that filled a table, in order. -/
abbrev CallLog := List Call

/-- The table that calls make of the empty one. -/
def ofLog (log : CallLog) : SymbolTable := log.foldl Call.apply empty

/-! ### What a log tells -/

namespace CallLog

/-- The plain name of a class: that of the last call for it, or the name itself. -/
def plainClass (log : CallLog) (name : String) : String :=
  (log.filterMap (Call.plainClass? name)).getLast?.getD name

/-- The plain form of a type, whose array brackets stay as they are. -/
def plainType (log : CallLog) (type : String) : String :=
  log.plainClass (String.ofList (type.toList.takeWhile (· ≠ '['))) ++
    String.ofList (type.toList.dropWhile (· ≠ '['))

/-- The plain forms of argument types, parted by commas alone. -/
def plainArguments (log : CallLog) (arguments : String) : String :=
  String.ofList (List.intercalate [','] ((Text.splitOn ',' arguments.toList).map fun argument =>
    (log.plainType (String.ofList (Text.trim argument))).toList))

/-- The frames of the fields that a frame may stand for. -/
def fieldFrames (log : CallLog) (frame : StackFrame) : List StackFrame :=
  let told := log.filterMap (Call.field? ⟨log.plainClass frame.className, frame.field⟩)
  let type := log.plainType frame.type
  (told.filter fun symbol => type = "" ∨ symbol.type = type).eraseDups.map fun symbol =>
    { frame with
      className := symbol.declaringClass
      sourceFile := ClassName.sourceFile symbol.declaringClass
      type := symbol.type
      field := symbol.name }

/-- The frames of the methods that a frame may stand for. -/
def methodFrames (log : CallLog) (frame : StackFrame) : List StackFrame :=
  let told := log.filterMap (Call.method? ⟨log.plainClass frame.className, frame.method⟩)
  let type := log.plainType frame.type
  let arguments := log.plainArguments frame.arguments
  let agrees := fun symbol : MethodSymbol =>
    (frame.line = 0 ∨ symbol.lines.last = 0 ∨
      symbol.lines.first ≤ frame.line ∧ frame.line ≤ symbol.lines.last) ∧
    (type = "" ∨ symbol.type = type) ∧ (arguments = "" ∨ symbol.arguments = arguments)
  (told.filter fun symbol => agrees symbol).eraseDups.map fun symbol =>
    { frame with
      className := symbol.declaringClass
      sourceFile := ClassName.sourceFile symbol.declaringClass
      line := symbol.lines.plainLine frame.line
      type := symbol.type
      method := symbol.name
      arguments := symbol.arguments }

/-- The frames that a frame may stand for: those of its members or, where there are none, the
frame with its class resolved and the source file of that class unless it tells one. -/
def resolve (log : CallLog) (frame : StackFrame) : List StackFrame :=
  let owner := log.plainClass frame.className
  let members := log.fieldFrames frame ++ log.methodFrames frame
  if members = [] then
    [{ frame with
       className := owner
       sourceFile :=
         if frame.sourceFile = "" then ClassName.sourceFile owner else frame.sourceFile }]
  else members

end CallLog

/-! ### First occurrences -/

section FirstOccurrences

variable {α : Type} [DecidableEq α]

/-- A last element that is new stays where it is, a known one goes. -/
theorem eraseDups_concat (xs : List α) (x : α) :
    (xs ++ [x]).eraseDups = if x ∈ xs then xs.eraseDups else xs.eraseDups ++ [x] := by
  rw [List.eraseDups_append]
  by_cases hx : x ∈ xs
  · have hnone : [x].removeAll xs = [] := by simp [List.removeAll, hx]
    rw [if_pos hx, hnone, List.eraseDups_nil, List.append_nil]
  · have hone : [x].removeAll xs = [x] := by simp [List.removeAll, hx]
    rw [if_neg hx, hone]
    simp [List.eraseDups_cons]

/-- The first occurrences of what passes a test are the first occurrences that pass it. -/
theorem eraseDups_filter (p : α → Bool) (xs : List α) :
    (xs.filter p).eraseDups = xs.eraseDups.filter p := by
  induction xs using List.reverseRecOn with
  | nil => rfl
  | append_singleton xs x ih =>
    rw [List.filter_append, eraseDups_concat]
    by_cases hp : p x
    · rw [List.filter_cons_of_pos hp, List.filter_nil, eraseDups_concat]
      by_cases hx : x ∈ xs
      · rw [if_pos hx, if_pos (List.mem_filter.2 ⟨hx, hp⟩), ih]
      · rw [if_neg hx, if_neg fun h => hx (List.mem_filter.1 h).1, ih, List.filter_append,
          List.filter_cons_of_pos hp, List.filter_nil]
    · rw [List.filter_cons_of_neg hp, List.filter_nil, List.append_nil, ih]
      by_cases hx : x ∈ xs
      · rw [if_pos hx]
      · rw [if_neg hx, List.filter_append, List.filter_cons_of_neg hp, List.filter_nil,
          List.append_nil]

end FirstOccurrences

/-! ### A table knows what its log tells -/

/-- A table knows what a log tells: the plain name of each class, and the distinct symbols of
each member in the order in which they came. -/
structure Reflects (table : SymbolTable) (log : CallLog) : Prop where
  plainClass : ∀ name, table.plainClass name = log.plainClass name
  fields : ∀ key, table.fields.find key = (log.filterMap (Call.field? key)).eraseDups
  methods : ∀ key, table.methods.find key = (log.filterMap (Call.method? key)).eraseDups

theorem reflects_empty : Reflects empty [] where
  plainClass name := by simp [SymbolTable.plainClass, empty, CallLog.plainClass]
  fields key := by simp [empty]
  methods key := by simp [empty]

theorem plainClass_addClass (table : SymbolTable) (entry : ClassEntry) (name : String) :
    (table.addClass entry).plainClass name =
      if entry.obfuscated = name then entry.plain else table.plainClass name := by
  simp [SymbolTable.plainClass, addClass, Std.TreeMap.getD_insert]

/-- What is told by a log with one more call. -/
theorem filterMap_concat {α : Type} (tell : Call → Option α) (log : CallLog) (call : Call) :
    (log ++ [call]).filterMap tell = log.filterMap tell ++ (tell call).toList := by
  rw [List.filterMap_append]
  cases h : tell call with
  | none => simp [h]
  | some told => simp [h]

theorem CallLog.plainClass_concat (log : CallLog) (call : Call) (name : String) :
    CallLog.plainClass (log ++ [call]) name =
      (call.plainClass? name).getD (log.plainClass name) := by
  rw [CallLog.plainClass, filterMap_concat]
  cases call.plainClass? name with
  | none => rw [Option.toList_none, List.append_nil]; rfl
  | some plain => rw [Option.toList_some, List.getLast?_concat]; rfl

section Index

variable {α : Type} [DecidableEq α] {index : MemberIndex α} {key other : MemberKey} {symbol : α}

/-- A symbol that is added is found. -/
theorem mem_find_insert_self : symbol ∈ (index.insert key symbol).find key := by
  rw [MemberIndex.find_insert]
  split
  · exact List.mem_append_right _ List.mem_cons_self
  · rename_i hknown
    simpa using hknown

/-- What was found stays found. -/
theorem mem_find_insert_of_mem {found : α} (h : found ∈ index.find other) :
    found ∈ (index.insert key symbol).find other := by
  rw [MemberIndex.find_insert]
  split
  · rename_i hnew
    rw [hnew.1]
    exact List.mem_append_left _ h
  · exact h

end Index

/-- After an insertion the symbols of each member are again the first occurrences. -/
theorem find_insert_eraseDups {α : Type} [DecidableEq α] {index : MemberIndex α}
    {other : MemberKey} {told : List α} (h : index.find other = told.eraseDups)
    (owner name : String) (symbol : α) :
    (index.insert ⟨owner, name⟩ symbol).find other =
      (told ++ (if owner = other.owner ∧ name = other.name then some symbol
        else none).toList).eraseDups := by
  rw [MemberIndex.find_insert]
  by_cases hkey : (⟨owner, name⟩ : MemberKey) = other
  · subst hkey
    have hsame : owner = (⟨owner, name⟩ : MemberKey).owner ∧
        name = (⟨owner, name⟩ : MemberKey).name := ⟨rfl, rfl⟩
    rw [if_pos hsame, Option.toList_some, eraseDups_concat, h]
    by_cases hmem : symbol ∈ told
    · rw [if_neg fun hand => hand.2 (List.mem_eraseDups.2 hmem), if_pos hmem]
    · rw [if_pos ⟨rfl, fun hin => hmem (List.mem_eraseDups.1 hin)⟩, if_neg hmem]
  · have hnot : ¬(owner = other.owner ∧ name = other.name) := by
      rintro ⟨rfl, rfl⟩
      exact hkey rfl
    rw [if_neg hnot, if_neg fun hand => hkey hand.1, Option.toList_none, List.append_nil, h]

/-- **Every call keeps a table and its log together.** -/
theorem Reflects.concat {table : SymbolTable} {log : CallLog} (h : Reflects table log)
    (call : Call) : Reflects (call.apply table) (log ++ [call]) := by
  cases call with
  | ofClass entry =>
    refine ⟨fun name => ?_, fun key => ?_, fun key => ?_⟩
    · show (table.addClass entry).plainClass name = _
      rw [CallLog.plainClass_concat, plainClass_addClass, Call.plainClass?]
      split
      · rfl
      · exact h.plainClass name
    · rw [filterMap_concat, show Call.field? key _ = none from rfl, Option.toList_none,
        List.append_nil]
      exact h.fields key
    · rw [filterMap_concat, show Call.method? key _ = none from rfl, Option.toList_none,
        List.append_nil]
      exact h.methods key
  | ofField owner entry =>
    refine ⟨fun name => ?_, fun key => ?_, fun key => ?_⟩
    · rw [CallLog.plainClass_concat]
      exact h.plainClass name
    · rw [filterMap_concat]
      exact find_insert_eraseDups (h.fields key) owner entry.obfuscated _
    · rw [filterMap_concat, show Call.method? key _ = none from rfl, Option.toList_none,
        List.append_nil]
      exact h.methods key
  | ofMethod owner entry =>
    refine ⟨fun name => ?_, fun key => ?_, fun key => ?_⟩
    · rw [CallLog.plainClass_concat]
      exact h.plainClass name
    · rw [filterMap_concat, show Call.field? key _ = none from rfl, Option.toList_none,
        List.append_nil]
      exact h.fields key
    · rw [filterMap_concat]
      exact find_insert_eraseDups (h.methods key) owner entry.obfuscated _

/-- **A table knows what the log of its calls tells.** -/
theorem reflects_ofLog (log : CallLog) : Reflects (ofLog log) log := by
  induction log using List.reverseRecOn with
  | nil => exact reflects_empty
  | append_singleton log call ih =>
    have hstep := ih.concat call
    rwa [ofLog, List.foldl_append]

/-! ### Resolving by the log -/

/-- A frame that tells a value agrees with that value alone, one that tells none with all. -/
theorem admits_eq_decide (told value : String) :
    admits told value = decide (told = "" ∨ value = told) := by
  rw [Bool.eq_iff_iff, decide_eq_true_iff, admits, Bool.or_eq_true, String.isEmpty_iff,
    beq_iff_eq, eq_comm (a := told) (b := value)]

theorem accepts_eq_decide (lines : LineMap) (line : LineNumber) :
    lines.accepts line =
      decide (line = 0 ∨ lines.last = 0 ∨ lines.first ≤ line ∧ line ≤ lines.last) := by
  rw [Bool.eq_iff_iff, decide_eq_true_iff, LineMap.accepts]
  simp only [Bool.or_eq_true, Bool.and_eq_true, beq_iff_eq, decide_eq_true_eq, or_assoc]

namespace Reflects

variable {table : SymbolTable} {log : CallLog}

theorem plainType (h : Reflects table log) (type : String) :
    String.ofList (table.plainType type.toList) = log.plainType type := by
  rw [SymbolTable.plainType, CallLog.plainType, h.plainClass, String.ofList_append,
    String.ofList_toList]

theorem plainArguments (h : Reflects table log) (arguments : String) :
    String.ofList (table.plainArguments arguments.toList) = log.plainArguments arguments := by
  rw [SymbolTable.plainArguments, CallLog.plainArguments]
  congr 2
  refine List.map_congr_left fun argument _ => ?_
  have htype := h.plainType (String.ofList (Text.trim argument))
  rw [String.toList_ofList] at htype
  rw [← htype, String.toList_ofList]

theorem fieldFrames (h : Reflects table log) (frame : StackFrame) :
    table.fieldFrames (table.plainClass frame.className) frame = log.fieldFrames frame := by
  rw [SymbolTable.fieldFrames, CallLog.fieldFrames, h.fields, h.plainClass, h.plainType,
    eraseDups_filter]
  simp only [FieldSymbol.agrees, admits_eq_decide]
  rfl

theorem methodFrames (h : Reflects table log) (frame : StackFrame) :
    table.methodFrames (table.plainClass frame.className) frame = log.methodFrames frame := by
  rw [SymbolTable.methodFrames, CallLog.methodFrames, h.methods, h.plainClass, h.plainType,
    h.plainArguments, eraseDups_filter]
  simp only [MethodSymbol.agrees, admits_eq_decide, accepts_eq_decide, Bool.decide_and,
    Bool.and_assoc]
  rfl

/-- A table resolves a frame as the log that it reflects tells. -/
theorem resolve (h : Reflects table log) (frame : StackFrame) :
    table.resolve frame = log.resolve frame := by
  rw [SymbolTable.resolve, CallLog.resolve, h.fieldFrames, h.methodFrames, h.plainClass]
  simp only [classFrame, List.isEmpty_iff, String.isEmpty_iff]

end Reflects

/-- **A table resolves a frame as the log of its calls tells**: to the frames of the fields and
then of the methods that the log tells and that agree with the frame, each symbol at its first
occurrence, or to the class alone. -/
theorem resolve_ofLog (log : CallLog) (frame : StackFrame) :
    (ofLog log).resolve frame = log.resolve frame :=
  (reflects_ofLog log).resolve frame

end Deobfuscation.SymbolTable
