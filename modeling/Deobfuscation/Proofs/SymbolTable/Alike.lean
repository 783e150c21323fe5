import Mathlib.Data.Finset.Dedup
import Mathlib.Data.Finset.Card
import Deobfuscation.Proofs.SymbolTable.CallLog

/-!
# Tables that know the same

A table is asked for plain names, for the frames that a frame stands for and for how much it knows.
Two tables that were filled on different ways answer all of this alike if they find the same under
each name.

* `Alike` — two tables find the same, and as many members;
* `Alike.plainClass`, `Alike.classCount`, `Alike.resolve` — **proved**: they answer alike;
* `Counts`, `counts_ofLog` — an index counts the distinct members that were told, and **proved**: a
  table counts those of its log;
* `getElem?_classes_foldl` — **proved**: the class names that calls leave behind;
* `alike_ofLog` — **proved**: logs that tell the same of each name make tables that are alike.
-/

namespace Deobfuscation.SymbolTable

/-- Two tables find the same under each name, and as many members in all. -/
structure Alike (table other : SymbolTable) : Prop where
  classes : ∀ name : String, table.classes[name]? = other.classes[name]?
  fields : ∀ key, table.fields.find key = other.fields.find key
  methods : ∀ key, table.methods.find key = other.methods.find key
  memberCount : table.memberCount = other.memberCount

namespace Alike

variable {table other : SymbolTable}

theorem plainClass (h : Alike table other) (name : String) :
    table.plainClass name = other.plainClass name := by
  rw [SymbolTable.plainClass, SymbolTable.plainClass, Std.TreeMap.getD_eq_getD_getElem?,
    Std.TreeMap.getD_eq_getD_getElem?, h.classes]

/-- **Tables that are alike know as many classes.** -/
theorem classCount (h : Alike table other) : table.classCount = other.classCount := by
  have hkeys : table.classes.keys.toFinset = other.classes.keys.toFinset := by
    ext name
    rw [List.mem_toFinset, List.mem_toFinset, Std.TreeMap.mem_keys, Std.TreeMap.mem_keys,
      Std.TreeMap.mem_iff_isSome_getElem?, Std.TreeMap.mem_iff_isSome_getElem?, h.classes]
  rw [SymbolTable.classCount, SymbolTable.classCount, ← Std.TreeMap.length_keys,
    ← Std.TreeMap.length_keys, ← List.toFinset_card_of_nodup Std.TreeMap.nodup_keys, hkeys,
    List.toFinset_card_of_nodup Std.TreeMap.nodup_keys]

theorem plainType (h : Alike table other) (type : List Char) :
    table.plainType type = other.plainType type := by
  rw [SymbolTable.plainType, SymbolTable.plainType, h.plainClass]

theorem plainArguments (h : Alike table other) (arguments : List Char) :
    table.plainArguments arguments = other.plainArguments arguments := by
  rw [SymbolTable.plainArguments, SymbolTable.plainArguments]
  simp only [h.plainType]

/-- **Tables that are alike resolve each frame to the same frames, in the same order.** -/
theorem resolve (h : Alike table other) (frame : StackFrame) :
    table.resolve frame = other.resolve frame := by
  have hfields : ∀ owner, table.fieldFrames owner frame = other.fieldFrames owner frame := by
    intro owner
    rw [fieldFrames, fieldFrames, h.fields, h.plainType]
  have hmethods : ∀ owner, table.methodFrames owner frame = other.methodFrames owner frame := by
    intro owner
    rw [methodFrames, methodFrames, h.methods, h.plainType, h.plainArguments]
  rw [SymbolTable.resolve, SymbolTable.resolve, h.plainClass, hfields, hmethods]

end Alike

/-! ### How many members a log tells -/

section Counting

variable {α : Type} [DecidableEq α]

/-- An index has the members that were told, each under its name, and counts the distinct ones. -/
structure Counts (index : MemberIndex α) (told : List (MemberKey × α)) : Prop where
  mem : ∀ key symbol, symbol ∈ index.find key ↔ (key, symbol) ∈ told
  size : index.size = told.toFinset.card

theorem counts_empty : Counts (.empty : MemberIndex α) [] where
  mem key symbol := by simp
  size := rfl

/-- **A member that is told is counted if it is new.** -/
theorem Counts.insert {index : MemberIndex α} {told : List (MemberKey × α)}
    (h : Counts index told) (key : MemberKey) (symbol : α) :
    Counts (index.insert key symbol) (told ++ [(key, symbol)]) where
  mem other value := by
    rw [MemberIndex.find_insert, List.mem_append, List.mem_singleton, Prod.mk.injEq]
    by_cases hnew : key = other ∧ symbol ∉ index.find key
    · obtain ⟨rfl, hsymbol⟩ := hnew
      rw [if_pos ⟨rfl, hsymbol⟩, List.mem_append, List.mem_singleton, h.mem]
      simp
    · rw [if_neg hnew, h.mem]
      refine ⟨Or.inl, ?_⟩
      rintro (htold | ⟨rfl, rfl⟩)
      · exact htold
      · rw [not_and, not_not] at hnew
        exact (h.mem other value).1 (hnew rfl)
  size := by
    rw [MemberIndex.size_insert, List.toFinset_append, List.toFinset_cons, List.toFinset_nil,
      insert_empty_eq, Finset.union_comm, ← Finset.insert_eq, h.size]
    split
    · rename_i hknown
      rw [Finset.insert_eq_of_mem (List.mem_toFinset.2 ((h.mem key symbol).1 hknown))]
    · rename_i hnew
      rw [Finset.card_insert_of_notMem fun hin =>
        hnew ((h.mem key symbol).2 (List.mem_toFinset.1 hin))]

end Counting

namespace Call

/-- The field that a call tells, with the name that it is found under. -/
def fieldTold? : Call → Option (MemberKey × FieldSymbol)
  | ofField owner entry => some (⟨owner, entry.obfuscated⟩, .ofEntry owner entry)
  | _ => none

/-- The method that a call tells, with the name that it is found under. -/
def methodTold? : Call → Option (MemberKey × MethodSymbol)
  | ofMethod owner entry => some (⟨owner, entry.obfuscated⟩, .ofEntry owner entry)
  | _ => none

end Call

theorem ofLog_concat (log : CallLog) (call : Call) :
    ofLog (log ++ [call]) = call.apply (ofLog log) := by
  rw [ofLog, List.foldl_append]
  rfl

/-- **A table counts the distinct fields and methods of its log.** -/
theorem counts_ofLog (log : CallLog) :
    Counts (ofLog log).fields (log.filterMap Call.fieldTold?) ∧
      Counts (ofLog log).methods (log.filterMap Call.methodTold?) := by
  induction log using List.reverseRecOn with
  | nil => exact ⟨counts_empty, counts_empty⟩
  | append_singleton log call ih =>
    rw [ofLog_concat, filterMap_concat, filterMap_concat]
    cases call with
    | ofClass entry =>
      simp only [Call.fieldTold?, Call.methodTold?, Option.toList_none, List.append_nil]
      exact ih
    | ofField owner entry =>
      simp only [Call.fieldTold?, Call.methodTold?, Option.toList_none, Option.toList_some,
        List.append_nil]
      exact ⟨ih.1.insert _ _, ih.2⟩
    | ofMethod owner entry =>
      simp only [Call.fieldTold?, Call.methodTold?, Option.toList_none, Option.toList_some,
        List.append_nil]
      exact ⟨ih.1, ih.2.insert _ _⟩

theorem memberCount_ofLog (log : CallLog) :
    (ofLog log).memberCount = (log.filterMap Call.fieldTold?).toFinset.card +
      (log.filterMap Call.methodTold?).toFinset.card := by
  rw [memberCount, (counts_ofLog log).1.size, (counts_ofLog log).2.size]

/-! ### What calls make of a table -/

/-- After calls a class has the plain name that the last of them for it told, or the earlier one. -/
theorem getElem?_classes_foldl (log : CallLog) (table : SymbolTable) (name : String) :
    (log.foldl Call.apply table).classes[name]? =
      (log.filterMap (Call.plainClass? name)).getLast?.or table.classes[name]? := by
  induction log using List.reverseRecOn with
  | nil => rfl
  | append_singleton log call ih =>
    rw [List.foldl_append, filterMap_concat]
    cases call with
    | ofClass entry =>
      show ((log.foldl Call.apply table).classes.insert entry.obfuscated entry.plain)[name]? = _
      simp only [Std.TreeMap.getElem?_insert, Std.LawfulEqOrd.compare_eq_iff_eq]
      by_cases hname : entry.obfuscated = name
      · have htold : Call.plainClass? name (.ofClass entry) = some entry.plain := if_pos hname
        rw [if_pos hname, htold, Option.toList_some, List.getLast?_concat]
        rfl
      · have htold : Call.plainClass? name (.ofClass entry) = none := if_neg hname
        rw [if_neg hname, htold, Option.toList_none, List.append_nil]
        exact ih
    | ofField owner entry =>
      rw [show Call.plainClass? name _ = none from rfl, Option.toList_none, List.append_nil]
      exact ih
    | ofMethod owner entry =>
      rw [show Call.plainClass? name _ = none from rfl, Option.toList_none, List.append_nil]
      exact ih

/-- **Logs that tell the same of each name, and the same members, make tables that are alike.** -/
theorem alike_ofLog {log other : CallLog}
    (hclasses : ∀ name, log.filterMap (Call.plainClass? name) =
      other.filterMap (Call.plainClass? name))
    (hfields : ∀ key, log.filterMap (Call.field? key) = other.filterMap (Call.field? key))
    (hmethods : ∀ key, log.filterMap (Call.method? key) = other.filterMap (Call.method? key))
    (hmembers : log.Perm other) : Alike (ofLog log) (ofLog other) where
  classes name := by
    rw [ofLog, ofLog, getElem?_classes_foldl, getElem?_classes_foldl, hclasses]
  fields key := by rw [(reflects_ofLog log).fields, (reflects_ofLog other).fields, hfields]
  methods key := by rw [(reflects_ofLog log).methods, (reflects_ofLog other).methods, hmethods]
  memberCount := by
    rw [memberCount_ofLog, memberCount_ofLog,
      List.toFinset_eq_of_perm _ _ (hmembers.filterMap Call.fieldTold?),
      List.toFinset_eq_of_perm _ _ (hmembers.filterMap Call.methodTold?)]

end Deobfuscation.SymbolTable
