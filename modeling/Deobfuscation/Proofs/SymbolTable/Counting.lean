import Mathlib.Data.Finset.Image
import Deobfuscation.Proofs.SymbolTable.Alike

/-!
# How much a table knows

A table tells how many obfuscated class names it knows, and how many members.  A name counts once
however often it is told.  A member counts once for all that is told of it together: the class that
it is listed under, its obfuscated name, the class that declares it, its type and its plain name,
and for a method also its argument types and lines.

* `MemberIndex.kept`, `MemberIndex.kept_insert` — the symbols that are kept, list by list;
  **proved**: an insertion adds one to them exactly if it adds one to the number;
* `Call.obfuscatedClass?`, `Call.fieldRow?`, `Call.methodRow?` — what counts of a call;
* `Raises`, `raises_apply` — **proved**: a call raises one of the two numbers by one, or none;
* `Tallies`, `tallies_ofLog` — **proved**: the numbers are those of the names and members of a log,
  whatever its order.
-/

namespace Deobfuscation

/-! ### The lists of an index -/

namespace MemberIndex

variable {α : Type}

/-- The number of symbols in lists, all together. -/
def total (lists : Std.TreeMap MemberKey (List α)) : Nat :=
  (lists.toList.flatMap (·.2)).length

/-- The number of symbols that an index keeps. -/
def kept (index : MemberIndex α) : Nat := total index.lists

theorem kept_empty : (empty : MemberIndex α).kept = 0 := rfl

/-- The number of symbols in the lists of all other keys. -/
def totalBeside (lists : Std.TreeMap MemberKey (List α)) (key : MemberKey) : Nat :=
  ((lists.toList.filter (¬key == ·.1)).flatMap (·.2)).length

/-- A list takes the place of the one that its key had. -/
theorem total_insert (lists : Std.TreeMap MemberKey (List α)) (key : MemberKey)
    (symbols : List α) :
    total (lists.insert key symbols) = symbols.length + totalBeside lists key := by
  rw [total, (Std.TreeMap.toList_insert_perm.flatMap_right _).length_eq, List.flatMap_cons,
    List.length_append, totalBeside]

/-- The lists are that of a key and those beside it. -/
theorem total_eq (lists : Std.TreeMap MemberKey (List α)) (key : MemberKey) :
    total lists = (lists.getD key []).length + totalBeside lists key := by
  rw [Std.TreeMap.getD_eq_getD_getElem?]
  cases hfound : lists[key]? with
  | some symbols =>
    -- to put the list where it is changes nothing
    have hsame : (lists.insert key symbols).Equiv lists := by
      refine .of_forall_constGet?_eq fun other => ?_
      show (lists.insert key symbols)[other]? = lists[other]?
      rw [Std.TreeMap.getElem?_insert]
      split
      · rename_i hkey
        rw [← Std.LawfulEqCmp.eq_of_compare hkey, hfound]
      · rfl
    rw [total, ← ((Std.TreeMap.equiv_iff_toList_perm.1 hsame).flatMap_right _).length_eq]
    exact total_insert lists key symbols
  | none =>
    have hall : lists.toList.filter (¬key == ·.1) = lists.toList := by
      refine List.filter_eq_self.2 fun entry hmem => ?_
      have hentry := Std.TreeMap.mem_toList_iff_getElem?_eq_some.1 hmem
      rw [decide_eq_true_iff, beq_iff_eq]
      rintro rfl
      exact Option.some_ne_none _ (hentry.symm.trans hfound)
    rw [totalBeside, hall]
    exact (Nat.zero_add _).symm

/-- An insertion counts one more symbol, or none. -/
theorem size_insert_cases [DecidableEq α] (index : MemberIndex α) (key : MemberKey)
    (symbol : α) :
    (index.insert key symbol).size = index.size ∨
      (index.insert key symbol).size = index.size + 1 := by
  rw [size_insert]
  split
  · exact Or.inl rfl
  · exact Or.inr rfl

/-- **An insertion adds one symbol to those that are kept exactly if it counts one more.** -/
theorem kept_insert [DecidableEq α] {index : MemberIndex α} (h : index.size = index.kept)
    (key : MemberKey) (symbol : α) :
    (index.insert key symbol).size = (index.insert key symbol).kept := by
  unfold insert
  split
  · exact h
  · show index.size + 1 = total (index.lists.insert key (index.find key ++ [symbol]))
    rw [total_insert, List.length_append, List.length_singleton, h, kept, total_eq _ key, find]
    omega

end MemberIndex

namespace SymbolTable

open SymbolMap (LineMap)

/-! ### What counts of a call -/

namespace Call

/-- The obfuscated name of a class. -/
def obfuscatedClass? : Call → Option String
  | ofClass entry => some entry.obfuscated
  | _ => none

/-- A field: the class that it is listed under, its obfuscated name, the class that declares it,
which is the first unless another is named, its type and its plain name. -/
def fieldRow? : Call → Option (String × String × String × String × String)
  | ofField owner entry =>
    some (owner, entry.obfuscated, entry.declaringClass.getD owner, entry.type, entry.plain)
  | _ => none

/-- A method: what counts of a field, and its argument types and lines. -/
def methodRow? :
    Call → Option ((String × String × String × String × String) × String × LineMap)
  | ofMethod owner entry =>
    some ((owner, entry.obfuscated, entry.declaringClass.getD owner, entry.type, entry.plain),
      entry.arguments, entry.lines)
  | _ => none

end Call

/-- The row of a field and the name that it is found under. -/
def fieldRow (told : MemberKey × FieldSymbol) : String × String × String × String × String :=
  (told.1.owner, told.1.name, told.2.declaringClass, told.2.type, told.2.name)

/-- The row of a method and the name that it is found under. -/
def methodRow (told : MemberKey × MethodSymbol) :
    (String × String × String × String × String) × String × LineMap :=
  ((told.1.owner, told.1.name, told.2.declaringClass, told.2.type, told.2.name),
    told.2.arguments, told.2.lines)

theorem fieldRow_injective : Function.Injective fieldRow := by
  rintro ⟨⟨_, _⟩, ⟨_, _, _⟩⟩ ⟨⟨_, _⟩, ⟨_, _, _⟩⟩ h
  simpa [fieldRow, and_assoc] using h

theorem methodRow_injective : Function.Injective methodRow := by
  rintro ⟨⟨_, _⟩, ⟨_, _, _, _, _⟩⟩ ⟨⟨_, _⟩, ⟨_, _, _, _, _⟩⟩ h
  simpa [methodRow, and_assoc] using h

theorem Call.fieldRow?_eq (call : Call) : call.fieldRow? = call.fieldTold?.map fieldRow := by
  cases call <;> rfl

theorem Call.methodRow?_eq (call : Call) : call.methodRow? = call.methodTold?.map methodRow := by
  cases call <;> rfl

/-- There are as many rows as things that are told, if no two things have the same row. -/
theorem card_filterMap_row {α β : Type} [DecidableEq α] [DecidableEq β] {row : α → β}
    (hrow : row.Injective) {tell : Call → Option α} {tellRow : Call → Option β}
    (htell : ∀ call, tellRow call = (tell call).map row) (log : CallLog) :
    (log.filterMap tellRow).toFinset.card = (log.filterMap tell).toFinset.card := by
  have hrows : log.filterMap tellRow = (log.filterMap tell).map row := by
    rw [List.map_filterMap, funext htell]
  have himage : ((log.filterMap tell).map row).toFinset =
      (log.filterMap tell).toFinset.image row := by
    ext found
    simp only [List.mem_toFinset, List.mem_map, Finset.mem_image]
  rw [hrows, himage, Finset.card_image_of_injective _ hrow]

/-- The members that are counted are those that the rows tell apart. -/
theorem memberCount_eq_rows (log : CallLog) :
    (ofLog log).memberCount = (log.filterMap Call.fieldRow?).toFinset.card +
      (log.filterMap Call.methodRow?).toFinset.card := by
  rw [memberCount_ofLog, card_filterMap_row fieldRow_injective Call.fieldRow?_eq,
    card_filterMap_row methodRow_injective Call.methodRow?_eq]

/-- The classes that a table knows are those that its log names. -/
theorem mem_classes_ofLog (log : CallLog) (name : String) :
    name ∈ (ofLog log).classes ↔ name ∈ log.filterMap Call.obfuscatedClass? := by
  induction log using List.reverseRecOn with
  | nil => simp [ofLog, empty]
  | append_singleton log call ih =>
    rw [ofLog_concat, filterMap_concat, List.mem_append, ← ih]
    cases call with
    | ofClass entry =>
      show name ∈ (ofLog log).classes.insert entry.obfuscated entry.plain ↔
        _ ∨ name ∈ [entry.obfuscated]
      rw [Std.TreeMap.mem_insert, Std.LawfulEqCmp.compare_eq_iff_eq, List.mem_singleton,
        or_comm, eq_comm]
    | ofField owner entry => exact (or_iff_left List.not_mem_nil).symm
    | ofMethod owner entry => exact (or_iff_left List.not_mem_nil).symm

/-- **A table counts the distinct obfuscated class names of its log.** -/
theorem classCount_ofLog (log : CallLog) :
    (ofLog log).classCount = (log.filterMap Call.obfuscatedClass?).toFinset.card := by
  have hkeys : (ofLog log).classes.keys.toFinset =
      (log.filterMap Call.obfuscatedClass?).toFinset := by
    ext name
    rw [List.mem_toFinset, List.mem_toFinset, Std.TreeMap.mem_keys, mem_classes_ofLog]
  rw [classCount, ← Std.TreeMap.length_keys,
    ← List.toFinset_card_of_nodup Std.TreeMap.nodup_keys, hkeys]

/-! ### One more call -/

/-- From one table to the next neither number changes, or exactly one of them grows by one. -/
inductive Raises (before after : SymbolTable) : Prop
  | neither : after.classCount = before.classCount → after.memberCount = before.memberCount →
    Raises before after
  | classes : after.classCount = before.classCount + 1 →
    after.memberCount = before.memberCount → Raises before after
  | members : after.classCount = before.classCount →
    after.memberCount = before.memberCount + 1 → Raises before after

/-- **A call raises one of the two numbers by one, or none.** -/
theorem raises_apply (table : SymbolTable) (call : Call) : Raises table (call.apply table) := by
  cases call with
  | ofClass entry =>
    have hsize : (table.addClass entry).classCount =
        if entry.obfuscated ∈ table.classes then table.classCount else table.classCount + 1 :=
      Std.TreeMap.size_insert
    by_cases hknown : entry.obfuscated ∈ table.classes
    · exact .neither (hsize.trans (if_pos hknown)) rfl
    · exact .classes (hsize.trans (if_neg hknown)) rfl
  | ofField owner entry =>
    rcases table.fields.size_insert_cases ⟨owner, entry.obfuscated⟩ (.ofEntry owner entry) with
      hsame | hnext
    · exact .neither rfl (congrArg (· + table.methods.size) hsame)
    · exact .members rfl ((congrArg (· + table.methods.size) hnext).trans (Nat.add_right_comm ..))
  | ofMethod owner entry =>
    rcases table.methods.size_insert_cases ⟨owner, entry.obfuscated⟩ (.ofEntry owner entry) with
      hsame | hnext
    · exact .neither rfl (congrArg (table.fields.size + ·) hsame)
    · exact .members rfl (congrArg (table.fields.size + ·) hnext)

/-! ### All calls -/

/-- The members that are counted are all kept. -/
theorem size_eq_kept_ofLog (log : CallLog) :
    (ofLog log).fields.size = (ofLog log).fields.kept ∧
      (ofLog log).methods.size = (ofLog log).methods.kept := by
  induction log using List.reverseRecOn with
  | nil => exact ⟨MemberIndex.kept_empty.symm, MemberIndex.kept_empty.symm⟩
  | append_singleton log call ih =>
    rw [ofLog_concat]
    cases call with
    | ofClass entry => exact ih
    | ofField owner entry => exact ⟨MemberIndex.kept_insert ih.1 _ _, ih.2⟩
    | ofMethod owner entry => exact ⟨ih.1, MemberIndex.kept_insert ih.2 _ _⟩

/-- The numbers of a table are those of a log. -/
structure Tallies (table : SymbolTable) (log : CallLog) : Prop where
  /-- Each obfuscated class name counts once. -/
  classCount : table.classCount = (log.filterMap Call.obfuscatedClass?).toFinset.card
  /-- Each field and each method counts once. -/
  memberCount : table.memberCount = (log.filterMap Call.fieldRow?).toFinset.card +
    (log.filterMap Call.methodRow?).toFinset.card
  /-- The number of members is that of the symbols in all lists of the table. -/
  kept : table.memberCount = table.fields.kept + table.methods.kept
  /-- One more call raises one of the numbers by one, or none. -/
  raises : ∀ call : Call, Raises table (call.apply table)

/-- **The numbers of a table are exact**: after any calls, in any order, they are the numbers of the
distinct obfuscated class names and of the distinct fields and methods that the calls tell. -/
theorem tallies_ofLog (log : CallLog) : Tallies (ofLog log) log where
  classCount := classCount_ofLog log
  memberCount := memberCount_eq_rows log
  kept := by rw [memberCount, (size_eq_kept_ofLog log).1, (size_eq_kept_ofLog log).2]
  raises := raises_apply (ofLog log)

end SymbolTable

end Deobfuscation
