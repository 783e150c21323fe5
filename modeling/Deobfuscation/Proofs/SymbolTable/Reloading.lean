import Deobfuscation.Proofs.SymbolMap.Calls
import Deobfuscation.Proofs.SymbolTable.Alike

/-!
# Reading a symbol map again

A table wants every class, so what it knows already has no say in how a symbol map is read: a symbol
map makes the same calls to every table, and gives the same reports.  Made again, these calls find
every member in its place, and each class gets the plain name that it got from the last of them.

* `Reading.withTable`, `next_withTable`, `readLines_withTable` — **proved**: lines are read alike
  into every table, and change it by their calls;
* `load_eq` — **proved**: so does a whole source;
* `Call.IsKnown`, `isKnown_foldl` — the member of a call is in its place, and **proved**: it is so
  after the calls;
* `alike_foldl_twice` — **proved**: the same calls, made again, leave a table as it is;
* `load_twice` — **proved**: so does the same symbol map.
-/

namespace Deobfuscation.SymbolMap

open SymbolTable (Call CallLog)

/-! ### What a table is called with -/

namespace Reading

/-- The reading, with another table. -/
def withTable (table : SymbolTable) (reading : Reading SymbolTable) : Reading SymbolTable :=
  { reading with state := table }

theorem fail_withTable (reading : Reading SymbolTable) (table : SymbolTable) (raw : List UInt8)
    (fault : Fault) : (reading.withTable table).fail raw fault =
      (reading.fail raw fault).withTable table := by
  rw [fail, fail]
  split
  · rfl
  · show (if (reading.openClass.isNone && !fault.isUndecodable) = true then _ else _) = _
    split
    · rfl
    · rfl

/-- **A line is read alike into every table**, and changes it by the calls that it leads to. -/
theorem next_withTable (reading : Reading SymbolTable) (table : SymbolTable) (raw : List UInt8) :
    (reading.withTable table).next SymbolTable.consumer raw =
      (reading.next SymbolTable.consumer raw).withTable
        ((reading.nextCalls raw).foldl Call.apply table) := by
  rw [next, next, nextCalls]
  cases Entry.ofBytes raw with
  | error fault =>
    exact fail_withTable { reading with linesRead := reading.linesRead + 1 } table raw fault
  | ok found =>
    cases found with
    | none => rfl
    | some entry =>
      cases entry with
      | ofClass entry => rfl
      | ofField entry =>
        cases h : reading.openClass with
        | none => simp [consume, withTable, callsFor, h]
        | some owner => simp [consume, withTable, callsFor, h, SymbolTable.consumer, Call.apply]
      | ofMethod entry =>
        cases h : reading.openClass with
        | none => simp [consume, withTable, callsFor, h]
        | some owner => simp [consume, withTable, callsFor, h, SymbolTable.consumer, Call.apply]

end Reading

/-- **Lines are read alike into every table**, and change it by the calls that they lead to. -/
theorem readLines_withTable (table other : SymbolTable) (lines : List (List UInt8)) :
    readLines SymbolTable.consumer (.initial other) lines =
      (readLines SymbolTable.consumer (.initial table) lines).withTable
        ((callsOf SymbolTable.consumer table lines).foldl Call.apply other) := by
  induction lines using List.reverseRecOn with
  | nil => rfl
  | append_singleton lines raw ih =>
    rw [readLines_append, ih, readLines_append, callsOf_append, List.foldl_append]
    exact Reading.next_withTable _ _ raw

end Deobfuscation.SymbolMap

namespace Deobfuscation.SymbolTable

open SymbolMap (callsOf readLines readLines_withTable)

/-- **A source is read alike into every table**, and changes it by the calls that it leads to. -/
theorem load_eq (table other : SymbolTable) (source : ByteSource) :
    other.load source =
      ((table.load source).1, (callsOf consumer table source.lines).foldl Call.apply other) := by
  have hlines := readLines_withTable table other source.lines
  rw [load, load, SymbolMap.read, SymbolMap.read]
  cases source.failure with
  | none =>
    dsimp only
    rw [hlines]
    rfl
  | some cause =>
    dsimp only
    rw [hlines]
    rfl

/-! ### The same calls again -/

/-- The member that a call tells, if it tells one, is in its place. -/
def Call.IsKnown (table : SymbolTable) : Call → Prop
  | .ofClass _ => True
  | .ofField owner entry =>
    FieldSymbol.ofEntry owner entry ∈ table.fields.find ⟨owner, entry.obfuscated⟩
  | .ofMethod owner entry =>
    MethodSymbol.ofEntry owner entry ∈ table.methods.find ⟨owner, entry.obfuscated⟩

/-- A call forgets no member. -/
theorem Call.IsKnown.apply {table : SymbolTable} {known : Call} (h : known.IsKnown table)
    (call : Call) : known.IsKnown (call.apply table) := by
  cases call with
  | ofClass entry => cases known <;> exact h
  | ofField owner entry =>
    cases known with
    | ofClass _ => trivial
    | ofField _ _ => exact mem_find_insert_of_mem h
    | ofMethod _ _ => exact h
  | ofMethod owner entry =>
    cases known with
    | ofClass _ => trivial
    | ofField _ _ => exact h
    | ofMethod _ _ => exact mem_find_insert_of_mem h

theorem isKnown_apply_self (table : SymbolTable) (call : Call) :
    call.IsKnown (call.apply table) := by
  cases call with
  | ofClass entry => trivial
  | ofField owner entry => exact mem_find_insert_self
  | ofMethod owner entry => exact mem_find_insert_self

/-- **After calls the members of all of them are in their places.** -/
theorem isKnown_foldl (log : CallLog) (table : SymbolTable) :
    ∀ call ∈ log, call.IsKnown (log.foldl Call.apply table) := by
  induction log using List.reverseRecOn with
  | nil => exact fun call h => absurd h List.not_mem_nil
  | append_singleton log last ih =>
    intro call hcall
    rw [List.foldl_append]
    rcases List.mem_append.1 hcall with hearlier | hlast
    · exact (ih call hearlier).apply last
    · obtain rfl := List.mem_singleton.1 hlast
      exact isKnown_apply_self _ call

/-- A call whose member is known leaves the members as they are. -/
theorem Call.IsKnown.members {table : SymbolTable} {call : Call} (h : call.IsKnown table) :
    (call.apply table).fields = table.fields ∧ (call.apply table).methods = table.methods := by
  cases call with
  | ofClass entry => exact ⟨rfl, rfl⟩
  | ofField owner entry => exact ⟨if_pos h, rfl⟩
  | ofMethod owner entry => exact ⟨rfl, if_pos h⟩

/-- Calls whose members are known leave the members as they are. -/
theorem members_foldl {log : CallLog} {table : SymbolTable} (h : ∀ call ∈ log, call.IsKnown table) :
    (log.foldl Call.apply table).fields = table.fields ∧
      (log.foldl Call.apply table).methods = table.methods := by
  induction log generalizing table with
  | nil => exact ⟨rfl, rfl⟩
  | cons call log ih =>
    have hcall := (h call List.mem_cons_self).members
    have hrest := @ih (call.apply table) fun other hmem =>
      (h other (List.mem_cons_of_mem call hmem)).apply call
    exact ⟨hrest.1.trans hcall.1, hrest.2.trans hcall.2⟩

/-- **The same calls, made again, leave a table as it is.** -/
theorem alike_foldl_twice (log : CallLog) (table : SymbolTable) :
    Alike (log.foldl Call.apply (log.foldl Call.apply table)) (log.foldl Call.apply table) := by
  obtain ⟨hfields, hmethods⟩ := members_foldl (isKnown_foldl log table)
  refine ⟨fun name => ?_, fun key => by rw [hfields], fun key => by rw [hmethods], ?_⟩
  · rw [getElem?_classes_foldl, getElem?_classes_foldl]
    cases (log.filterMap (Call.plainClass? name)).getLast? with
    | none => rfl
    | some plain => rfl
  · rw [memberCount, memberCount, hfields, hmethods]

/-- **A symbol map that is read twice in a row into a table leaves it as if it were read once**,
whatever the table knew and whatever the source delivers, also where it fails: the second reading
gives the same reports or failure, and the table answers everything as after the first. -/
theorem load_twice (table : SymbolTable) (source : ByteSource) :
    ∃ answer once twice, table.load source = (answer, once) ∧ once.load source = (answer, twice) ∧
      twice.classCount = once.classCount ∧ twice.memberCount = once.memberCount ∧
      (∀ name, twice.plainClass name = once.plainClass name) ∧
      ∀ frame, twice.resolve frame = once.resolve frame := by
  let log := callsOf consumer table source.lines
  have halike := alike_foldl_twice log table
  have honce : table.load source = ((table.load source).1, log.foldl Call.apply table) :=
    load_eq table table source
  exact ⟨_, _, _, honce, load_eq table _ source, halike.classCount, halike.memberCount,
    halike.plainClass, halike.resolve⟩

end Deobfuscation.SymbolTable
