import Mathlib.Data.List.Forall2
import Deobfuscation.Proofs.Text.Cut
import Deobfuscation.SymbolTable.Resolve

/-!
# Argument types by position

The argument types of a frame and those of a method are compared as two texts.  This compares them
one by one: if no plain class name is empty or has a comma in it, then the texts are the same if and
only if there are as many types on both sides, and the plain form of each type of the frame is the
type of the method at its position.  A frame that lists a type is never taken for one that tells no
argument types at all.

* `IsListed`, `IsSpace` — a type that has no blanks, and blanks;
* `Pads`, `WritesTypes` — a text that lists types, with blanks around them;
* `WritesTypes.plainArguments` — **proved**: its plain form joins the plain forms of the types;
* `NamesListable`, `NamesListable.comma`, `NamesListable.ne_nil` — **proved**: where plain names can
  be listed, plain types can;
* `SamePositions`, `agrees_iff_samePositions` — **proved**: arguments agree exactly if they do at
  each position.
-/

namespace Deobfuscation.SymbolTable

open Text

/-! ### Listed types -/

/-- A type that can be listed: it has characters, and no comma or blank among them. -/
structure IsListed (type : List Char) : Prop where
  ne_nil : type ≠ []
  comma : ',' ∉ type
  blank : ∀ c ∈ type, isBlank c = false

/-- Nothing but blanks. -/
def IsSpace (s : List Char) : Prop := ∀ c ∈ s, isBlank c = true

instance (s : List Char) : Decidable (IsSpace s) :=
  List.decidableBAll (fun c => isBlank c = true) s

instance (type : List Char) : Decidable (IsListed type) :=
  have : Decidable (∀ c ∈ type, isBlank c = false) := List.decidableBAll _ _
  decidable_of_iff (type ≠ [] ∧ ',' ∉ type ∧ ∀ c ∈ type, isBlank c = false)
    ⟨fun h => ⟨h.1, h.2.1, h.2.2⟩, fun h => ⟨h.ne_nil, h.comma, h.blank⟩⟩

/-- A text is a type with blanks around it. -/
structure Pads (text type : List Char) : Prop where
  /-- There is no comma in the type. -/
  comma : ',' ∉ type
  /-- All blanks at the ends are those around the type. -/
  trimmed : Trimmed type
  blanks : ∃ lead trail, IsSpace lead ∧ IsSpace trail ∧ text = lead ++ type ++ trail

/-- A type and the blanks around it. -/
theorem IsListed.pads {lead type trail : List Char} (htype : IsListed type)
    (hlead : IsSpace lead) (htrail : IsSpace trail) : Pads (lead ++ type ++ trail) type :=
  ⟨htype.comma, trimmed_of_forall htype.blank, lead, trail, hlead, htrail, rfl⟩

namespace Pads

variable {text type : List Char}

theorem trim (h : Pads text type) : Text.trim text = type := by
  obtain ⟨lead, trail, hlead, htrail, rfl⟩ := h.blanks
  by_cases htype : type = []
  · -- nothing but blanks is left by no type
    subst htype
    refine (trim_nil_iff _).2 fun c hc => ?_
    rw [List.append_nil] at hc
    exact (List.mem_append.1 hc).elim (hlead c) (htrail c)
  · exact trim_surround hlead htrail h.trimmed htype

theorem not_mem (h : Pads text type) : ',' ∉ text := by
  obtain ⟨lead, trail, hlead, htrail, rfl⟩ := h.blanks
  have hblank : isBlank ',' = false := by decide
  simp only [List.mem_append, not_or]
  refine ⟨⟨fun hmem => ?_, h.comma⟩, fun hmem => ?_⟩
  · exact Bool.false_ne_true (hblank.symm.trans (hlead ',' hmem))
  · exact Bool.false_ne_true (hblank.symm.trans (htrail ',' hmem))

/-- Trimming leaves the types of a list. -/
theorem map_trim {written types : List (List Char)} (h : List.Forall₂ Pads written types) :
    written.map Text.trim = types := by
  induction h with
  | nil => rfl
  | cons hpad _ ih => rw [List.map_cons, hpad.trim, ih]

/-- There are no commas but those between the types of a list. -/
theorem commas {written types : List (List Char)} (h : List.Forall₂ Pads written types) :
    (∀ part ∈ written, ',' ∉ part) ∧ ∀ type ∈ types, ',' ∉ type := by
  induction h with
  | nil =>
    exact ⟨fun part hmem => absurd hmem List.not_mem_nil,
      fun type hmem => absurd hmem List.not_mem_nil⟩
  | cons hpad _ ih =>
    exact ⟨List.forall_mem_cons.2 ⟨hpad.not_mem, ih.1⟩, List.forall_mem_cons.2 ⟨hpad.comma, ih.2⟩⟩

end Pads

/-- A text lists types: they are parted by commas, and blanks may stand around each of them.  Each
text lists at least one type, which is empty if the text has nothing but blanks. -/
structure WritesTypes (text : List Char) (types : List (List Char)) : Prop where
  ne_nil : types ≠ []
  parts : ∃ written, List.Forall₂ Pads written types ∧ text = List.intercalate [','] written

namespace WritesTypes

variable {text : List Char} {types : List (List Char)}

theorem written_ne_nil (h : WritesTypes text types) {written : List (List Char)}
    (hpads : List.Forall₂ Pads written types) : written ≠ [] := by
  rintro rfl
  exact h.ne_nil (List.forall₂_nil_left_iff.1 hpads)

/-- The parts between the commas are the types with blanks around them. -/
theorem map_trim_splitOn (h : WritesTypes text types) : (splitOn ',' text).map trim = types := by
  obtain ⟨written, hpads, rfl⟩ := h.parts
  rw [splitOn_intercalate (h.written_ne_nil hpads) (Pads.commas hpads).1, Pads.map_trim hpads]

theorem comma (h : WritesTypes text types) : ∀ type ∈ types, ',' ∉ type := by
  obtain ⟨written, hpads, -⟩ := h.parts
  exact (Pads.commas hpads).2

/-- **The plain form of a list joins the plain forms of its types.** -/
theorem plainArguments (h : WritesTypes text types) (table : SymbolTable) :
    table.plainArguments text = List.intercalate [','] (types.map table.plainType) := by
  rw [SymbolTable.plainArguments, ← h.map_trim_splitOn, List.map_map]
  rfl

end WritesTypes

/-! ### Plain types -/

/-- The plain class names of a table can be listed. -/
structure NamesListable (table : SymbolTable) : Prop where
  ne_empty : ∀ obfuscated plain : String, table.classes[obfuscated]? = some plain → plain ≠ ""
  comma : ∀ obfuscated plain : String, table.classes[obfuscated]? = some plain →
    ',' ∉ plain.toList

namespace NamesListable

variable {table : SymbolTable} {type : List Char}

/-- A plain class name is one of the table, or the name itself. -/
theorem plainClass_cases (table : SymbolTable) (name : String) :
    table.classes[name]? = some (table.plainClass name) ∨ table.plainClass name = name := by
  rw [plainClass, Std.TreeMap.getD_eq_getD_getElem?]
  cases table.classes[name]? with
  | none => exact Or.inr rfl
  | some plain => exact Or.inl rfl

/-- There is no comma in the plain form of a type that has none. -/
theorem not_mem_plainType (h : table.NamesListable) (htype : ',' ∉ type) :
    ',' ∉ table.plainType type := by
  rw [plainType, List.mem_append, not_or]
  refine ⟨?_, fun hmem => htype ((List.dropWhile_suffix _).subset hmem)⟩
  rcases plainClass_cases table (String.ofList (type.takeWhile (· ≠ '['))) with hfound | hsame
  · exact h.comma _ _ hfound
  · rw [hsame, String.toList_ofList]
    exact fun hmem => htype ((List.takeWhile_prefix _).subset hmem)

/-- The plain form of a type is not nothing. -/
theorem plainType_ne_nil (h : table.NamesListable) (htype : type ≠ []) :
    table.plainType type ≠ [] := by
  rw [plainType]
  intro hnil
  obtain ⟨hclass, hsuffix⟩ := List.append_eq_nil_iff.1 hnil
  rcases plainClass_cases table (String.ofList (type.takeWhile (· ≠ '['))) with hfound | hsame
  · exact h.ne_empty _ _ hfound (String.toList_eq_nil_iff.1 hclass)
  · rw [hsame, String.toList_ofList] at hclass
    exact htype (by rw [← List.takeWhile_append_dropWhile (p := (· ≠ '[')) (l := type), hclass,
      hsuffix, List.append_nil])

/-- The plain forms of a list that is not that of the empty type are not nothing, put together. -/
theorem intercalate_ne_nil (h : table.NamesListable) {types : List (List Char)} (hne : types ≠ [])
    (hsome : types ≠ [[]]) : List.intercalate [','] (types.map table.plainType) ≠ [] := by
  match types with
  | [] => exact absurd rfl hne
  | [type] =>
    rw [List.map_singleton, List.intercalate_singleton]
    exact h.plainType_ne_nil fun htype => hsome (by rw [htype])
  | type :: next :: types =>
    rw [List.map_cons, List.map_cons, List.intercalate_cons_cons]
    simp

end NamesListable

/-! ### Positions -/

/-- Types are as many as those of a frame, and each is the plain form of the one at its position. -/
structure SamePositions (table : SymbolTable) (types listed : List (List Char)) : Prop where
  length : listed.length = types.length
  plainType : ∀ i (h : i < types.length) (h' : i < listed.length),
    table.plainType types[i] = listed[i]

theorem samePositions_iff {table : SymbolTable} {types listed : List (List Char)} :
    table.SamePositions types listed ↔ types.map table.plainType = listed := by
  constructor
  · intro h
    refine List.ext_getElem ?_ fun i hi hi' => ?_
    · rw [List.length_map, h.length]
    · rw [List.length_map] at hi
      rw [List.getElem_map]
      exact h.plainType i hi hi'
  · rintro rfl
    exact ⟨List.length_map _, fun i _ _ => (List.getElem_map _).symm⟩

/-- Types that are joined by commas are the same exactly if the texts are. -/
theorem intercalate_eq_iff {types listed : List (List Char)} (hne : types ≠ [])
    (htypes : ∀ type ∈ types, ',' ∉ type) (hlisted : ∀ type ∈ listed, ',' ∉ type)
    (hsome : List.intercalate [','] types ≠ []) :
    List.intercalate [','] types = List.intercalate [','] listed ↔ types = listed := by
  refine ⟨fun h => ?_, fun h => by rw [h]⟩
  have hlisted_ne : listed ≠ [] := by
    rintro rfl
    exact hsome h
  rw [← splitOn_intercalate hne htypes, h, splitOn_intercalate hlisted_ne hlisted]

/-- **The arguments of a frame agree with those of a method if and only if they do at each
position.** -/
theorem admits_iff_samePositions {table : SymbolTable} (hnames : table.NamesListable)
    {text : List Char} {types : List (List Char)} (hwrites : WritesTypes text types)
    (hsome : types ≠ [[]]) {arguments : String} {listed : List (List Char)}
    (harguments : arguments.toList = List.intercalate [','] listed)
    (hlisted : ∀ type ∈ listed, ',' ∉ type) :
    admits (String.ofList (table.plainArguments text)) arguments = true ↔
      table.SamePositions types listed := by
  have htold := hnames.intercalate_ne_nil hwrites.ne_nil hsome
  have hempty : (String.ofList (table.plainArguments text)).isEmpty = false := by
    rw [hwrites.plainArguments, ← Bool.not_eq_true, String.isEmpty_iff]
    exact fun h => htold (String.ofList_eq_empty_iff.1 h)
  have hplain : ∀ type ∈ types.map table.plainType, ',' ∉ type :=
    List.forall_mem_map.2 fun type hmem => hnames.not_mem_plainType (hwrites.comma type hmem)
  rw [samePositions_iff, ← intercalate_eq_iff (by simpa using hwrites.ne_nil) hplain hlisted htold,
    ← harguments, ← hwrites.plainArguments, admits, hempty, Bool.false_or, beq_iff_eq,
    ← String.toList_inj, String.toList_ofList]

/-- **Argument types are compared position by position.**  Where plain class names can be listed,
the plain form of a list of types joins their plain forms by commas alone; and a method, whatever
else is told of it, has the argument types of the list exactly if it has as many and each of them is
the plain form of the type at its position. -/
theorem agrees_iff_samePositions {table : SymbolTable} (hnames : table.NamesListable)
    {text : List Char} {types : List (List Char)} (hwrites : WritesTypes text types)
    (hsome : types ≠ [[]]) :
    table.plainArguments text = List.intercalate [','] (types.map table.plainType) ∧
      ∀ (symbol : MethodSymbol) (listed : List (List Char)),
        symbol.arguments.toList = List.intercalate [','] listed →
          (∀ type ∈ listed, ',' ∉ type) →
            (admits (String.ofList (table.plainArguments text)) symbol.arguments = true ↔
              table.SamePositions types listed) ∧
            ∀ line type,
              symbol.agrees line type (String.ofList (table.plainArguments text)) = true ↔
                symbol.lines.accepts line = true ∧ admits type symbol.type = true ∧
                  table.SamePositions types listed := by
  refine ⟨hwrites.plainArguments table, fun symbol listed harguments hlisted => ?_⟩
  have htest := admits_iff_samePositions hnames hwrites hsome harguments hlisted
  refine ⟨htest, fun line type => ?_⟩
  rw [MethodSymbol.agrees, Bool.and_eq_true, Bool.and_eq_true, htest, and_assoc]

/-- An array of an obfuscated class and a number, with blanks around them, are those of a method
that lists them in this order, and not of one that has them the other way round or lists more. -/
theorem agrees_iff_samePositions_array :
    let table := empty.addClass ⟨"p.Foo", "a"⟩
    let told := String.ofList (table.plainArguments " a[] ,\tint".toList)
    told = "p.Foo[],int" ∧ admits told "p.Foo[],int" = true ∧ ¬ admits told "int,p.Foo[]" = true ∧
      ¬ admits told "p.Foo[],int,int" = true := by
  intro table told
  let types := ["a[]".toList, "int".toList]
  have hfound : ∀ obfuscated plain : String, table.classes[obfuscated]? = some plain →
      plain = "p.Foo" := by
    intro obfuscated plain h
    rw [show table.classes = (∅ : Std.TreeMap String String).insert "a" "p.Foo" from rfl,
      Std.TreeMap.getElem?_insert] at h
    split at h
    · exact (Option.some.inj h).symm
    · simp at h
  have hnames : table.NamesListable := by
    refine ⟨fun obfuscated plain h => ?_, fun obfuscated plain h => ?_⟩
    · rw [hfound obfuscated plain h]
      decide
    · rw [hfound obfuscated plain h]
      decide
  have hnone : IsSpace [] := by decide
  have hone : IsSpace [' '] := by decide
  have htab : IsSpace ['\t'] := by decide
  have ha : IsListed "a[]".toList := by decide
  have hint : IsListed "int".toList := by decide
  have harray : Pads " a[] ".toList "a[]".toList := ha.pads hone hone
  have hnumber : Pads "\tint".toList "int".toList := hint.pads htab hnone
  have hwrites : WritesTypes " a[] ,\tint".toList types :=
    ⟨List.cons_ne_nil _ _, [" a[] ".toList, "\tint".toList],
      .cons harray (.cons hnumber .nil), by decide⟩
  obtain ⟨hplain, hagrees⟩ := agrees_iff_samePositions hnames hwrites (by decide)
  have htypes : types.map table.plainType = ["p.Foo[]".toList, "int".toList] := by decide +kernel
  have hmethod : ∀ arguments : String, ∀ listed : List (List Char),
      arguments.toList = List.intercalate [','] listed → (∀ type ∈ listed, ',' ∉ type) →
        (admits told arguments = true ↔ types.map table.plainType = listed) := by
    intro arguments listed harguments hlisted
    rw [← samePositions_iff]
    exact (hagrees ⟨"", "", "", arguments, .unknown⟩ listed harguments hlisted).1
  refine ⟨?_, ?_, ?_, ?_⟩
  · show String.ofList (table.plainArguments " a[] ,\tint".toList) = "p.Foo[],int"
    rw [hplain, htypes]
    decide
  · exact (hmethod "p.Foo[],int" ["p.Foo[]".toList, "int".toList] (by decide) (by decide)).2 htypes
  · rw [hmethod "int,p.Foo[]" ["int".toList, "p.Foo[]".toList] (by decide) (by decide), htypes]
    decide
  · rw [hmethod "p.Foo[],int,int" ["p.Foo[]".toList, "int".toList, "int".toList] (by decide)
      (by decide), htypes]
    decide

end Deobfuscation.SymbolTable
