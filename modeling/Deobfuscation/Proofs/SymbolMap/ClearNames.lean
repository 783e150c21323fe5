import Mathlib.Data.List.Infix
import Deobfuscation.Proofs.SymbolMap.Blocks

/-!
# Names that keep clear of separators

The separators that end the components of an entry differ from component to component.  A symbol
map whose names keep clear of all of them, and of blanks, may be written without a further thought:
each of its lines is read as the entry that it was written from.

* `IsClear`, `ClearMember`, `Block.IsClear` — names, members and blocks that keep clear of all
  separators;
* `infix_of_infix_append_cons` — **proved**: a text without a character stands on one side of it;
* `Block.IsClear.wellFormed` — **proved**: a clear block is read as it is written.
-/

namespace Deobfuscation.SymbolMap

open Text

/-! ### Clear names -/

/-- A name or type without blanks, colons, parentheses, comment signs and arrows. -/
structure IsClear (s : String) : Prop where
  word : IsWord [':', '(', ')', '#'] s
  arrow : ¬ arrow <:+: s.toList

/-- The names and the type of a member.  A dot in its name would part a class from it. -/
structure ClearMember (type : String) (declaringClass : Option String)
    (plain obfuscated : String) : Prop where
  clear_type : IsClear type
  clear_class : ∀ declaring, declaringClass = some declaring → IsClear declaring
  clear_name : IsClear plain
  name_dot : '.' ∉ plain.toList
  clear_obfuscated : IsClear obfuscated

/-- Arguments without blanks and parentheses. -/
def ClearArguments (arguments : String) : Prop :=
  ∀ c ∈ arguments.toList, isBlank c = false ∧ c ∉ ['(', ')']

/-- The line of a member whose names, type and arguments are clear. -/
inductive MemberLine.IsClear : MemberLine → Prop
  | field {entry : FieldEntry} :
    ClearMember entry.type entry.declaringClass entry.plain entry.obfuscated →
    IsClear (.field entry)
  | method {line : MethodLine} :
    ClearMember line.type line.declaringClass line.plain line.obfuscated →
    ClearArguments line.arguments → IsClear (.method line)

/-- A block all of whose names are clear. -/
structure Block.IsClear (block : Block) : Prop where
  plain : SymbolMap.IsClear block.header.plain
  obfuscated : SymbolMap.IsClear block.header.obfuscated
  members : ∀ member ∈ block.members, member.IsClear

/-! ### Deciding clearness -/

-- the characters of the text are tried, not all characters there are
instance (without : List Char) (s : String) : Decidable (IsWord without s) :=
  have : Decidable (∀ c ∈ s.toList, isBlank c = false ∧ c ∉ without) := List.decidableBAll _ _
  decidable_of_iff (s.toList ≠ [] ∧ ∀ c ∈ s.toList, isBlank c = false ∧ c ∉ without)
    ⟨fun h => ⟨h.1, h.2⟩, fun h => ⟨h.ne_nil, h.chars⟩⟩

instance (s : String) : Decidable (IsClear s) :=
  decidable_of_iff (IsWord [':', '(', ')', '#'] s ∧ ¬ arrow <:+: s.toList)
    ⟨fun h => ⟨h.1, h.2⟩, fun h => ⟨h.word, h.arrow⟩⟩

instance (type : String) (declaringClass : Option String) (plain obfuscated : String) :
    Decidable (ClearMember type declaringClass plain obfuscated) :=
  decidable_of_iff (IsClear type ∧ (∀ declaring ∈ declaringClass, IsClear declaring) ∧
      IsClear plain ∧ '.' ∉ plain.toList ∧ IsClear obfuscated)
    ⟨fun ⟨htype, hclass, hname, hdot, hobfuscated⟩ => ⟨htype, hclass, hname, hdot, hobfuscated⟩,
      fun h => ⟨h.clear_type, h.clear_class, h.clear_name, h.name_dot, h.clear_obfuscated⟩⟩

instance (arguments : String) : Decidable (ClearArguments arguments) :=
  List.decidableBAll (fun c => isBlank c = false ∧ c ∉ ['(', ')']) arguments.toList

instance : (member : MemberLine) → Decidable member.IsClear
  | .field entry =>
    decidable_of_iff (ClearMember entry.type entry.declaringClass entry.plain entry.obfuscated)
      ⟨.field, fun h => by cases h; assumption⟩
  | .method line =>
    decidable_of_iff (ClearMember line.type line.declaringClass line.plain line.obfuscated ∧
        ClearArguments line.arguments)
      ⟨fun h => .method h.1 h.2, fun h => by cases h; exact ⟨‹_›, ‹_›⟩⟩

instance (block : Block) : Decidable block.IsClear :=
  decidable_of_iff (IsClear block.header.plain ∧ IsClear block.header.obfuscated ∧
      ∀ member ∈ block.members, member.IsClear)
    ⟨fun ⟨hplain, hobfuscated, hmembers⟩ => ⟨hplain, hobfuscated, hmembers⟩,
      fun h => ⟨h.plain, h.obfuscated, h.members⟩⟩

/-! ### Arrows -/

/-- What begins a text and lacks a character ends before the character. -/
theorem prefix_of_prefix_append_cons {α : Type} {s after : List α} {c : α} (before : List α)
    (hc : c ∉ s) (h : s <+: before ++ c :: after) : s <+: before := by
  have hclosed : before ++ [c] <+: before ++ c :: after := ⟨after, by simp⟩
  rcases List.prefix_or_prefix_of_prefix h hclosed with hshort | hlong
  · rcases List.prefix_concat_iff.1 hshort with rfl | hbefore
    · exact absurd (by simp) hc
    · exact hbefore
  · exact absurd (hlong.subset (by simp)) hc

/-- **A text without a character stands on one side of it.** -/
theorem infix_of_infix_append_cons {α : Type} {s before after : List α} {c : α} (hc : c ∉ s)
    (h : s <:+: before ++ c :: after) : s <:+: before ∨ s <:+: after := by
  induction before with
  | nil =>
    rcases List.infix_cons_iff.1 h with hprefix | hafter
    · rw [List.prefix_nil.1 (prefix_of_prefix_append_cons [] hc hprefix)]
      exact Or.inl List.infix_rfl
    · exact Or.inr hafter
  | cons d before ih =>
    rcases List.infix_cons_iff.1 h with hprefix | hrest
    · exact Or.inl (prefix_of_prefix_append_cons (d :: before) hc hprefix).isInfix
    · exact (ih hrest).imp_left fun hbefore => List.infix_cons hbefore

/-! ### Clear components -/

section Components

variable {type plain obfuscated : String} {declaringClass : Option String}

theorem IsClear.isWord {s : String} (h : IsClear s) {without : List Char}
    (hsub : ∀ c ∈ s.toList, c ∈ without → c ∈ [':', '(', ')', '#']) : IsWord without s where
  ne_nil := h.word.ne_nil
  chars c hc := ⟨(h.word.chars c hc).1, fun hout => (h.word.chars c hc).2 (hsub c hc hout)⟩

/-- A clear name ends in no separator. -/
theorem IsClear.isObfuscated {s : String} (h : IsClear s) : IsObfuscated s where
  ne_nil := h.word.ne_nil
  trimmed := h.word.trimmed
  last hlast := h.word.not_mem (Or.inr (by simp)) (List.mem_of_getLast? hlast)

theorem IsClear.head {s : String} (h : IsClear s) : s.toList.head? ≠ some '#' := fun hhead =>
  h.word.not_mem (Or.inr (by simp)) (List.mem_of_head? hhead)

theorem IsClear.isType {s : String} (h : IsClear s) : IsType s where
  word := h.isWord (by simp +contextual)
  head := h.head

/-- A clear name is not written on two lines. -/
theorem IsClear.newline {s : String} (h : IsClear s) : '\n' ∉ s.toList :=
  h.word.not_mem (Or.inl (by decide))

theorem ClearMember.isQualified (h : ClearMember type declaringClass plain obfuscated) :
    IsQualified declaringClass plain where
  declaring declaring heq := (h.clear_class declaring heq).isWord (by simp +contextual)
  name := by
    refine h.clear_name.isWord fun c hc hout => ?_
    rcases List.mem_cons.1 hout with rfl | hdot
    · simp
    · rw [List.mem_singleton.1 hdot] at hc
      exact absurd hc h.name_dot

/-- The dot between a class and a name makes no arrow. -/
theorem not_arrow_infix_qualified
    (hclass : ∀ declaring, declaringClass = some declaring → ¬ arrow <:+: declaring.toList)
    (hplain : ¬ arrow <:+: plain.toList) : ¬ arrow <:+: qualified declaringClass plain := by
  cases declaringClass with
  | none => exact hplain
  | some declaring =>
    intro hinfix
    rcases infix_of_infix_append_cons (by decide) hinfix with hdeclaring | hname
    · exact hclass declaring rfl hdeclaring
    · exact hplain hname

theorem ClearMember.arrow (h : ClearMember type declaringClass plain obfuscated) :
    ¬ arrow <:+: qualified declaringClass plain :=
  not_arrow_infix_qualified (fun declaring heq => (h.clear_class declaring heq).arrow)
    h.clear_name.arrow

theorem ClearMember.newline (h : ClearMember type declaringClass plain obfuscated) :
    '\n' ∉ qualified declaringClass plain := fun hmem =>
  absurd (h.isQualified.chars '\n' hmem).1 (by decide)

end Components

/-! ### Clear lines -/

theorem newline_not_mem_rangeText (range : Option (LineNumber × LineNumber)) :
    '\n' ∉ rangeText range := by
  have hnumber : ∀ n : LineNumber, '\n' ∉ n.text := LineNumber.not_mem_text (by decide) (by decide)
  cases range with
  | none => simp [rangeText]
  | some lines => simp [rangeText, hnumber]

theorem PlainRange.newline_not_mem_text (range : PlainRange) : '\n' ∉ range.text := by
  have hnumber : ∀ n : LineNumber, '\n' ∉ n.text := LineNumber.not_mem_text (by decide) (by decide)
  cases range with
  | missing => simp [PlainRange.text]
  | line first => simp [PlainRange.text, hnumber]
  | range first last => simp [PlainRange.text, hnumber]

/-- A clear member is read as it is written. -/
theorem MemberLine.IsClear.wellFormed {member : MemberLine} (h : member.IsClear) :
    member.WellFormed := by
  have harrow : '\n' ∉ SymbolMap.arrow := by decide
  cases h with
  | field hmember =>
    refine .field ⟨hmember.clear_type.isType, hmember.isQualified, hmember.arrow,
      hmember.clear_obfuscated.isObfuscated, ?_⟩ ?_
    · exact hmember.clear_obfuscated.word.not_mem (Or.inr (by simp))
    · simp [FieldEntry.text, hmember.clear_type.newline, hmember.newline, harrow,
        hmember.clear_obfuscated.newline]
  | method hmember harguments =>
    have hblank := fun c hc => (harguments c hc).1
    have hnewline : '\n' ∉ _ := fun hmem => absurd (hblank '\n' hmem) (by decide)
    refine .method ⟨hmember.clear_type.isType, hmember.isQualified, trimmed_of_forall hblank, ?_,
      hmember.clear_obfuscated.isObfuscated⟩ ?_
    · exact fun hmem => (harguments ')' hmem).2 (by simp)
    · simp [MethodLine.text, newline_not_mem_rangeText, hmember.clear_type.newline, hmember.newline,
        hnewline, PlainRange.newline_not_mem_text, harrow, hmember.clear_obfuscated.newline]

/-- **A clear block is read as it is written.** -/
theorem Block.IsClear.wellFormed {block : Block} (h : block.IsClear) : block.WellFormed where
  header :=
    { plain_ne_nil := h.plain.word.ne_nil
      plain_trimmed := h.plain.word.trimmed
      plain_arrow := h.plain.arrow
      plain_head := h.plain.head
      obfuscated_ne_nil := h.obfuscated.word.ne_nil
      obfuscated_trimmed := h.obfuscated.word.trimmed
      obfuscated_colon := h.obfuscated.word.not_mem (Or.inr (by simp)) }
  header_line := by
    have harrow : '\n' ∉ SymbolMap.arrow := by decide
    simp [ClassEntry.text, h.plain.newline, harrow, h.obfuscated.newline]
  members member hmem := (h.members member hmem).wellFormed

end Deobfuscation.SymbolMap
