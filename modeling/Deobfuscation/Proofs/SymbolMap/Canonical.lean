import Deobfuscation.Proofs.SymbolMap.Cuts
import Deobfuscation.Proofs.SymbolMap.Layouts

/-!
# Canonical lines

Many lines tell the same entry: blanks stand around its parts, line numbers are padded or left
out, and what follows the arguments of a method may be ignored.  One line of them is canonical,
which writes the entry with all of its line numbers and nothing else.  Whatever text an entry is
read from, its canonical line is read as the same entry: the cuts of the grammar leave only
components that keep clear of the separators that end them.

* `Entry.line` — the canonical line of an entry;
* `Entry.KeepsClear` — the components of an entry keep clear of the separators that end them in its
  canonical line: so it is for every entry that is read (`Reads.keepsClear`, **proved**), and
  then the line is read as the entry (`KeepsClear.ofText`, **proved**);
* `ofText_text_line` — **proved**: the canonical line of an entry that was read is read as the
  entry.
-/

namespace Deobfuscation.SymbolMap

open Text

/-! ### The canonical line -/

/-- The line of a method with its lines written in full. -/
def MethodEntry.line (entry : MethodEntry) : MethodLine where
  range := some (entry.lines.first, entry.lines.last)
  type := entry.type
  declaringClass := entry.declaringClass
  plain := entry.plain
  arguments := entry.arguments
  plainRange := .range entry.lines.plainFirst entry.lines.plainLast
  obfuscated := entry.obfuscated

/-- The canonical line of an entry. -/
def Entry.line : Entry → EntryLine
  | .ofClass entry => .header entry
  | .ofField entry => .member (.field entry)
  | .ofMethod entry => .member (.method entry.line)

/-- The components of an entry keep clear of the separators that end them in its canonical line.
Nothing stands in front of the type of a field to tell it from a range or a comment. -/
inductive Entry.KeepsClear : Entry → Prop
  | header {entry : ClassEntry} : entry.WellFormed → KeepsClear (.ofClass entry)
  | field {entry : FieldEntry} : (BeginsLine entry.type → entry.Legible) →
    KeepsClear (.ofField entry)
  | method {entry : MethodEntry} : entry.line.Legible → KeepsClear (.ofMethod entry)

/-- **The canonical line of an entry that keeps clear of the separators is read as the entry.** -/
theorem Entry.KeepsClear.ofText {entry : Entry} (h : entry.KeepsClear)
    (hfield : ∀ field, entry = .ofField field → BeginsLine field.type) :
    Entry.ofText entry.line.text = .ok (some entry) := by
  have hnone : ∀ c ∈ ([] : List Char), isBlank c = true := by simp
  have hread : Entry.ofText ([] ++ entry.line.text ++ []) = .ok (some entry) := by
    cases h with
    | header hentry => exact ofText_class hentry hnone hnone
    | field hentry => exact ofText_legibleField (hentry (hfield _ rfl)) hnone hnone
    | method hentry => exact ofText_legibleMethod hentry hnone hnone
  rwa [List.nil_append, List.append_nil] at hread

/-! ### Components that are read -/

/-- A name is parted from its declaring class at the last dot, and nothing of it is lost. -/
theorem qualified_declaringClassAndName (name : List Char) :
    qualified (declaringClassAndName name).1 (declaringClassAndName name).2 = name ∧
      '.' ∉ (declaringClassAndName name).2.toList := by
  rw [declaringClassAndName]
  cases h : cutLast? '.' name with
  | none =>
    simp only [qualified, String.toList_ofList, true_and]
    exact not_mem_of_cutLast?_none h
  | some sides =>
    obtain ⟨hname, hdot⟩ := eq_of_cutLast? h
    simp only [qualified, String.toList_ofList]
    exact ⟨hname.symm, hdot⟩

theorem partsAtDot_declaringClassAndName {name : List Char} (hne : trim name ≠ []) :
    PartsAtDot (declaringClassAndName (trim name)).1 (declaringClassAndName (trim name)).2 := by
  obtain ⟨hname, hdot⟩ := qualified_declaringClassAndName (trim name)
  exact ⟨by rwa [hname], by rw [hname]; exact trimmed_trim name, hdot⟩

/-- The head of a member stands before the first space, and so does its type. -/
theorem endsAtSpace_trim {line head rest : List Char} (hcut : cut? [' '] line = some (head, rest))
    (hne : trim (rangeAndType head).2 ≠ []) :
    EndsAtSpace (String.ofList (trim (rangeAndType head).2)) := by
  have hsub : ∀ c ∈ trim (rangeAndType head).2, c ∈ head := fun c hc =>
    (rangeAndType_suffix head).subset ((isInfix_trim _).subset hc)
  refine ⟨?_, ?_, ?_⟩ <;> rw [String.toList_ofList]
  · exact hne
  · exact trimmed_trim _
  · exact fun hmem => not_mem_of_cut? hcut (hsub _ hmem)

/-- The obfuscated name of a member ends where its line ends. -/
theorem isObfuscated_trim {front back : List Char} (htrimmed : Trimmed (front ++ back))
    (hheader : isHeader (front ++ back) = false) (hne : trim back ≠ []) :
    IsObfuscated (String.ofList (trim back)) := by
  refine ⟨?_, ?_, ?_⟩ <;> rw [String.toList_ofList]
  · exact hne
  · exact trimmed_trim back
  · rw [htrimmed.getLast?_trim hne]
    exact beq_eq_false_iff_ne.1 hheader

/-- The plain name of a class begins where its line begins. -/
theorem head?_trim_ne {front back : List Char} (htrimmed : Trimmed (front ++ back))
    (hvacant : isVacant (front ++ back) = false) (hne : trim front ≠ []) :
    (trim front).head? ≠ some '#' := by
  rw [htrimmed.head?_trim hne]
  intro hcomment
  obtain ⟨s, hs⟩ := List.head?_eq_some_iff.1 hcomment
  rw [hs] at hvacant
  exact absurd hvacant (by simp [isVacant])

/-! ### Entries that are read -/

section Entries

variable {line : List Char} (htrimmed : Trimmed line)
include htrimmed

/-- The names of a class that is read. -/
theorem wellFormed_of_cuts (hvacant : isVacant line = false)
    {plain rest obfuscated tail : List Char}
    (harrow : cut? arrow line = some (plain, rest))
    (hcolon : cut? [':'] rest = some (obfuscated, tail)) (hplain : trim plain ≠ [])
    (hobfuscated : trim obfuscated ≠ []) :
    ClassEntry.WellFormed ⟨String.ofList (trim plain), String.ofList (trim obfuscated)⟩ := by
  have hline := eq_of_cut? harrow
  rw [List.append_assoc] at hline
  subst hline
  refine ⟨?_, ?_, ?_, ?_, ?_, ?_, ?_⟩ <;> dsimp only <;> rw [String.toList_ofList]
  · exact hplain
  · exact trimmed_trim plain
  · exact fun hinside => not_infix_of_cut? (by decide) harrow (hinside.trans (isInfix_trim plain))
  · exact head?_trim_ne htrimmed hvacant hplain
  · exact hobfuscated
  · exact trimmed_trim obfuscated
  · exact fun hmem => not_mem_of_cut? hcolon ((isInfix_trim obfuscated).subset hmem)

/-- The components of a field that is read. -/
theorem legible_of_cuts (hheader : isHeader line = false) {head rest name obfuscated : List Char}
    (hspace : cut? [' '] line = some (head, rest)) (hparentheses : aroundParentheses rest = none)
    (harrow : cut? arrow rest = some (name, obfuscated)) (htype : trim (rangeAndType head).2 ≠ [])
    (hname : trim name ≠ []) (hobfuscated : trim obfuscated ≠ [])
    (hlead : BeginsLine (fieldBetween (rangeAndType head).2 name obfuscated).type) :
    (fieldBetween (rangeAndType head).2 name obfuscated).Legible := by
  have hrest := eq_of_cut? harrow
  have hline : line = head ++ [' '] ++ (name ++ arrow) ++ obfuscated := by
    rw [eq_of_cut? hspace, hrest]
    simp
  have hqualified := (qualified_declaringClassAndName (trim name)).1
  rw [hline] at htrimmed hheader
  exact
    { type := endsAtSpace_trim hspace htype
      lead := hlead
      name := partsAtDot_declaringClassAndName hname
      arrow := by
        simp only [fieldBetween]
        rw [hqualified]
        exact fun hinside => not_infix_of_cut? (by decide) harrow
          (hinside.trans (isInfix_trim name))
      parentheses := by
        simp only [fieldBetween]
        rw [hqualified, String.toList_ofList]
        intro hpair
        -- the names stand in the rest of the line, where there is no pair
        refine (aroundParentheses_eq_none_iff rest).1 hparentheses (hpair.trans ?_)
        rw [hrest]
        exact ((isInfix_trim name).sublist.trans (List.sublist_append_left _ _)).append
          (isInfix_trim obfuscated).sublist
      obfuscated := isObfuscated_trim htrimmed hheader hobfuscated }

/-- The components of a method that is read. -/
theorem legible_line_of_cuts (hheader : isHeader line = false)
    {head rest name arguments tail suffix obfuscated : List Char}
    (hspace : cut? [' '] line = some (head, rest))
    (hparentheses : aroundParentheses rest = some (name, arguments, tail))
    (harrow : cut? arrow tail = some (suffix, obfuscated))
    (htype : trim (rangeAndType head).2 ≠ []) (hname : trim name ≠ [])
    (hobfuscated : trim obfuscated ≠ []) (lines : LineMap) :
    (methodBetween (rangeAndType head).2 name arguments obfuscated lines).line.Legible := by
  obtain ⟨hrest, hopen, hclose⟩ := of_aroundParentheses hparentheses
  have hline : line =
      head ++ [' '] ++ (name ++ ['('] ++ (arguments ++ [')'] ++ (suffix ++ arrow))) ++
        obfuscated := by
    rw [eq_of_cut? hspace, hrest, eq_of_cut? harrow]
    simp
  have hqualified := (qualified_declaringClassAndName (trim name)).1
  rw [hline] at htrimmed hheader
  exact
    { type := endsAtSpace_trim hspace htype
      lead := fun hnone => absurd hnone (by simp [MethodEntry.line])
      name := partsAtDot_declaringClassAndName hname
      name_parenthesis := by
        simp only [MethodEntry.line, methodBetween]
        rw [hqualified]
        exact fun hmem => hopen ((isInfix_trim name).subset hmem)
      arguments_trimmed := by
        simp only [MethodEntry.line, methodBetween]
        rw [String.toList_ofList]
        exact trimmed_trim arguments
      arguments_parenthesis := by
        simp only [MethodEntry.line, methodBetween]
        rw [String.toList_ofList]
        exact fun hmem => hclose ((isInfix_trim arguments).subset hmem)
      obfuscated := isObfuscated_trim htrimmed hheader hobfuscated }

/-- **The components of an entry that is read keep clear of the separators that end them.** -/
theorem Reads.keepsClear {entry : Entry} (hvacant : isVacant line = false) (h : Reads line entry) :
    entry.KeepsClear := by
  cases h with
  | header _ harrow hcolon hplain hobfuscated =>
    exact .header (wellFormed_of_cuts htrimmed hvacant harrow hcolon hplain hobfuscated)
  | field hheader hspace hparentheses harrow htype hname hobfuscated =>
    exact .field
      (legible_of_cuts htrimmed hheader hspace hparentheses harrow htype hname hobfuscated)
  | method hheader hspace hparentheses harrow htype hname hobfuscated =>
    exact .method
      (legible_line_of_cuts htrimmed hheader hspace hparentheses harrow htype hname hobfuscated _)

end Entries

/-- **Whatever text an entry is read from, its canonical line is read as the same entry**, a field
provided that its type may begin a line. -/
theorem ofText_text_line {s : List Char} {entry : Entry} (h : Entry.ofText s = .ok (some entry))
    (hfield : ∀ field, entry = .ofField field → BeginsLine field.type) :
    Entry.ofText entry.line.text = .ok (some entry) := by
  obtain ⟨hvacant, hreads⟩ := reads_of_ofText h
  exact (hreads.keepsClear (trimmed_trim s) hvacant).ofText hfield

/-- A method among stray blanks, with an arrow and a dot in its name, a colon in its type and
numbers that are padded and signed. -/
theorem ofText_text_line_strayed :
    Entry.ofText "  -01:+007:\u00a0in:t \ta->.b ( x -> (y ) :+08 : -0 -> -> c: (d)\r\n".toList =
        Entry.ofText "-1:7:in:t a->.b(x -> (y):8:0 -> -> c: (d)".toList ∧
      Entry.ofText "-1:7:in:t a->.b(x -> (y):8:0 -> -> c: (d)".toList = .ok (some (.ofMethod
        ⟨"in:t", "b", "-> c: (d)", some "a->", "x -> (y", ⟨-1, 7, 8, 0⟩⟩)) := by
  have hread : Entry.ofText
      "  -01:+007:\u00a0in:t \ta->.b ( x -> (y ) :+08 : -0 -> -> c: (d)\r\n".toList =
        .ok (some (.ofMethod
          ⟨"in:t", "b", "-> c: (d)", some "a->", "x -> (y", ⟨-1, 7, 8, 0⟩⟩)) := by
    decide +kernel
  have hcanonical := ofText_text_line hread (by simp)
  exact ⟨hread.trans hcanonical.symm, hcanonical⟩

end Deobfuscation.SymbolMap
