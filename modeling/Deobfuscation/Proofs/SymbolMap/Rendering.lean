import Mathlib.Data.List.Basic
import Deobfuscation.Proofs.LineNumber
import Deobfuscation.Proofs.Text.Cut

/-!
# Entries as they are written

An entry is written as a line of a symbol map, a method in one of several layouts: its range of
obfuscated lines may be missing, and its plain lines may be a range, a first line or nothing.
Each component has to keep clear of the separator that ends it; then the line is read as the
entry, whatever blanks stand around it.

* `ClassEntry.text`, `FieldEntry.text`, `MethodLine.text` — the lines;
* `ClassEntry.WellFormed`, `FieldEntry.Legible`, `MethodLine.Legible` — components that keep clear
  of the separators that end them where they stand;
* `FieldEntry.WellFormed`, `MethodLine.WellFormed` — components that keep clear of the separators
  wherever they stand;
* `ofText_class`, `ofText_legibleField`, `ofText_legibleMethod` — **proved**: each line is read as
  its entry.
-/

namespace Deobfuscation.SymbolMap

open Text

/-! ### Components -/

/-- A text that is neither empty nor has a blank or one of some other characters in it. -/
structure IsWord (without : List Char) (s : String) : Prop where
  ne_nil : s.toList ≠ []
  chars : ∀ c ∈ s.toList, isBlank c = false ∧ c ∉ without

theorem IsWord.trimmed {without : List Char} {s : String} (h : IsWord without s) :
    Trimmed s.toList :=
  trimmed_of_forall fun c hc => (h.chars c hc).1

theorem IsWord.not_mem {without : List Char} {s : String} (h : IsWord without s) {c : Char}
    (hc : isBlank c = true ∨ c ∈ without) : c ∉ s.toList := by
  intro hmem
  obtain ⟨hblank, hout⟩ := h.chars c hmem
  rcases hc with hc | hc
  · rw [hblank] at hc
    exact Bool.false_ne_true hc
  · exact hout hc

/-- A name with its declaring class in front. -/
def qualified (declaringClass : Option String) (name : String) : List Char :=
  match declaringClass with
  | some declaring => declaring.toList ++ '.' :: name.toList
  | none => name.toList

/-- A name of a member, and the class that declares it if it is told. -/
structure IsQualified (declaringClass : Option String) (name : String) : Prop where
  declaring : ∀ declaring, declaringClass = some declaring → IsWord ['('] declaring
  name : IsWord ['(', '.'] name

/-- A name that stands at the end of a member entry. -/
structure IsObfuscated (name : String) : Prop where
  ne_nil : name.toList ≠ []
  trimmed : Trimmed name.toList
  last : name.toList.getLast? ≠ some ':'

/-- A type, which does not look like a comment. -/
structure IsType (type : String) : Prop where
  word : IsWord [':'] type
  head : type.toList.head? ≠ some '#'

/-- A type that ends at the space behind it. -/
structure EndsAtSpace (type : String) : Prop where
  ne_nil : type.toList ≠ []
  trimmed : Trimmed type.toList
  space : ' ' ∉ type.toList

/-- A type that may begin a line: it looks neither like a range nor like a comment. -/
structure BeginsLine (type : String) : Prop where
  colon : ':' ∉ type.toList
  head : type.toList.head? ≠ some '#'

/-- A name that is parted from its declaring class at the last dot. -/
structure PartsAtDot (declaringClass : Option String) (name : String) : Prop where
  ne_nil : qualified declaringClass name ≠ []
  trimmed : Trimmed (qualified declaringClass name)
  dot : '.' ∉ name.toList

theorem IsType.endsAtSpace {type : String} (h : IsType type) : EndsAtSpace type :=
  ⟨h.word.ne_nil, h.word.trimmed, h.word.not_mem (Or.inl (by decide))⟩

theorem IsType.beginsLine {type : String} (h : IsType type) : BeginsLine type :=
  ⟨h.word.not_mem (Or.inr (by simp)), h.head⟩

/-! ### Names and their classes -/

section Qualified

variable {declaringClass : Option String} {name : String}

theorem IsQualified.chars (h : IsQualified declaringClass name) :
    ∀ c ∈ qualified declaringClass name, isBlank c = false ∧ c ≠ '(' := by
  intro c hc
  have hname : c ∈ name.toList → isBlank c = false ∧ c ≠ '(' := fun hmem => by
    obtain ⟨hblank, hout⟩ := h.name.chars c hmem
    exact ⟨hblank, fun heq => hout (by simp [heq])⟩
  cases declaringClass with
  | none => exact hname hc
  | some declaring =>
    rcases List.mem_append.1 hc with hmem | hmem
    · obtain ⟨hblank, hout⟩ := (h.declaring declaring rfl).chars c hmem
      exact ⟨hblank, fun heq => hout (by simp [heq])⟩
    · rcases List.mem_cons.1 hmem with rfl | hmem
      · decide
      · exact hname hmem

theorem IsQualified.ne_nil (h : IsQualified declaringClass name) :
    qualified declaringClass name ≠ [] := by
  cases declaringClass with
  | none => exact h.name.ne_nil
  | some declaring => simp [qualified]

theorem IsQualified.partsAtDot (h : IsQualified declaringClass name) :
    PartsAtDot declaringClass name :=
  ⟨h.ne_nil, trimmed_of_forall fun c hc => (h.chars c hc).1, h.name.not_mem (Or.inr (by simp))⟩

/-- A name is parted from its class again. -/
theorem declaringClassAndName_qualified (h : '.' ∉ name.toList) :
    declaringClassAndName (qualified declaringClass name) = (declaringClass, name) := by
  cases declaringClass with
  | none => rw [declaringClassAndName, qualified, cutLast?_none h, String.ofList_toList]
  | some declaring =>
    rw [declaringClassAndName, qualified, cutLast?_append h]
    simp only [String.ofList_toList]

end Qualified

/-! ### Trimmed parts -/

/-- A word with a space behind it. -/
theorem trim_append_space {s : List Char} (hs : Trimmed s) (hne : s ≠ []) :
    trim (s ++ [' ']) = s :=
  trim_append (List.forall_mem_singleton.2 (by decide)) hs hne

/-- A word with a space in front of it. -/
theorem trim_space_cons {s : List Char} (hs : Trimmed s) (hne : s ≠ []) :
    trim (' ' :: s) = s := by
  have hlead : ∀ c ∈ [' '], isBlank c = true := List.forall_mem_singleton.2 (by decide)
  have hnone : ∀ c ∈ ([] : List Char), isBlank c = true := by simp
  have htrim := trim_surround hlead hnone hs hne
  rwa [List.append_nil] at htrim

/-- A text that does not begin or end with a blank. -/
theorem trimmed_append {first middle last : List Char} (hfirst : Trimmed first) (hne : first ≠ [])
    (hlast : Trimmed last) (hne' : last ≠ []) : Trimmed (first ++ middle ++ last) where
  head c hc := by
    obtain ⟨d, s, rfl⟩ := List.exists_cons_of_ne_nil hne
    exact hfirst.head c hc
  last c hc := by
    rw [List.getLast?_append_of_ne_nil _ hne'] at hc
    exact hlast.last c hc

/-! ### Classes -/

/-- The line of a class entry. -/
def ClassEntry.text (entry : ClassEntry) : List Char :=
  entry.plain.toList ++ [' '] ++ arrow ++ ' ' :: (entry.obfuscated.toList ++ [':'])

/-- Names that keep clear of the separators of a class entry. -/
structure ClassEntry.WellFormed (entry : ClassEntry) : Prop where
  plain_ne_nil : entry.plain.toList ≠ []
  plain_trimmed : Trimmed entry.plain.toList
  plain_arrow : ¬ arrow <:+: entry.plain.toList
  plain_head : entry.plain.toList.head? ≠ some '#'
  obfuscated_ne_nil : entry.obfuscated.toList ≠ []
  obfuscated_trimmed : Trimmed entry.obfuscated.toList
  obfuscated_colon : ':' ∉ entry.obfuscated.toList

/-- A line is vacant only if it is empty or begins like a comment. -/
theorem isVacant_eq_false {s : List Char} (hne : s ≠ []) (h : s.head? ≠ some '#') :
    isVacant s = false := by
  cases s with
  | nil => exact absurd rfl hne
  | cons c s => exact beq_eq_false_iff_ne.2 fun heq => h (by rw [heq]; rfl)

/-- **The line of a class is read as the class.** -/
theorem ofText_class {entry : ClassEntry} (h : entry.WellFormed) {lead trail : List Char}
    (hlead : ∀ c ∈ lead, isBlank c = true) (htrail : ∀ c ∈ trail, isBlank c = true) :
    Entry.ofText (lead ++ entry.text ++ trail) = .ok (some (.ofClass entry)) := by
  have htext : entry.text = entry.plain.toList ++
      ([' '] ++ arrow ++ ' ' :: entry.obfuscated.toList) ++ [':'] := by
    simp [ClassEntry.text]
  have htrimmed : Trimmed entry.text := by
    rw [htext]
    have hcolon : Trimmed [':'] := trimmed_of_forall (List.forall_mem_singleton.2 (by decide))
    exact trimmed_append h.plain_trimmed h.plain_ne_nil hcolon (by simp)
  have hne : entry.text ≠ [] := by simp [ClassEntry.text]
  have hvacant : isVacant entry.text = false := by
    refine isVacant_eq_false hne ?_
    obtain ⟨c, s, hplain⟩ := List.exists_cons_of_ne_nil h.plain_ne_nil
    have hhead := h.plain_head
    rw [hplain] at hhead
    rw [ClassEntry.text, hplain]
    exact hhead
  have hheader : isHeader entry.text = true := by
    rw [isHeader, htext, List.getLast?_concat]
    rfl
  have hcut : cut? arrow entry.text =
      some (entry.plain.toList ++ [' '], ' ' :: (entry.obfuscated.toList ++ [':'])) :=
    cut?_arrow h.plain_arrow _
  have hcolon : cut? [':'] (' ' :: (entry.obfuscated.toList ++ [':'])) =
      some (' ' :: entry.obfuscated.toList, []) := by
    have hnot : ':' ∉ ' ' :: entry.obfuscated.toList := by
      rw [List.mem_cons, not_or]
      exact ⟨by decide, h.obfuscated_colon⟩
    exact cut?_char hnot []
  have hplain := trim_append_space h.plain_trimmed h.plain_ne_nil
  have hobfuscated := trim_space_cons h.obfuscated_trimmed h.obfuscated_ne_nil
  rw [Entry.ofText, trim_surround hlead htrail htrimmed hne, hvacant, if_neg Bool.false_ne_true,
    if_pos hheader, classOfText, hcut]
  dsimp only
  rw [hcolon]
  dsimp only
  rw [hplain, hobfuscated]
  simp [h.plain_ne_nil, h.obfuscated_ne_nil, Except.map]

/-! ### Fields -/

/-- The line of a field entry. -/
def FieldEntry.text (entry : FieldEntry) : List Char :=
  entry.type.toList ++ ' ' :: (qualified entry.declaringClass entry.plain ++ [' '] ++ arrow ++
    ' ' :: entry.obfuscated.toList)

/-- Names that keep clear of the separators of a field entry. -/
structure FieldEntry.WellFormed (entry : FieldEntry) : Prop where
  type : IsType entry.type
  name : IsQualified entry.declaringClass entry.plain
  arrow : ¬ arrow <:+: qualified entry.declaringClass entry.plain
  obfuscated : IsObfuscated entry.obfuscated
  parenthesis : '(' ∉ entry.obfuscated.toList

/-- Names that keep clear of the separators that end them in a field entry.  Parentheses may stand
in the names, only not as a pair. -/
structure FieldEntry.Legible (entry : FieldEntry) : Prop where
  type : EndsAtSpace entry.type
  lead : BeginsLine entry.type
  name : PartsAtDot entry.declaringClass entry.plain
  arrow : ¬ arrow <:+: qualified entry.declaringClass entry.plain
  parentheses :
    ¬ ['(', ')'].Sublist (qualified entry.declaringClass entry.plain ++ entry.obfuscated.toList)
  obfuscated : IsObfuscated entry.obfuscated

theorem FieldEntry.WellFormed.legible {entry : FieldEntry} (h : entry.WellFormed) :
    entry.Legible where
  type := h.type.endsAtSpace
  lead := h.type.beginsLine
  name := h.name.partsAtDot
  arrow := h.arrow
  parentheses hpair := by
    have hmem : '(' ∈ qualified entry.declaringClass entry.plain ++ entry.obfuscated.toList :=
      hpair.subset List.mem_cons_self
    rcases List.mem_append.1 hmem with hmem | hmem
    · exact (h.name.chars _ hmem).2 rfl
    · exact h.parenthesis hmem
  obfuscated := h.obfuscated

/-- **Parentheses are found exactly where an opening one is followed by a closing one.** -/
theorem aroundParentheses_eq_none_iff (s : List Char) :
    aroundParentheses s = none ↔ ¬ ['(', ')'].Sublist s := by
  by_cases hopen : '(' ∈ s
  · obtain ⟨name, rest, rfl, hname⟩ := List.eq_append_cons_of_mem hopen
    have hpair : ['(', ')'].Sublist (name ++ '(' :: rest) ↔ ')' ∈ rest := by
      constructor
      · intro hsub
        obtain ⟨front, back, hsplit, hfront, hback⟩ := List.sublist_append_iff.1 hsub
        cases front with
        | nil =>
          rw [List.nil_append] at hsplit
          subst hsplit
          exact List.singleton_sublist.1 (List.cons_sublist_cons.1 hback)
        | cons c front =>
          have hc : '(' = c := (List.cons.inj hsplit).1
          exact absurd (hfront.subset (hc ▸ List.mem_cons_self)) hname
      · intro hclose
        have hrest : ['(', ')'].Sublist ('(' :: rest) :=
          List.cons_sublist_cons.2 (List.singleton_sublist.2 hclose)
        exact hrest.trans (List.sublist_append_right name _)
    rw [aroundParentheses, cut?_char hname, hpair]
    dsimp only
    by_cases hclose : ')' ∈ rest
    · obtain ⟨arguments, tail, rfl, harguments⟩ := List.eq_append_cons_of_mem hclose
      simp [cut?_char harguments]
    · simp [cut?_char_none hclose, hclose]
  · rw [aroundParentheses, cut?_char_none hopen]
    simp only [true_iff]
    exact fun hsub => hopen (hsub.subset List.mem_cons_self)

/-- What has no parentheses in it does not make a pair of those around it. -/
theorem not_parentheses_append {first middle last : List Char}
    (hmiddle : ∀ c ∈ middle, c ≠ '(' ∧ c ≠ ')')
    (h : ¬ ['(', ')'].Sublist (first ++ last)) :
    ¬ ['(', ')'].Sublist (first ++ middle ++ last) := by
  intro hsub
  have hfilter := hsub.filter fun c => c == '(' || c == ')'
  have hnil : middle.filter (fun c => c == '(' || c == ')') = [] :=
    List.filter_eq_nil_iff.2 fun c hc => by simp [hmiddle c hc]
  rw [List.filter_append, List.filter_append, hnil, List.append_nil,
    ← List.filter_append] at hfilter
  exact h (hfilter.trans List.filter_sublist)

/-- A line of a member is neither vacant nor the line of a class. -/
theorem ofText_member {first middle last lead trail : List Char} (hfirst : Trimmed first)
    (hne : first ≠ []) (hhead : first.head? ≠ some '#') (hlast : Trimmed last) (hne' : last ≠ [])
    (hcolon : last.getLast? ≠ some ':') (hlead : ∀ c ∈ lead, isBlank c = true)
    (htrail : ∀ c ∈ trail, isBlank c = true) :
    Entry.ofText (lead ++ (first ++ middle ++ last) ++ trail) =
      memberOfText (first ++ middle ++ last) := by
  have hne'' : first ++ middle ++ last ≠ [] := by simp [hne]
  have hvacant : isVacant (first ++ middle ++ last) = false := by
    refine isVacant_eq_false hne'' ?_
    obtain ⟨c, s, rfl⟩ := List.exists_cons_of_ne_nil hne
    exact hhead
  have hheader : isHeader (first ++ middle ++ last) = false := by
    rw [isHeader, List.getLast?_append_of_ne_nil _ hne']
    exact beq_eq_false_iff_ne.2 hcolon
  rw [Entry.ofText, trim_surround hlead htrail (trimmed_append hfirst hne hlast hne') hne'',
    hvacant, if_neg Bool.false_ne_true, hheader, if_neg Bool.false_ne_true]

/-- **The line of a field is read as the field**, if its names keep clear of the separators that
end them. -/
theorem ofText_legibleField {entry : FieldEntry} (h : entry.Legible) {lead trail : List Char}
    (hlead : ∀ c ∈ lead, isBlank c = true) (htrail : ∀ c ∈ trail, isBlank c = true) :
    Entry.ofText (lead ++ entry.text ++ trail) = .ok (some (.ofField entry)) := by
  have htext : entry.text = entry.type.toList ++ (' ' :: (qualified entry.declaringClass
      entry.plain ++ [' '] ++ arrow ++ [' '])) ++ entry.obfuscated.toList := by
    simp [FieldEntry.text]
  have hspace : cut? [' '] entry.text = some (entry.type.toList,
      qualified entry.declaringClass entry.plain ++ [' '] ++ arrow ++
        ' ' :: entry.obfuscated.toList) :=
    cut?_char h.type.space _
  have hrange : rangeAndType entry.type.toList = (none, entry.type.toList) := by
    rw [rangeAndType, cut?_char_none h.lead.colon]
  have hparentheses : aroundParentheses (qualified entry.declaringClass entry.plain ++ [' '] ++
      arrow ++ ' ' :: entry.obfuscated.toList) = none := by
    have hmiddle : ∀ c ∈ [' '] ++ arrow ++ [' '], c ≠ '(' ∧ c ≠ ')' := by simp [arrow]
    have hpair := not_parentheses_append hmiddle h.parentheses
    rw [aroundParentheses_eq_none_iff]
    simpa using hpair
  have hcut := cut?_arrow h.arrow (' ' :: entry.obfuscated.toList)
  have htrimName := trim_append_space h.name.trimmed h.name.ne_nil
  have htrimType := h.type.trimmed.trim
  have htrimObfuscated := trim_space_cons h.obfuscated.trimmed h.obfuscated.ne_nil
  rw [htext, ofText_member h.type.trimmed h.type.ne_nil h.lead.head h.obfuscated.trimmed
    h.obfuscated.ne_nil h.obfuscated.last hlead htrail, ← htext, memberOfText, hspace]
  dsimp only
  rw [hrange]
  dsimp only
  rw [hparentheses, hcut]
  dsimp only
  rw [htrimType, htrimName, htrimObfuscated, fieldOfParts]
  simp [h.type.ne_nil, h.name.ne_nil, h.obfuscated.ne_nil,
    declaringClassAndName_qualified h.name.dot]

theorem ofText_field {entry : FieldEntry} (h : entry.WellFormed) {lead trail : List Char}
    (hlead : ∀ c ∈ lead, isBlank c = true) (htrail : ∀ c ∈ trail, isBlank c = true) :
    Entry.ofText (lead ++ entry.text ++ trail) = .ok (some (.ofField entry)) :=
  ofText_legibleField h.legible hlead htrail

/-! ### Methods -/

/-- What follows the arguments of a method. -/
inductive PlainRange where
  /-- Nothing. -/
  | missing
  /-- The first plain line. -/
  | line (first : LineNumber)
  /-- The first and the last plain line. -/
  | range (first last : LineNumber)
  deriving DecidableEq, Repr

/-- The line of a method by its parts. -/
structure MethodLine where
  range : Option (LineNumber × LineNumber)
  type : String
  declaringClass : Option String
  plain : String
  arguments : String
  plainRange : PlainRange
  obfuscated : String
  deriving DecidableEq, Repr

/-- A range of obfuscated lines in front of a type. -/
def rangeText : Option (LineNumber × LineNumber) → List Char
  | none => []
  | some (first, last) => first.text ++ ':' :: (last.text ++ [':'])

/-- Plain lines behind the arguments. -/
def PlainRange.text : PlainRange → List Char
  | missing => []
  | line first => ':' :: first.text
  | range first last => ':' :: (first.text ++ ':' :: last.text)

namespace MethodLine

/-- The line as it is written. -/
def text (line : MethodLine) : List Char :=
  rangeText line.range ++ line.type.toList ++ ' ' :: (qualified line.declaringClass line.plain ++
    '(' :: (line.arguments.toList ++ ')' :: (line.plainRange.text ++ [' '] ++ arrow ++
      ' ' :: line.obfuscated.toList)))

/-- The lines that the line tells: a missing range is unknown, missing plain lines are the
obfuscated ones, and a first plain line is also the last. -/
def lines (line : MethodLine) : LineMap :=
  let range := line.range.getD (0, 0)
  match line.plainRange with
  | .missing => ⟨range.1, range.2, range.1, range.2⟩
  | .line first => ⟨range.1, range.2, first, first⟩
  | .range first last => ⟨range.1, range.2, first, last⟩

/-- The method that the line tells. -/
def entry (line : MethodLine) : MethodEntry :=
  { type := line.type
    plain := line.plain
    obfuscated := line.obfuscated
    declaringClass := line.declaringClass
    arguments := line.arguments
    lines := line.lines }

/-- Names that keep clear of the separators of a method entry. -/
structure WellFormed (line : MethodLine) : Prop where
  type : IsType line.type
  name : IsQualified line.declaringClass line.plain
  arguments_trimmed : Trimmed line.arguments.toList
  arguments_parenthesis : ')' ∉ line.arguments.toList
  obfuscated : IsObfuscated line.obfuscated

/-- Names that keep clear of the separators that end them in a method entry.  A type that no range
leads begins the line. -/
structure Legible (line : MethodLine) : Prop where
  type : EndsAtSpace line.type
  lead : line.range = none → BeginsLine line.type
  name : PartsAtDot line.declaringClass line.plain
  name_parenthesis : '(' ∉ qualified line.declaringClass line.plain
  arguments_trimmed : Trimmed line.arguments.toList
  arguments_parenthesis : ')' ∉ line.arguments.toList
  obfuscated : IsObfuscated line.obfuscated

theorem WellFormed.legible {line : MethodLine} (h : line.WellFormed) : line.Legible where
  type := h.type.endsAtSpace
  lead _ := h.type.beginsLine
  name := h.name.partsAtDot
  name_parenthesis hmem := (h.name.chars _ hmem).2 rfl
  arguments_trimmed := h.arguments_trimmed
  arguments_parenthesis := h.arguments_parenthesis
  obfuscated := h.obfuscated

end MethodLine

/-! ### Written lines -/

/-- A digit is not blank. -/
theorem isBlank_of_isDigit {c : Char} (h : c.isDigit = true) : isBlank c = false := by
  have hrange : 48 ≤ c.toNat ∧ c.toNat ≤ 57 := by
    simpa [Char.isDigit, UInt32.le_iff_toNat_le] using h
  have hout : ∀ range ∈ blankRanges, ¬(range.1 ≤ c.toNat ∧ c.toNat ≤ range.2) := by
    simp only [blankRanges, List.forall_mem_cons, List.not_mem_nil, false_implies, implies_true,
      and_true]
    omega
  rw [isBlank, inRanges, Unicode.Ranges.contains, List.any_eq_false]
  intro range hmem
  simpa using hout range hmem

theorem isBlank_of_mem_text {n : LineNumber} {c : Char} (h : c ∈ n.text) : isBlank c = false := by
  rcases LineNumber.isDigit_of_mem_text h with hdigit | rfl
  · exact isBlank_of_isDigit hdigit
  · decide

/-- **A written line number is read, blanks around it aside.** -/
theorem lineOfText_text_append (n : LineNumber) {trail : List Char}
    (htrail : ∀ c ∈ trail, isBlank c = true) : lineOfText (n.text ++ trail) = .ok n := by
  have htrimmed : Trimmed n.text := trimmed_of_forall fun c hc => isBlank_of_mem_text hc
  rw [lineOfText, trim_append htrail htrimmed n.text_ne_nil, LineNumber.ofText?_text]

theorem lineOfText_text (n : LineNumber) : lineOfText n.text = .ok n := by
  have hnone : ∀ c ∈ ([] : List Char), isBlank c = true := by simp
  have hline := lineOfText_text_append n hnone
  rwa [List.append_nil] at hline

/-- The range and the type in front of a member's name are parted again. -/
theorem rangeAndType_append {range : Option (LineNumber × LineNumber)} {type : String}
    (htype : range = none → BeginsLine type) :
    rangeAndType (rangeText range ++ type.toList) =
      (range.map fun lines => (lines.1.text, lines.2.text), type.toList) := by
  have hcolon : ∀ n : LineNumber, ':' ∉ n.text := LineNumber.not_mem_text (by decide) (by decide)
  cases range with
  | none =>
    rw [rangeText, List.nil_append, rangeAndType, cut?_char_none (htype rfl).colon]
    rfl
  | some lines =>
    have htext : rangeText (some lines) ++ type.toList =
        lines.1.text ++ ':' :: (lines.2.text ++ ':' :: type.toList) := by
      simp [rangeText]
    rw [htext, rangeAndType, cut?_char (hcolon lines.1)]
    dsimp only
    rw [cut?_char (hcolon lines.2)]
    rfl

/-- The range of obfuscated lines is read. -/
theorem obfuscatedLines_text (range : Option (LineNumber × LineNumber)) :
    obfuscatedLines (range.map fun lines => (lines.1.text, lines.2.text)) =
      .ok ⟨(range.getD (0, 0)).1, (range.getD (0, 0)).2, (range.getD (0, 0)).1,
        (range.getD (0, 0)).2⟩ := by
  cases range with
  | none => rfl
  | some lines =>
    rw [Option.map_some, obfuscatedLines, lineOfText_text, lineOfText_text]
    rfl

/-- Plain lines follow a colon. -/
theorem plainLines_colon (range : List Char) (lines : LineMap) :
    plainLines (':' :: range) lines =
      match cut? [':'] range with
      | some (first, last) => do
        let first ← lineOfText first
        let last ← lineOfText last
        return { lines with plainFirst := first, plainLast := last }
      | none => do
        let line ← lineOfText range
        return { lines with plainFirst := line, plainLast := line } := by
  rw [plainLines, trimStart_of_head (by decide)]
  rfl

/-- The plain lines are read, or left as they are. -/
theorem plainLines_text (line : MethodLine) :
    plainLines (line.plainRange.text ++ [' '])
      ⟨(line.range.getD (0, 0)).1, (line.range.getD (0, 0)).2, (line.range.getD (0, 0)).1,
        (line.range.getD (0, 0)).2⟩ = .ok line.lines := by
  have hcolon : ∀ n : LineNumber, ':' ∉ n.text := LineNumber.not_mem_text (by decide) (by decide)
  have hspace : ∀ n : LineNumber, lineOfText (n.text ++ [' ']) = .ok n :=
    fun n => lineOfText_text_append n (List.forall_mem_singleton.2 (by decide))
  cases h : line.plainRange with
  | missing =>
    rw [PlainRange.text, MethodLine.lines, h]
    rfl
  | line first =>
    have hnot : ':' ∉ first.text ++ [' '] := by
      rw [List.mem_append, not_or]
      exact ⟨hcolon first, by decide⟩
    rw [PlainRange.text, MethodLine.lines, h, List.cons_append, plainLines_colon,
      cut?_char_none hnot]
    dsimp only
    rw [hspace]
    rfl
  | range first last =>
    rw [PlainRange.text, MethodLine.lines, h, List.cons_append, plainLines_colon,
      List.append_assoc, List.cons_append, cut?_char (hcolon first)]
    dsimp only
    rw [lineOfText_text, hspace]
    rfl

/-- There is no arrow among plain lines. -/
theorem PlainRange.arrow_text (range : PlainRange) : ¬ arrow <:+: range.text := by
  have hnot : ∀ n : LineNumber, '>' ∉ n.text := LineNumber.not_mem_text (by decide) (by decide)
  intro hinfix
  have hmem : '>' ∈ range.text := hinfix.subset (by decide)
  cases range with
  | missing => simp [PlainRange.text] at hmem
  | line first => simp [PlainRange.text, hnot] at hmem
  | range first last => simp [PlainRange.text, hnot] at hmem

/-- There is no blank in a range. -/
theorem isBlank_of_mem_rangeText {range : Option (LineNumber × LineNumber)} {c : Char}
    (h : c ∈ rangeText range) : isBlank c = false := by
  cases range with
  | none => exact absurd h List.not_mem_nil
  | some lines =>
    simp only [rangeText, List.mem_append, List.mem_cons, List.not_mem_nil, or_false] at h
    rcases h with hmem | rfl | hmem | rfl
    · exact isBlank_of_mem_text hmem
    · decide
    · exact isBlank_of_mem_text hmem
    · decide

/-- A range that is told begins with a digit or a sign. -/
theorem exists_rangeText_some (lines : LineNumber × LineNumber) :
    ∃ c s, rangeText (some lines) = c :: s ∧ isBlank c = false ∧ c ≠ '#' := by
  obtain ⟨c, s, htext⟩ := List.exists_cons_of_ne_nil lines.1.text_ne_nil
  have hmem : c ∈ lines.1.text := by simp [htext]
  refine ⟨c, s ++ ':' :: (lines.2.text ++ [':']), by simp [rangeText, htext],
    isBlank_of_mem_text hmem, ?_⟩
  rintro rfl
  exact lines.1.not_mem_text (c := '#') (by decide) (by decide) hmem

/-- What stands in front of the first space of a member is trimmed. -/
theorem trimmed_rangeText_append (range : Option (LineNumber × LineNumber)) {type : String}
    (htype : EndsAtSpace type) : Trimmed (rangeText range ++ type.toList) where
  head c hc := by
    cases range with
    | none => exact htype.trimmed.head c hc
    | some lines =>
      obtain ⟨d, s, htext, hblank, -⟩ := exists_rangeText_some lines
      rw [htext] at hc
      exact Option.some.inj hc ▸ hblank
  last c hc := by
    rw [List.getLast?_append_of_ne_nil _ htype.ne_nil] at hc
    exact htype.trimmed.last c hc

/-- What stands in front of the first space of a member does not look like a comment. -/
theorem head?_rangeText_append {range : Option (LineNumber × LineNumber)} {type : String}
    (htype : range = none → BeginsLine type) :
    (rangeText range ++ type.toList).head? ≠ some '#' := by
  cases range with
  | none => exact (htype rfl).head
  | some lines =>
    obtain ⟨c, s, htext, -, hc⟩ := exists_rangeText_some lines
    rw [htext]
    exact fun hhead => hc (Option.some.inj hhead)

/-- **The line of a method is read as the method**, if its names keep clear of the separators that
end them. -/
theorem ofText_legibleMethod {line : MethodLine} (h : line.Legible) {lead trail : List Char}
    (hlead : ∀ c ∈ lead, isBlank c = true) (htrail : ∀ c ∈ trail, isBlank c = true) :
    Entry.ofText (lead ++ line.text ++ trail) = .ok (some (.ofMethod line.entry)) := by
  have hheadSome : rangeText line.range ++ line.type.toList ≠ [] := by
    simp [h.type.ne_nil]
  -- the separators, from left to right
  have hspace : cut? [' '] line.text = some (rangeText line.range ++ line.type.toList,
      qualified line.declaringClass line.plain ++ '(' :: (line.arguments.toList ++
        ')' :: (line.plainRange.text ++ [' '] ++ arrow ++ ' ' :: line.obfuscated.toList))) := by
    refine cut?_char (fun hmem => ?_) _
    rcases List.mem_append.1 hmem with hmem | hmem
    · have hblank := isBlank_of_mem_rangeText hmem
      revert hblank
      decide
    · exact h.type.space hmem
  have hparentheses : aroundParentheses (qualified line.declaringClass line.plain ++
      '(' :: (line.arguments.toList ++
        ')' :: (line.plainRange.text ++ [' '] ++ arrow ++ ' ' :: line.obfuscated.toList))) =
      some (qualified line.declaringClass line.plain, line.arguments.toList,
        line.plainRange.text ++ [' '] ++ arrow ++ ' ' :: line.obfuscated.toList) := by
    rw [aroundParentheses, cut?_char h.name_parenthesis]
    dsimp only
    rw [cut?_char h.arguments_parenthesis]
    rfl
  have hcut := cut?_arrow line.plainRange.arrow_text (' ' :: line.obfuscated.toList)
  -- the parts between them
  have htrimName := h.name.trimmed.trim
  have htrimType := h.type.trimmed.trim
  have htrimArguments := h.arguments_trimmed.trim
  have htrimObfuscated := trim_space_cons h.obfuscated.trimmed h.obfuscated.ne_nil
  have htext : line.text = (rangeText line.range ++ line.type.toList) ++
      (' ' :: (qualified line.declaringClass line.plain ++ '(' :: (line.arguments.toList ++
        ')' :: (line.plainRange.text ++ [' '] ++ arrow ++ [' '])))) ++ line.obfuscated.toList := by
    simp [MethodLine.text]
  rw [htext, ofText_member (trimmed_rangeText_append line.range h.type) hheadSome
    (head?_rangeText_append h.lead) h.obfuscated.trimmed h.obfuscated.ne_nil h.obfuscated.last
    hlead htrail, ← htext, memberOfText, hspace]
  dsimp only
  rw [rangeAndType_append h.lead]
  dsimp only
  rw [hparentheses]
  dsimp only
  rw [hcut]
  dsimp only
  rw [htrimType, htrimName, htrimArguments, htrimObfuscated, methodOfParts, obfuscatedLines_text]
  simp [h.type.ne_nil, h.name.ne_nil, h.obfuscated.ne_nil, plainLines_text,
    declaringClassAndName_qualified h.name.dot, bind, Except.bind, pure, Except.pure,
    MethodLine.entry]

theorem ofText_method {line : MethodLine} (h : line.WellFormed) {lead trail : List Char}
    (hlead : ∀ c ∈ lead, isBlank c = true) (htrail : ∀ c ∈ trail, isBlank c = true) :
    Entry.ofText (lead ++ line.text ++ trail) = .ok (some (.ofMethod line.entry)) :=
  ofText_legibleMethod h.legible hlead htrail

end Deobfuscation.SymbolMap
