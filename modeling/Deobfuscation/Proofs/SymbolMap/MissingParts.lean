import Deobfuscation.Proofs.SymbolMap.Canonical

/-!
# Missing parts

A member is told by its type, its name and its obfuscated name, and a line that lacks one of them
tells nothing.  Whether it does is asked of the name as it is written, in front of which the
declaring class may stand.  So a name that ends in a dot is taken for one, and the member that is
read has a declaring class but no name of its own; and behind a dot that begins the name there is a
member of a class without a name.

* `MemberParts`, `writtenParts?`, `Entry.names?` — the parts of a member as they are written in its
  line, and its names as they are read;
* `writtenParts?_of_reads` — **proved**: what is read is what is written;
* `memberOfText_eq_none_iff` — **proved**: a member's line tells nothing just if a part is missing;
* `plain_eq_empty_iff`, `declaringClass_eq_empty_iff` — **proved**: which names are read without a
  plain name, or with an empty declaring class;
* `parts_of_ofText` — **proved**: the parts that are missing in an entry that is read.
-/

namespace Deobfuscation.SymbolMap

open Text

/-! ### Written parts -/

/-- The parts of a member without the blanks around them: its type, its name with the declaring
class, if there is one, and its obfuscated name. -/
structure MemberParts where
  type : List Char
  name : List Char
  obfuscated : List Char
  deriving DecidableEq, Repr

/-- None of the parts is missing. -/
def MemberParts.Complete (parts : MemberParts) : Prop :=
  parts.type ≠ [] ∧ parts.name ≠ [] ∧ parts.obfuscated ≠ []

instance (parts : MemberParts) : Decidable parts.Complete :=
  inferInstanceAs (Decidable (_ ∧ _ ∧ _))

/-- The parts that stand between the separators of a member's line, some of which may be empty;
there are none where a separator is missing. -/
def writtenParts? (line : List Char) : Option MemberParts :=
  match cut? [' '] line with
  | none => none
  | some (head, rest) =>
    let type := trim (rangeAndType head).2
    match aroundParentheses rest with
    | some (name, _, tail) => (cut? arrow tail).map fun sides => ⟨type, trim name, trim sides.2⟩
    | none => (cut? arrow rest).map fun sides => ⟨type, trim sides.1, trim sides.2⟩

/-- The names of a member that is read. -/
structure MemberNames where
  type : String
  declaringClass : Option String
  plain : String
  obfuscated : String
  deriving DecidableEq, Repr

/-- The names as they are written. -/
def MemberNames.parts (names : MemberNames) : MemberParts :=
  ⟨names.type.toList, qualified names.declaringClass names.plain, names.obfuscated.toList⟩

/-- The names of an entry of a member. -/
def Entry.names? : Entry → Option MemberNames
  | .ofClass _ => none
  | .ofField entry => some ⟨entry.type, entry.declaringClass, entry.plain, entry.obfuscated⟩
  | .ofMethod entry => some ⟨entry.type, entry.declaringClass, entry.plain, entry.obfuscated⟩

/-! ### What is read is what is written -/

/-- The names that a written name is parted into. -/
def namesBetween (type name obfuscated : List Char) : MemberNames where
  type := String.ofList (trim type)
  declaringClass := (declaringClassAndName (trim name)).1
  plain := (declaringClassAndName (trim name)).2
  obfuscated := String.ofList (trim obfuscated)

theorem parts_namesBetween (type name obfuscated : List Char) :
    (namesBetween type name obfuscated).parts = ⟨trim type, trim name, trim obfuscated⟩ := by
  simp only [namesBetween, MemberNames.parts, String.toList_ofList,
    (qualified_declaringClassAndName (trim name)).1]

/-- **The names of a member that is read are written in its line**, none of their parts is missing,
and its plain name contains no dot. -/
theorem writtenParts?_of_reads {line : List Char} {entry : Entry} {names : MemberNames}
    (h : Reads line entry) (hnames : entry.names? = some names) :
    writtenParts? line = some names.parts ∧ names.parts.Complete ∧ '.' ∉ names.plain.toList := by
  cases h with
  | header => exact absurd hnames (by simp [Entry.names?])
  | @field head rest name obfuscated _ hspace hparentheses harrow htype hname hobfuscated =>
    obtain rfl : namesBetween (rangeAndType head).2 name obfuscated = names :=
      Option.some.inj hnames
    have hwritten : writtenParts? line =
        some ⟨trim (rangeAndType head).2, trim name, trim obfuscated⟩ := by
      simp only [writtenParts?, hspace, hparentheses, harrow, Option.map_some]
    rw [parts_namesBetween]
    exact ⟨hwritten, ⟨htype, hname, hobfuscated⟩, (qualified_declaringClassAndName (trim name)).2⟩
  | @method head rest name _ _ _ obfuscated _ _ _ hspace hparentheses harrow htype hname
      hobfuscated =>
    obtain rfl : namesBetween (rangeAndType head).2 name obfuscated = names :=
      Option.some.inj hnames
    have hwritten : writtenParts? line =
        some ⟨trim (rangeAndType head).2, trim name, trim obfuscated⟩ := by
      simp only [writtenParts?, hspace, hparentheses, harrow, Option.map_some]
    rw [parts_namesBetween]
    exact ⟨hwritten, ⟨htype, hname, hobfuscated⟩, (qualified_declaringClassAndName (trim name)).2⟩

/-! ### Lines that tell nothing -/

theorem isEmpty_or_iff (type name obfuscated : List Char) :
    (type.isEmpty || name.isEmpty || obfuscated.isEmpty) = true ↔
      ¬ (MemberParts.mk type name obfuscated).Complete := by
  simp only [MemberParts.Complete, Bool.or_eq_true, List.isEmpty_iff]
  tauto

theorem fieldOfParts_eq_none_iff (type name obfuscated : List Char) :
    fieldOfParts type name obfuscated = none ↔
      ¬ (MemberParts.mk type name obfuscated).Complete := by
  rw [← isEmpty_or_iff, fieldOfParts]
  split
  · rename_i hempty
    exact iff_of_true rfl hempty
  · rename_i hfull
    exact iff_of_false (by simp) hfull

theorem methodOfParts_eq_none_iff (range : Option (List Char × List Char))
    (type name arguments suffix obfuscated : List Char) :
    methodOfParts range type name arguments suffix obfuscated = .ok none ↔
      ¬ (MemberParts.mk type name obfuscated).Complete := by
  rw [← isEmpty_or_iff, methodOfParts]
  split
  · rename_i hempty
    exact iff_of_true rfl hempty
  · rename_i hfull
    refine iff_of_false ?_ hfull
    cases hrange : obfuscatedLines range with
    | error fault => simp [bind, Except.bind]
    | ok first =>
      cases hplain : plainLines suffix first with
      | error fault => simp [hplain, bind, Except.bind]
      | ok lines => simp [hplain, bind, Except.bind, pure, Except.pure]

/-- **A member's line tells nothing just if one of its parts is missing**, whatever its line numbers
are. -/
theorem memberOfText_eq_none_iff (line : List Char) :
    memberOfText line = .ok none ↔
      ∃ parts, writtenParts? line = some parts ∧ ¬ parts.Complete := by
  rw [memberOfText, writtenParts?]
  cases hspace : cut? [' '] line with
  | none => simp
  | some sides =>
    obtain ⟨head, rest⟩ := sides
    dsimp only
    cases hparentheses : aroundParentheses rest with
    | none =>
      cases harrow : cut? arrow rest with
      | none => simp
      | some sides => simp [fieldOfParts_eq_none_iff]
    | some sides =>
      obtain ⟨name, arguments, tail⟩ := sides
      dsimp only
      cases harrow : cut? arrow tail with
      | none => simp
      | some sides => simp [methodOfParts_eq_none_iff]

-- the name is missing, and the range in front of the type makes no difference
example : ∃ parts ∈ writtenParts? "1:x:void () -> a".toList, ¬ parts.Complete := by decide +kernel

/-- A member's line without all of its separators is at fault. -/
theorem memberOfText_of_writtenParts?_none {line : List Char} (h : writtenParts? line = none) :
    memberOfText line = .error .missingSeparator ∨ memberOfText line = .error .missingArrow := by
  rw [writtenParts?] at h
  rw [memberOfText]
  cases hspace : cut? [' '] line with
  | none => exact .inl rfl
  | some sides =>
    obtain ⟨head, rest⟩ := sides
    rw [hspace] at h
    dsimp only at h ⊢
    cases hparentheses : aroundParentheses rest with
    | none =>
      rw [hparentheses] at h
      dsimp only at h ⊢
      rw [Option.map_eq_none_iff.1 h]
      exact .inr rfl
    | some sides =>
      obtain ⟨name, arguments, tail⟩ := sides
      rw [hparentheses] at h
      dsimp only at h ⊢
      rw [Option.map_eq_none_iff.1 h]
      exact .inr rfl

/-! ### Dots at the ends of a name -/

section Dots

variable {declaringClass : Option String} {plain : String} (hdot : '.' ∉ plain.toList)
include hdot

/-- **A name is read without a plain name just if it ends in a dot.** -/
theorem plain_eq_empty_iff (hname : qualified declaringClass plain ≠ []) :
    plain = "" ↔ (qualified declaringClass plain).getLast? = some '.' := by
  constructor
  · rintro rfl
    cases declaringClass with
    | none => exact absurd rfl hname
    | some declaring => simp [qualified]
  · intro hlast
    by_contra hplain
    have hne : plain.toList ≠ [] := fun hnil => hplain (String.toList_eq_nil_iff.1 hnil)
    -- the last character is one of the plain name
    have hown : plain.toList.getLast? = some '.' := by
      cases declaringClass with
      | none => exact hlast
      | some declaring =>
        rw [qualified, List.append_cons, List.getLast?_append_of_ne_nil _ hne] at hlast
        exact hlast
    exact hdot (List.mem_of_getLast? hown)

/-- **A name is read with an empty declaring class just if it begins with its only dot.** -/
theorem declaringClass_eq_empty_iff :
    declaringClass = some "" ↔
      ∃ rest, qualified declaringClass plain = '.' :: rest ∧ '.' ∉ rest := by
  constructor
  · rintro rfl
    exact ⟨plain.toList, rfl, hdot⟩
  · rintro ⟨rest, hrest, honly⟩
    cases declaringClass with
    | none =>
      have hmem : '.' ∈ plain.toList := by
        show '.' ∈ qualified none plain
        rw [hrest]
        exact List.mem_cons_self
      exact absurd hmem hdot
    | some declaring =>
      cases hdeclaring : declaring.toList with
      | nil => rw [String.toList_eq_nil_iff.1 hdeclaring]
      | cons c front =>
        -- the dot behind the declaring class would be another one
        rw [qualified, hdeclaring] at hrest
        obtain ⟨-, rfl⟩ := List.cons.inj hrest
        exact absurd (by simp) honly

end Dots

/-! ### Entries with missing parts -/

/-- **The parts that are missing in an entry that is read.**  The names of a class are not empty and
have no blanks around them.  The type, the written name and the obfuscated name of a member are not
empty; its plain name is empty just if the written name ends in a dot, and its declaring class just
if the written name begins with its only dot.  A text tells nothing just if it is blank, a comment
or a member's line that lacks a part, and a member's line that lacks a separator is at fault. -/
theorem parts_of_ofText (s : List Char) :
    (∀ entry, Entry.ofText s = .ok (some (.ofClass entry)) →
      (entry.plain ≠ "" ∧ Trimmed entry.plain.toList) ∧
        entry.obfuscated ≠ "" ∧ Trimmed entry.obfuscated.toList) ∧
    (∀ entry names, Entry.ofText s = .ok (some entry) → entry.names? = some names →
      writtenParts? (trim s) = some names.parts ∧ names.parts.Complete ∧
        (names.plain = "" ↔ names.parts.name.getLast? = some '.') ∧
        (names.declaringClass = some "" ↔ ∃ rest, names.parts.name = '.' :: rest ∧ '.' ∉ rest)) ∧
    (Entry.ofText s = .ok none ↔
      isVacant (trim s) = true ∨ isHeader (trim s) = false ∧
        ∃ parts, writtenParts? (trim s) = some parts ∧ ¬ parts.Complete) ∧
    (isVacant (trim s) = false → isHeader (trim s) = false → writtenParts? (trim s) = none →
      Entry.ofText s = .error .missingSeparator ∨ Entry.ofText s = .error .missingArrow) := by
  refine ⟨fun entry hread => ?_, fun entry names hread hnames => ?_, ?_,
    fun hvacant hheader hnone => ?_⟩
  · obtain ⟨-, hreads⟩ := reads_of_ofText hread
    cases hreads with
    | header _ _ _ hplain hobfuscated =>
      dsimp only
      rw [String.toList_ofList, String.toList_ofList]
      exact ⟨⟨ofList_ne_empty hplain, trimmed_trim _⟩, ofList_ne_empty hobfuscated, trimmed_trim _⟩
  · obtain ⟨hwritten, hcomplete, hdot⟩ := writtenParts?_of_reads (reads_of_ofText hread).2 hnames
    exact ⟨hwritten, hcomplete, plain_eq_empty_iff hdot hcomplete.2.1,
      declaringClass_eq_empty_iff hdot⟩
  · rw [Entry.ofText, ← memberOfText_eq_none_iff]
    cases hvacant : isVacant (trim s) with
    | true => simp
    | false =>
      cases hheader : isHeader (trim s) with
      | true => cases hclass : classOfText (trim s) <;> simp [Except.map]
      | false => simp
  · rw [Entry.ofText, hvacant, hheader]
    exact memberOfText_of_writtenParts?_none hnone

/-- A method of another class. -/
def foreignMethod : List Char := "    1:2:void com.example.Foo.bar(int):3 -> a\r\n".toList

theorem parts_of_ofText_foreign :
    Entry.ofText foreignMethod = .ok (some (.ofMethod
        ⟨"void", "bar", "a", some "com.example.Foo", "int", ⟨1, 2, 3, 3⟩⟩)) ∧
      writtenParts? (trim foreignMethod) =
        some ⟨"void".toList, "com.example.Foo.bar".toList, "a".toList⟩ ∧
      Entry.ofText foreignMethod ≠ .ok none := by
  have hread : Entry.ofText foreignMethod = .ok (some (.ofMethod
      ⟨"void", "bar", "a", some "com.example.Foo", "int", ⟨1, 2, 3, 3⟩⟩)) := by
    decide +kernel
  obtain ⟨-, hmember, hnone, -⟩ := parts_of_ofText foreignMethod
  obtain ⟨hwritten, hcomplete, -, -⟩ := hmember _ _ hread rfl
  refine ⟨hread, hwritten, fun hempty => ?_⟩
  rcases hnone.1 hempty with hvacant | ⟨-, parts, hparts, hmissing⟩
  · exact absurd hvacant (by decide +kernel)
  · obtain rfl := Option.some.inj (hwritten.symm.trans hparts)
    exact hmissing hcomplete

/-- A method whose name ends in a dot. -/
def unnamedMethod : List Char := "    void Foo.() -> a".toList

/-- A field whose name begins with its only dot. -/
def fieldOfUnnamedClass : List Char := "    int .x -> y".toList

/-- A member whose name ends in a dot is read without a plain name, and one whose name begins with
its only dot is read with an empty declaring class. -/
theorem ofText_unnamed :
    Entry.ofText unnamedMethod =
        .ok (some (.ofMethod ⟨"void", "", "a", some "Foo", "", .unknown⟩)) ∧
      Entry.ofText fieldOfUnnamedClass =
        .ok (some (.ofField ⟨"int", "x", "y", some ""⟩)) := by
  decide +kernel

end Deobfuscation.SymbolMap
