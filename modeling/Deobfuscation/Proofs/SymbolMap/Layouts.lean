import Deobfuscation.Proofs.SymbolMap.ClearNames

/-!
# Lines of all kinds and layouts

The names in a symbol map need not keep clear of all separators.  It is enough that each component
keeps clear of the separators that end it where it stands: the arguments of a method may hold
spaces and arrows, its obfuscated name even parentheses, and the name of a class may hold spaces.
A line whose components do so is read as the entry that it was written from.

* `EntryLine` — a line of any kind, a method in any of its layouts;
* `EntryLine.WellFormed` — each component keeps clear of the separators that end it;
* `ofText_entryLine` — **proved**: such a line is read as its entry, whatever blanks stand around
  it.
-/

namespace Deobfuscation.SymbolMap

open Text

/-- A line of a symbol map by its parts. -/
inductive EntryLine where
  | header (entry : ClassEntry)
  | member (line : MemberLine)
  deriving DecidableEq, Repr

namespace EntryLine

/-- The line as it is written. -/
def text : EntryLine → List Char
  | header entry => entry.text
  | member line => line.text

/-- The entry that the line tells. -/
def entry : EntryLine → Entry
  | header entry => .ofClass entry
  | member line => line.entry

/-- Each component keeps clear of the separators that end it. -/
inductive WellFormed : EntryLine → Prop
  | header {entry : ClassEntry} : entry.WellFormed → WellFormed (.header entry)
  | field {entry : FieldEntry} (type : IsType entry.type)
    (name : IsQualified entry.declaringClass entry.plain)
    (class_arrow : ∀ declaring, entry.declaringClass = some declaring →
      ¬ arrow <:+: declaring.toList)
    (name_arrow : ¬ arrow <:+: entry.plain.toList) (obfuscated : IsObfuscated entry.obfuscated)
    (parenthesis : '(' ∉ entry.obfuscated.toList) : WellFormed (.member (.field entry))
  | method {line : MethodLine} : line.WellFormed → WellFormed (.member (.method line))

end EntryLine

/-- **A line of any kind and layout is read as the entry that it was written from**, whatever
blanks stand around it. -/
theorem ofText_entryLine {line : EntryLine} (h : line.WellFormed) {lead trail : List Char}
    (hlead : ∀ c ∈ lead, isBlank c = true) (htrail : ∀ c ∈ trail, isBlank c = true) :
    Entry.ofText (lead ++ line.text ++ trail) = .ok (some line.entry) := by
  cases h with
  | header hentry => exact ofText_class hentry hlead htrail
  | field htype hname hclass hplain hobfuscated hparenthesis =>
    have harrow := not_arrow_infix_qualified hclass hplain
    exact ofText_field ⟨htype, hname, harrow, hobfuscated, hparenthesis⟩ hlead htrail
  | method hline => exact ofText_method hline hlead htrail

/-- A method whose components hold the separators of other places. -/
theorem ofText_entryLine_separators :
    Entry.ofText "\t-5:7:int[] a->b.<init>(x -> (y):-2 -> -> c: (d)\r\n".toList =
      .ok (some (.ofMethod ⟨"int[]", "<init>", "-> c: (d)", some "a->b", "x -> (y",
        ⟨-5, 7, -2, -2⟩⟩)) := by
  have hends : ∀ {s : List Char} {first last : Char}, s.head? = some first →
      s.getLast? = some last → isBlank first = false → isBlank last = false → Trimmed s := by
    intro s first last hhead hlast hfirst hend
    exact ⟨fun c hc => Option.some.inj (hhead.symm.trans hc) ▸ hfirst,
      fun c hc => Option.some.inj (hlast.symm.trans hc) ▸ hend⟩
  have hline : (EntryLine.member (.method ⟨some (-5, 7), "int[]", some "a->b", "<init>", "x -> (y",
      .line (-2), "-> c: (d)"⟩)).WellFormed := by
    refine .method
      { type := ⟨by decide, by decide⟩
        name := ⟨fun declaring h => Option.some.inj h ▸ by decide, by decide⟩
        arguments_trimmed := hends rfl rfl (by decide) (by decide)
        arguments_parenthesis := by decide
        obfuscated := ⟨by decide, hends rfl rfl (by decide) (by decide), by decide⟩ }
  have hlead : ∀ c ∈ ['\t'], isBlank c = true := List.all_eq_true.1 (by decide)
  have htrail : ∀ c ∈ ['\r', '\n'], isBlank c = true := List.all_eq_true.1 (by decide)
  exact ofText_entryLine hline hlead htrail

end Deobfuscation.SymbolMap
