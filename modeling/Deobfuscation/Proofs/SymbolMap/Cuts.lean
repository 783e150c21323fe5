import Deobfuscation.Proofs.Text.Cut

/-!
# How entries are read

An entry is read from a line by cuts at the separators of the grammar, and by nothing else: each of
its components is what trimming leaves between two of them.  What an entry that was read is like is
a matter of these cuts.

* `Reads` — the cuts that an entry is read by, one rule for each kind of entry;
* `reads_of_ofText` — **proved**: an entry that is read is read by such cuts;
* `rangeAndType_suffix`, `of_aroundParentheses` — **proved**: what the parts of a member are parts
  of;
* `Reads.hasName` — **proved**: an entry of a member that is read names its member;
* `Reads.lacks` — **proved**: an entry contains the characters of its line only.
-/

namespace Deobfuscation.SymbolMap

open Text

/-! ### The cuts of an entry -/

/-- The field of what stands before a space, before an arrow and behind it. -/
def fieldBetween (type name obfuscated : List Char) : FieldEntry where
  type := String.ofList (trim type)
  plain := (declaringClassAndName (trim name)).2
  obfuscated := String.ofList (trim obfuscated)
  declaringClass := (declaringClassAndName (trim name)).1

/-- The method of what stands before a space, before and between parentheses, and behind an arrow,
with its lines. -/
def methodBetween (type name arguments obfuscated : List Char) (lines : LineMap) : MethodEntry where
  type := String.ofList (trim type)
  plain := (declaringClassAndName (trim name)).2
  obfuscated := String.ofList (trim obfuscated)
  declaringClass := (declaringClassAndName (trim name)).1
  arguments := String.ofList (trim arguments)
  lines

/-- The cuts by which a trimmed line is read as an entry. -/
inductive Reads (line : List Char) : Entry → Prop
  | header {plain rest obfuscated tail : List Char} : isHeader line = true →
    cut? arrow line = some (plain, rest) → cut? [':'] rest = some (obfuscated, tail) →
    trim plain ≠ [] → trim obfuscated ≠ [] →
    Reads line (.ofClass ⟨String.ofList (trim plain), String.ofList (trim obfuscated)⟩)
  | field {head rest name obfuscated : List Char} : isHeader line = false →
    cut? [' '] line = some (head, rest) → aroundParentheses rest = none →
    cut? arrow rest = some (name, obfuscated) →
    trim (rangeAndType head).2 ≠ [] → trim name ≠ [] → trim obfuscated ≠ [] →
    Reads line (.ofField (fieldBetween (rangeAndType head).2 name obfuscated))
  | method {head rest name arguments tail suffix obfuscated : List Char} {first lines : LineMap} :
    isHeader line = false → cut? [' '] line = some (head, rest) →
    aroundParentheses rest = some (name, arguments, tail) →
    cut? arrow tail = some (suffix, obfuscated) →
    trim (rangeAndType head).2 ≠ [] → trim name ≠ [] → trim obfuscated ≠ [] →
    obfuscatedLines (rangeAndType head).1 = .ok first → plainLines suffix first = .ok lines →
    Reads line (.ofMethod (methodBetween (rangeAndType head).2 name arguments obfuscated lines))

theorem reads_of_classOfText {line : List Char} {entry : ClassEntry}
    (hheader : isHeader line = true) (h : classOfText line = .ok entry) :
    Reads line (.ofClass entry) := by
  rw [classOfText] at h
  cases harrow : cut? arrow line with
  | none => simp [harrow] at h
  | some sides =>
    obtain ⟨plain, rest⟩ := sides
    cases hcolon : cut? [':'] rest with
    | none => simp [harrow, hcolon] at h
    | some sides =>
      obtain ⟨obfuscated, tail⟩ := sides
      simp only [harrow, hcolon] at h
      split at h
      · exact absurd h (by simp)
      · rename_i hnames
        simp only [Bool.or_eq_true, List.isEmpty_iff, not_or] at hnames
        obtain rfl := Except.ok.inj h
        exact .header hheader harrow hcolon hnames.1 hnames.2

theorem reads_of_memberOfText {line : List Char} {entry : Entry} (hheader : isHeader line = false)
    (h : memberOfText line = .ok (some entry)) : Reads line entry := by
  rw [memberOfText] at h
  cases hspace : cut? [' '] line with
  | none => simp [hspace] at h
  | some sides =>
    obtain ⟨head, rest⟩ := sides
    simp only [hspace] at h
    cases hparentheses : aroundParentheses rest with
    | none =>
      simp only [hparentheses] at h
      cases harrow : cut? arrow rest with
      | none => simp [harrow] at h
      | some sides =>
        obtain ⟨name, obfuscated⟩ := sides
        simp only [harrow, Except.ok.injEq, fieldOfParts] at h
        split at h
        · exact absurd h (by simp)
        · rename_i hparts
          simp only [Bool.or_eq_true, List.isEmpty_iff, not_or] at hparts
          obtain rfl := Option.some.inj h
          exact .field hheader hspace hparentheses harrow hparts.1.1 hparts.1.2 hparts.2
    | some sides =>
      obtain ⟨name, arguments, tail⟩ := sides
      simp only [hparentheses] at h
      cases harrow : cut? arrow tail with
      | none => simp [harrow] at h
      | some sides =>
        obtain ⟨suffix, obfuscated⟩ := sides
        simp only [harrow, methodOfParts] at h
        split at h
        · exact absurd h (by simp)
        · rename_i hparts
          simp only [Bool.or_eq_true, List.isEmpty_iff, not_or] at hparts
          cases hrange : obfuscatedLines (rangeAndType head).1 with
          | error fault => simp [hrange, bind, Except.bind] at h
          | ok first =>
            cases hplain : plainLines suffix first with
            | error fault => simp [hrange, hplain, bind, Except.bind] at h
            | ok lines =>
              simp only [hrange, hplain, bind, Except.bind, pure, Except.pure, Except.ok.injEq,
                Option.some.injEq] at h
              subst h
              exact .method hheader hspace hparentheses harrow hparts.1.1 hparts.1.2 hparts.2
                hrange hplain

/-- **An entry that is read is read by the cuts of its kind**, from a line that is not vacant. -/
theorem reads_of_ofText {s : List Char} {entry : Entry} (h : Entry.ofText s = .ok (some entry)) :
    isVacant (trim s) = false ∧ Reads (trim s) entry := by
  rw [Entry.ofText] at h
  cases hvacant : isVacant (trim s) with
  | true => simp [hvacant] at h
  | false =>
    refine ⟨rfl, ?_⟩
    cases hheader : isHeader (trim s) with
    | true =>
      simp only [hvacant, hheader, Bool.false_eq_true, if_false, if_true] at h
      cases hclass : classOfText (trim s) with
      | error fault => simp [hclass, Except.map] at h
      | ok header =>
        simp only [hclass, Except.map, Except.ok.injEq, Option.some.injEq] at h
        exact h ▸ reads_of_classOfText hheader hclass
    | false =>
      simp only [hvacant, hheader, Bool.false_eq_true, if_false] at h
      exact reads_of_memberOfText hheader h

/-! ### Names -/

/-- An entry of a member has an obfuscated name. -/
def Entry.HasName : Entry → Prop
  | .ofClass _ => True
  | .ofField entry => entry.obfuscated ≠ ""
  | .ofMethod entry => entry.obfuscated ≠ ""

theorem ofList_ne_empty {s : List Char} (h : s ≠ []) : String.ofList s ≠ "" := by
  intro heq
  have hlist := congrArg String.toList heq
  rw [String.toList_ofList] at hlist
  exact h hlist

/-- **An entry that is read names its member.** -/
theorem Reads.hasName {line : List Char} {entry : Entry} (h : Reads line entry) :
    entry.HasName := by
  cases h with
  | header => trivial
  | field _ _ _ _ _ _ hobfuscated => exact ofList_ne_empty hobfuscated
  | method _ _ _ _ _ _ hobfuscated => exact ofList_ne_empty hobfuscated

/-! ### The parts of a member -/

/-- The type is what the head of a member ends in. -/
theorem rangeAndType_suffix (head : List Char) : (rangeAndType head).2 <:+ head := by
  rw [rangeAndType]
  cases hfirst : cut? [':'] head with
  | none => exact List.suffix_refl head
  | some sides =>
    obtain ⟨first, rest⟩ := sides
    dsimp only
    cases hlast : cut? [':'] rest with
    | none => exact List.suffix_refl head
    | some sides =>
      obtain ⟨last, type⟩ := sides
      refine ⟨first ++ [':'] ++ (last ++ [':']), ?_⟩
      rw [eq_of_cut? hfirst, eq_of_cut? hlast]
      simp

/-- The sides of a pair of parentheses: its first one is the first of the text, and its second one
the first behind it. -/
theorem of_aroundParentheses {s name arguments tail : List Char}
    (h : aroundParentheses s = some (name, arguments, tail)) :
    s = name ++ ['('] ++ (arguments ++ [')'] ++ tail) ∧ '(' ∉ name ∧ ')' ∉ arguments := by
  rw [aroundParentheses] at h
  cases hopen : cut? ['('] s with
  | none => simp [hopen] at h
  | some sides =>
    obtain ⟨front, rest⟩ := sides
    simp only [hopen, Option.map_eq_some_iff, Prod.mk.injEq] at h
    obtain ⟨⟨inner, back⟩, hclose, rfl, rfl, rfl⟩ := h
    refine ⟨?_, not_mem_of_cut? hopen, not_mem_of_cut? hclose⟩
    rw [eq_of_cut? hopen, eq_of_cut? hclose]

/-! ### Characters -/

/-- The texts of an entry. -/
def Entry.texts : Entry → List String
  | .ofClass entry => [entry.plain, entry.obfuscated]
  | .ofField entry =>
    entry.type :: entry.plain :: entry.obfuscated :: entry.declaringClass.toList
  | .ofMethod entry =>
    entry.type :: entry.plain :: entry.arguments :: entry.obfuscated ::
      entry.declaringClass.toList

/-- No text of the entry contains a character. -/
def Entry.Lacks (c : Char) (entry : Entry) : Prop := ∀ text ∈ entry.texts, c ∉ text.toList

theorem not_mem_ofList_trim {c : Char} {s : List Char} (h : c ∉ s) :
    c ∉ (String.ofList (trim s)).toList := by
  rw [String.toList_ofList]
  exact fun hmem => h ((isInfix_trim s).subset hmem)

/-- The parts of a name contain the characters of the name only. -/
theorem not_mem_declaringClassAndName {c : Char} {name : List Char} (h : c ∉ name) :
    (∀ text ∈ (declaringClassAndName (trim name)).1, c ∉ text.toList) ∧
      c ∉ (declaringClassAndName (trim name)).2.toList := by
  have htrim : c ∉ trim name := fun hmem => h ((isInfix_trim name).subset hmem)
  rw [declaringClassAndName]
  cases hcut : cutLast? '.' (trim name) with
  | none =>
    dsimp only
    rw [String.toList_ofList]
    exact ⟨by simp, htrim⟩
  | some sides =>
    obtain ⟨declaring, simple⟩ := sides
    rw [(eq_of_cutLast? hcut).1, List.mem_append, List.mem_cons, not_or, not_or] at htrim
    dsimp only
    rw [String.toList_ofList]
    refine ⟨fun text htext => ?_, htrim.2.2⟩
    rw [← Option.some.inj htext, String.toList_ofList]
    exact htrim.1

/-- **An entry contains the characters of its line only.** -/
theorem Reads.lacks {line : List Char} {entry : Entry} (h : Reads line entry) {c : Char}
    (hc : c ∉ line) : entry.Lacks c := by
  cases h with
  | header _ harrow hcolon =>
    rw [eq_of_cut? harrow, eq_of_cut? hcolon] at hc
    simp only [List.mem_append, not_or] at hc
    simp only [Entry.Lacks, Entry.texts, List.forall_mem_cons]
    exact ⟨not_mem_ofList_trim hc.1.1, not_mem_ofList_trim hc.2.1.1, by simp⟩
  | field _ hspace _ harrow =>
    rw [eq_of_cut? hspace, eq_of_cut? harrow] at hc
    simp only [List.mem_append, not_or] at hc
    have htype := fun hmem => hc.1.1 ((rangeAndType_suffix _).subset hmem)
    obtain ⟨hdeclaring, hplain⟩ := not_mem_declaringClassAndName hc.2.1.1
    simp only [Entry.Lacks, Entry.texts, List.forall_mem_cons]
    exact ⟨not_mem_ofList_trim htype, hplain, not_mem_ofList_trim hc.2.2,
      fun text htext => hdeclaring text (Option.mem_toList.1 htext)⟩
  | method _ hspace hparentheses harrow =>
    rw [eq_of_cut? hspace, (of_aroundParentheses hparentheses).1, eq_of_cut? harrow] at hc
    simp only [List.mem_append, not_or] at hc
    have htype := fun hmem => hc.1.1 ((rangeAndType_suffix _).subset hmem)
    obtain ⟨hdeclaring, hplain⟩ := not_mem_declaringClassAndName hc.2.1.1
    simp only [Entry.Lacks, Entry.texts, List.forall_mem_cons]
    exact ⟨not_mem_ofList_trim htype, hplain, not_mem_ofList_trim hc.2.2.1.1,
      not_mem_ofList_trim hc.2.2.2.2, fun text htext => hdeclaring text (Option.mem_toList.1 htext)⟩

end Deobfuscation.SymbolMap
