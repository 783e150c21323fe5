import Deobfuscation.Proofs.Deobfuscator.StackTrace
import Deobfuscation.Proofs.SymbolTable.NamedMembers
import Deobfuscation.Proofs.Template.ExceptionLine
import Deobfuscation.Proofs.Text.Cut

/-!
# Deobfuscating exceptions

The line of an exception tells a class and no member, so it is shown as one line, with the plain
name of that class in its place.  Which class that is depends on the message: if it has the form of
a class itself, it is taken for the one that was thrown, and the class in front of the colon stays
obfuscated.

* `classSlot`, `classAlone` — a slot for a class and the frame that it tells;
* `frameOfSlots_class`, `fill_class` — **proved**: the slot tells the class, and another class is
  written into it;
* `line_of_class` — **proved**: what is shown for a line whose only slot is a class;
* `line_exceptionLine` — **proved**: what is shown for an exception with a message;
* `line_exceptionLine_word` — **proved**: a message of one word keeps the class obfuscated.
-/

namespace Deobfuscation.Deobfuscator

open Template (IsMessage IsPath exceptionLine)

/-! ### Lines that tell a class alone -/

section ClassAlone

variable {opening className rest : List Char}

/-- The slot of a class between two parts of a line. -/
def classSlot (opening className : List Char) : Slot :=
  ⟨.dottedClass, opening.length, (opening ++ className).length⟩

/-- A frame of which only the class is known. -/
def classAlone (className : List Char) : StackFrame :=
  { StackFrame.unknown with className := String.ofList className }

theorem frameOfSlots_class (hne : className ≠ []) :
    frameOfSlots (opening ++ className ++ rest) [classSlot opening className] =
      classAlone className := by
  have htext := text_between opening className rest
  have hsome : className.isEmpty = false := List.isEmpty_eq_false_iff.2 hne
  simp only [frameOfSlots, classSlot, List.foldl_cons, List.foldl_nil, htext, hsome,
    Bool.false_eq_true, if_false, Placeholder.read]
  rfl

theorem fill_class (opening className rest : List Char) (verbose : Bool) (frame : StackFrame) :
    (fillSlots verbose (opening ++ className ++ rest) [classSlot opening className] frame).text =
      opening ++ frame.className.toList ++ rest := by
  have hfill := text_fill_cons (fun placeholder => placeholder.write verbose frame) .dottedClass []
    [] opening className rest 0
  rw [fill] at hfill
  exact hfill

section Reading

variable {d : Deobfuscator} (hne : className ≠ [])
  (hslots : d.template.slots? (opening ++ className ++ rest) = some [classSlot opening className])

include hne hslots

/-- A line whose only slot is a class is filled once, with the plain name of the class. -/
theorem frameReadings_of_class (hnames : d.table.KnowsNames) :
    ∃ filled, d.frameReadings (opening ++ className ++ rest) = [filled] ∧
      filled.text = opening ++ (d.table.plainClass (String.ofList className)).toList ++ rest := by
  -- no member is known by the empty name, so the class alone is resolved
  have hresolve := hnames.resolve (classAlone className) rfl rfl
  refine ⟨_, ?_, fill_class opening className rest d.verbose
    (SymbolTable.classFrame (d.table.plainClass (String.ofList className)) (classAlone className))⟩
  rw [frameReadings, hslots]
  dsimp only
  rw [frameOfSlots_class hne, hresolve, List.map_singleton]
  rfl

/-- Such a line tells no line number. -/
theorem isAmbiguous_of_class : d.isAmbiguous (opening ++ className ++ rest) = true := by
  rw [isAmbiguous, Template.parse?, hslots, Option.map_some, frameOfSlots_class hne]
  rfl

/-- **A line whose only slot is a class is shown with the plain name of the class.** -/
theorem line_of_class (hnames : d.table.KnowsNames) (hlacks : d.table.Lacks '\x22')
    (hall : d.allClassNames = false) (hquote : '\x22' ∉ opening ++ className ++ rest) :
    d.line (opening ++ className ++ rest) =
      [opening ++ (d.table.plainClass (String.ofList className)).toList ++ rest] := by
  simp only [List.mem_append, not_or] at hquote
  obtain ⟨⟨hopening, hclass⟩, hrest⟩ := hquote
  obtain ⟨filled, hreadings, htext⟩ := frameReadings_of_class hne hslots hnames
  set plain := (d.table.plainClass (String.ofList className)).toList
  have hplain : '\x22' ∉ plain := by
    refine hlacks.plainClass ?_
    rw [String.toList_ofList]
    exact hclass
  have hnone : '\x22' ∉ filled.text := by
    rw [htext, List.mem_append, List.mem_append, not_or, not_or]
    exact ⟨⟨hopening, hplain⟩, hrest⟩
  have houtcomes : d.outcomes (opening ++ className ++ rest) = [opening ++ plain ++ rest] := by
    rw [outcomes, hreadings, List.flatMap_singleton, callReadings_of_not_mem d hnone, htext]
  rw [line, hall, if_neg Bool.false_ne_true, shownOutcomes, isAmbiguous_of_class hne hslots,
    if_pos rfl, houtcomes]
  rfl

end Reading

end ClassAlone

/-! ### Exceptions -/

/-- Without wishes the built-in template is used, and the table of the source. -/
theorem fields_of_ofSource_default {source : ByteSource} {d : Deobfuscator}
    (h : ofSource source ⟨false, false, none⟩ = .ok d) :
    d.template = .standard ∧ d.verbose = false ∧ d.allClassNames = false ∧
      SymbolTable.ofSource source = .ok d.table := by
  unfold ofSource at h
  split at h
  · rename_i table htable
    rw [ofTable_builtin] at h
    have hd : d = ⟨table, .standard, false, false⟩ := (Except.ok.inj h).symm
    rw [hd]
    refine ⟨?_, ?_, ?_, htable⟩
    · dsimp only
    · dsimp only
    · dsimp only
  · simp at h

/-- Classes are looked for only in frames then, and members have names. -/
theorem of_ofSource_default {source : ByteSource} {d : Deobfuscator}
    (h : ofSource source ⟨false, false, none⟩ = .ok d) :
    d.template = .standard ∧ d.allClassNames = false ∧ d.table.KnowsNames := by
  obtain ⟨htemplate, -, hall, htable⟩ := fields_of_ofSource_default h
  exact ⟨htemplate, hall, SymbolTable.knowsNames_of_ofSource htable⟩

section Exceptions

variable {className message : List Char} {source : ByteSource} {d : Deobfuscator}

/-- An exception is shown with the plain name of its class, if its message has not the form of a
class. -/
theorem line_classOfException (hd : ofSource source ⟨false, false, none⟩ = .ok d)
    (hlacks : d.table.Lacks '\x22') (hclass : IsPath className) (hmessage : IsMessage message)
    (hnot : ¬IsPath message) :
    d.line (exceptionLine className message) =
      [exceptionLine (d.table.plainClass (String.ofList className)).toList message] := by
  obtain ⟨htemplate, hall, hnames⟩ := of_ofSource_default hd
  have hquote := (Template.phraseless_exceptionLine hclass hmessage).quote
  have hslots := Template.slots?_exceptionLine hclass hmessage hnot
  rw [← htemplate] at hslots
  have hline : ∀ className, exceptionLine className message =
      [] ++ className ++ ':' :: ' ' :: message := fun className => rfl
  rw [hline] at hslots hquote
  rw [hline, hline]
  exact line_of_class hclass.ne_nil hslots hnames hlacks hall hquote

/-- A message that has the form of a class is shown as its plain name. -/
theorem line_classInMessage (hd : ofSource source ⟨false, false, none⟩ = .ok d)
    (hlacks : d.table.Lacks '\x22') (hclass : IsPath className) (hmessage : IsMessage message)
    (hpath : IsPath message) :
    d.line (exceptionLine className message) =
      [exceptionLine className (d.table.plainClass (String.ofList message)).toList] := by
  obtain ⟨htemplate, hall, hnames⟩ := of_ofSource_default hd
  have hquote := (Template.phraseless_exceptionLine hclass hmessage).quote
  have hslots := Template.slots?_exceptionLine_path hclass hmessage hpath
  have hline : ∀ message, exceptionLine className message =
      className ++ [':', ' '] ++ message ++ [] := by
    intro message
    simp [exceptionLine]
  rw [← htemplate, hline] at hslots
  rw [hline] at hquote
  rw [hline, hline]
  exact line_of_class hpath.ne_nil hslots hnames hlacks hall hquote

/-- **An exception is shown with the plain name of its class, unless its message has the form of a
class**: then the message is replaced, if it is an obfuscated class, and the class is left as it
is. -/
theorem line_exceptionLine (hd : ofSource source ⟨false, false, none⟩ = .ok d)
    (hlacks : d.table.Lacks '\x22') (hclass : IsPath className) (hmessage : IsMessage message) :
    (¬IsPath message → d.line (exceptionLine className message) =
      [exceptionLine (d.table.plainClass (String.ofList className)).toList message]) ∧
    (IsPath message → d.line (exceptionLine className message) =
      [exceptionLine className (d.table.plainClass (String.ofList message)).toList]) :=
  ⟨line_classOfException hd hlacks hclass hmessage, line_classInMessage hd hlacks hclass hmessage⟩

end Exceptions

/-- A symbol map of one class. -/
def oneClassMap : ByteSource :=
  .ofBytes (Utf8.encode "com.example.BarException -> a.c:\n".toList)

/-- The table of the map of one class. -/
def oneClassTable : SymbolTable :=
  SymbolTable.empty.addClass ⟨"com.example.BarException", "a.c"⟩

theorem ofSource_oneClassMap :
    ofSource oneClassMap ⟨false, false, none⟩ = .ok ⟨oneClassTable, .standard, false, false⟩ := by
  have htable : SymbolTable.ofSource oneClassMap = .ok oneClassTable := by rfl
  rw [ofSource, htable]
  exact ofTable_builtin oneClassTable false false

theorem lacks_oneClassTable : oneClassTable.Lacks '\x22' :=
  (SymbolTable.lacks_empty _).addClass (by decide)

theorem isPath_oneClass : IsPath "a.c".toList :=
  .dot (s := ['a']) (by decide) (.segment (s := ['c']) (by decide))

theorem trimmed_word : Text.Trimmed "broken".toList where
  head c hc := by
    rw [← Option.some.inj hc]
    decide
  last c hc := by
    rw [← Option.some.inj hc]
    decide

theorem isMessage_word : IsMessage "broken".toList :=
  Template.isMessage_of_checks (by decide) (by decide) (by decide) (by decide)

/-- A message of several words. -/
theorem line_exceptionLine_words :
    ∃ d, ofSource oneClassMap ⟨false, false, none⟩ = .ok d ∧ d.table.Lacks '\x22' ∧
      IsPath "a.c".toList ∧ IsMessage "it is broken".toList ∧
      d.line (exceptionLine "a.c".toList "it is broken".toList) =
        [exceptionLine "com.example.BarException".toList "it is broken".toList] := by
  have hmessage : IsMessage "it is broken".toList :=
    Template.isMessage_of_checks (by decide) (by decide) (by decide) (by decide)
  have hnot : ¬IsPath "it is broken".toList :=
    fun h => h.not_mem (c := ' ') (by decide) (by decide) (by decide)
  refine ⟨_, ofSource_oneClassMap, lacks_oneClassTable, isPath_oneClass, hmessage, ?_⟩
  have hline := (line_exceptionLine ofSource_oneClassMap lacks_oneClassTable isPath_oneClass
    hmessage).1 hnot
  have hplain : oneClassTable.plainClass (String.ofList "a.c".toList) =
      "com.example.BarException" := by
    decide +kernel
  rw [hline, hplain]

/-- **A message of one word keeps the class obfuscated.** -/
theorem line_exceptionLine_word :
    ∃ d, ofSource oneClassMap ⟨false, false, none⟩ = .ok d ∧ d.table.Lacks '\x22' ∧
      IsPath "a.c".toList ∧ d.table.plainClass "a.c" = "com.example.BarException" ∧
      IsMessage "broken".toList ∧ Text.Trimmed "broken".toList ∧
      d.line (exceptionLine "a.c".toList "broken".toList) =
        [exceptionLine "a.c".toList "broken".toList] ∧
      d.line (exceptionLine "a.c".toList "broken".toList) ≠
        [exceptionLine "com.example.BarException".toList "broken".toList] := by
  have hpath : IsPath "broken".toList := .segment (by decide)
  have hplain : oneClassTable.plainClass (String.ofList "broken".toList) = "broken" := by
    decide +kernel
  have hline := line_classInMessage ofSource_oneClassMap lacks_oneClassTable isPath_oneClass
    isMessage_word hpath
  rw [hplain] at hline
  refine ⟨_, ofSource_oneClassMap, lacks_oneClassTable, isPath_oneClass, by decide +kernel,
    isMessage_word, trimmed_word, hline, ?_⟩
  rw [hline]
  decide

end Deobfuscation.Deobfuscator
