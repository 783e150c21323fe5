import Deobfuscation.Proofs.Deobfuscator.StackTrace
import Deobfuscation.Proofs.Template.Components

/-!
# Lines about unknown code

A line may match a template although the program that it is about was never obfuscated: a frame of
the platform, a message with a class in it.  Its class is unknown to the symbol table then, and the
frame stands for itself, with at most its source file made up.  What is written for it is what the
line holds, so the line stays as it is, in both passes.

* `SymbolTable.IsUnknown` — a class that the table tells nothing of;
* `SymbolTable.resolve_of_isUnknown` — **proved**: a frame of such a class stands for itself;
* `text_fillSlots_classFrame` — **proved**: writing it changes nothing;
* `Deobfuscator.line_of_isUnknown` — **proved**: lines about unknown code are left alone.
-/

namespace Deobfuscation

/-! ### Unknown classes -/

/-- The class is no obfuscated class of the table, and no member is stored under it. -/
structure SymbolTable.IsUnknown (table : SymbolTable) (className : String) : Prop where
  classes : table.classes[className]? = none
  fields : ∀ name, table.fields.find ⟨className, name⟩ = []
  methods : ∀ name, table.methods.find ⟨className, name⟩ = []

/-- **A frame of an unknown class stands for itself**, but for its source file. -/
theorem SymbolTable.resolve_of_isUnknown {table : SymbolTable} {frame : StackFrame}
    (h : table.IsUnknown frame.className) :
    table.resolve frame = [classFrame frame.className frame] := by
  have howner : table.plainClass frame.className = frame.className := by
    rw [plainClass, Std.TreeMap.getD_eq_getD_getElem?, h.classes]
    rfl
  rw [resolve, howner, fieldFrames, methodFrames, h.fields, h.methods]
  rfl

/-- A frame that stands for itself is written as it is, but where it tells no source file. -/
theorem Placeholder.write_classFrame {placeholder : Placeholder} {frame : StackFrame}
    (h : placeholder = .sourceFile → frame.sourceFile.isEmpty = false) :
    placeholder.write false (SymbolTable.classFrame frame.className frame) =
      placeholder.write false frame := by
  cases placeholder with
  | sourceFile =>
    show (if frame.sourceFile.isEmpty then _ else frame.sourceFile).toList = _
    rw [h rfl]
    rfl
  | _ => rfl

/-! ### The slots of a line -/

/-- **Writing a frame that stands for itself into its line changes nothing**, if its slots tell what
they hold and the source file is told. -/
theorem text_fillSlots_classFrame {template : Template} {line : List Char} {slots : List Slot}
    (hslots : template.slots? line = some slots) (hfaithful : Faithful line slots)
    (hfile : ∀ slot ∈ slots, slot.placeholder = .sourceFile → slot.span.text line ≠ []) :
    (fillSlots false line slots
      (SymbolTable.classFrame (frameOfSlots line slots).className (frameOfSlots line slots))).text =
      line := by
  refine text_fill_own (Template.slots_within hslots) (fun slot hslot => ?_) 0 0
  have hown := hfaithful.write_frameOfSlots hslot
  rw [Placeholder.write_classFrame, hown]
  intro hplaceholder
  -- what the slot holds is what the frame tells
  have htold : (frameOfSlots line slots).sourceFile.toList = slot.span.text line := by
    rw [← hown, hplaceholder]
    rfl
  refine Bool.eq_false_iff.2 fun hempty => hfile slot hslot hplaceholder ?_
  rw [← htold, String.isEmpty_iff.1 hempty]
  rfl

namespace Deobfuscator

/-- A line without a frame of known code is filled with itself. -/
theorem text_of_mem_frameReadings {table : SymbolTable} {line : List Char}
    (hclass : ∀ frame, Template.standard.parse? line = some frame →
      table.IsUnknown frame.className)
    (hline : ∀ slots, Template.standard.slots? line = some slots → ∀ slot ∈ slots,
      (slot.placeholder = .line → ∃ n : LineNumber, slot.span.text line = n.text) ∧
        (slot.placeholder = .sourceFile → slot.span.text line ≠ [])) :
    ∃ filled, (⟨table, .standard, false, false⟩ : Deobfuscator).frameReadings line = [filled] ∧
      filled.text = line := by
  rw [frameReadings]
  dsimp only
  cases hslots : Template.standard.slots? line with
  | none => exact ⟨_, rfl, rfl⟩
  | some slots =>
    have hunknown := hclass (frameOfSlots line slots) (by rw [Template.parse?, hslots]; rfl)
    have hfaithful := Template.faithful_standard hslots fun slot hslot =>
      (hline _ hslots slot hslot).1
    dsimp only
    rw [SymbolTable.resolve_of_isUnknown hunknown]
    exact ⟨_, rfl, text_fillSlots_classFrame hslots hfaithful
      fun slot hslot => (hline _ hslots slot hslot).2⟩

/-- A line without a called method of known code stays as it is. -/
theorem callReadings_of_isUnknown {table : SymbolTable} {filled : Filled}
    (hclass : ∀ frame, Template.calledMethod.parse? filled.text = some frame →
      table.IsUnknown frame.className) :
    (⟨table, .standard, false, false⟩ : Deobfuscator).callReadings filled = [filled.text] := by
  rw [callReadings]
  dsimp only
  cases hslots : Template.calledMethod.slots? filled.text with
  | none => rfl
  | some slots =>
    have hunknown := hclass (frameOfSlots filled.text slots)
      (by rw [Template.parse?, hslots]; rfl)
    have hfile : ∀ slot ∈ slots, slot.placeholder = .sourceFile →
        slot.span.text filled.text ≠ [] := by
      intro slot hslot hplaceholder
      have hmem := Template.placeholder_mem hslots hslot
      rw [Template.calledMethod_placeholders, hplaceholder] at hmem
      exact absurd hmem (by decide)
    dsimp only
    split
    · rfl
    · rw [SymbolTable.resolve_of_isUnknown hunknown, List.map_singleton,
        text_fillSlots_classFrame hslots (Template.faithful_calledMethod hslots) hfile]

/-- **Lines about unknown code are left alone**: if the table tells nothing of the classes that the
two templates read from a line, a line number in it is written as usual and a source file is not
empty, then the line is shown as it is. -/
theorem line_of_isUnknown (table : SymbolTable) (line : List Char)
    (hframe : ∀ frame, Template.standard.parse? line = some frame →
      table.IsUnknown frame.className)
    (hcalled : ∀ frame, Template.calledMethod.parse? line = some frame →
      table.IsUnknown frame.className)
    (hline : ∀ slots, Template.standard.slots? line = some slots → ∀ slot ∈ slots,
      (slot.placeholder = .line → ∃ n : LineNumber, slot.span.text line = n.text) ∧
        (slot.placeholder = .sourceFile → slot.span.text line ≠ [])) :
    (⟨table, .standard, false, false⟩ : Deobfuscator).line line = [line] := by
  obtain ⟨filled, hreadings, htext⟩ := text_of_mem_frameReadings hframe hline
  have hcalls : (⟨table, .standard, false, false⟩ : Deobfuscator).callReadings filled =
      [filled.text] := callReadings_of_isUnknown (by rwa [htext])
  have houtcomes : (⟨table, .standard, false, false⟩ : Deobfuscator).outcomes line = [line] := by
    rw [outcomes, hreadings, List.flatMap_singleton, hcalls, htext]
  have hshown : (⟨table, .standard, false, false⟩ : Deobfuscator).shownOutcomes line =
      [line] := by
    rw [shownOutcomes, houtcomes]
    split
    · rfl
    · rfl
  rw [Deobfuscator.line, if_neg Bool.false_ne_true, hshown]

/-- A frame of a class beside the only obfuscated one. -/
theorem line_of_isUnknown_frame :
    let table := SymbolTable.empty.addClass ⟨"com.example.Foo", "a.b"⟩
    let line := Template.traceLine ['\t'] "a.c".toList ['b'] "SF".toList 12
    Template.standard.matchesLine line = true ∧ table.classes["a.b"]? = some "com.example.Foo" ∧
      (⟨table, .standard, false, false⟩ : Deobfuscator).line line = [line] := by
  intro table line
  have hclass : Template.IsPath "a.c".toList :=
    .dot (s := ['a']) (by decide) (.segment (s := ['c']) (by decide))
  have hfile : Template.IsSourceFile "SF".toList := by
    refine ⟨by decide, by simp, ?_⟩
    rintro c hc
    rw [← Option.some.inj hc]
    decide
  have hindent : ∀ c ∈ ['\t'], c = ' ' ∨ c = '\t' := by simp
  have hslots : Template.standard.slots? line =
      some (Template.traceSlots ['\t'] "a.c".toList ['b'] "SF".toList 12) :=
    Template.slots?_traceLine hindent hclass (show Template.IsSegment ['b'] by decide) hfile
  have hparse : Template.standard.parse? line =
      some ⟨"a.c", "SF", 12, "", "", "b", ""⟩ := by
    rw [Template.parse?, hslots, Option.map_some]
    decide +kernel
  have hnone := slots?_calledMethod_of_not_mem (show '\x22' ∉ line by decide +kernel)
  have hunknown : table.IsUnknown "a.c" := ⟨by decide +kernel, fun _ => rfl, fun _ => rfl⟩
  refine ⟨?_, by decide +kernel, line_of_isUnknown table line ?_ ?_ ?_⟩
  · rw [Template.slots?, Option.map_eq_some_iff] at hslots
    obtain ⟨captures, hfind, -⟩ := hslots
    rw [Template.matchesLine, hfind]
    rfl
  · intro frame hframe
    rw [← Option.some.inj (hparse.symm.trans hframe)]
    exact hunknown
  · intro frame hframe
    rw [Template.parse?, hnone] at hframe
    exact absurd hframe (by simp)
  · intro slots hfound
    rw [← Option.some.inj (hslots.symm.trans hfound), Template.traceSlots]
    simp only [List.forall_mem_cons, List.not_mem_nil, reduceCtorEq, false_implies, implies_true,
      and_true, true_and, forall_const]
    exact ⟨by decide +kernel, 12, by decide +kernel⟩

end Deobfuscator

end Deobfuscation
