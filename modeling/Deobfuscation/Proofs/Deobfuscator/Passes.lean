import Deobfuscation.Deobfuscator.Line
import Deobfuscation.Proofs.Template.Carried

/-!
# The two templates keep apart

A line is filled twice, by the template of frames and then by the template of called methods.  The
names that the first has written may look like obfuscated ones, so the second must leave them
alone: it does not write at all where one of its slots touches a stretch written before.

* `openSlots` — the slots of a called method, if they touch nothing that was written;
* `frameReadings_replaces`, `callReadings_replaces` — **proved**: each template replaces slots of
  the line that it is given and nothing else;
* `Passes` — how a line comes about in two passes that keep apart;
* `passes_of_mem_callReadings` — **proved**: so does every line that a line stands for.
-/

namespace Deobfuscation.Deobfuscator

open Regex (Span)

/-! ### Open slots -/

/-- The slots of a called method into which a frame is written: those of the line, unless one of
them touches a stretch written before. -/
def openSlots (filled : Filled) : List Slot :=
  match Template.calledMethod.slots? filled.text with
  | none => []
  | some slots => if touches slots filled.spans then [] else slots

theorem touches_eq_false_iff {slots : List Slot} {spans : List Span} :
    touches slots spans = false ↔
      ∀ slot ∈ slots, ∀ span ∈ spans, slot.span.overlaps span = false := by
  simp [touches]

/-- Open slots overlap no stretch that was written. -/
theorem overlaps_openSlots (filled : Filled) :
    ∀ slot ∈ openSlots filled, ∀ span ∈ filled.spans, slot.span.overlaps span = false := by
  unfold openSlots
  cases Template.calledMethod.slots? filled.text with
  | none => simp
  | some slots =>
    by_cases htouches : touches slots filled.spans = true
    · simp [htouches]
    · dsimp only
      rw [if_neg htouches]
      exact touches_eq_false_iff.1 (Bool.eq_false_iff.2 htouches)

/-! ### What the templates replace -/

/-- Writing a frame into slots of a line replaces some of them. -/
theorem fillSlots_replaces {line : List Char} {slots : List Slot}
    (hslots : ∀ slot ∈ slots, slot.span.Within line.length) (verbose : Bool) (frame : StackFrame) :
    let filled := fillSlots verbose line slots frame
    ∃ used, Replaces (·.write verbose frame) line slots used 0 filled.text filled.spans 0 :=
  fill_replaces (·.write verbose frame) hslots 0 []

/-- **The template of frames replaces slots of the line**, and nothing else. -/
theorem frameReadings_replaces {d : Deobfuscator} {line : List Char} {filled : Filled}
    (h : filled ∈ d.frameReadings line) :
    ∃ frame used, Replaces (·.write d.verbose frame) line ((d.template.slots? line).getD []) used 0
      filled.text filled.spans 0 := by
  unfold frameReadings at h
  cases hslots : d.template.slots? line with
  | none =>
    rw [hslots] at h
    obtain rfl := List.mem_singleton.1 h
    exact ⟨.unknown, [], .nil 0 []⟩
  | some slots =>
    rw [hslots] at h
    obtain ⟨frame, -, rfl⟩ := List.mem_map.1 h
    exact ⟨frame, fillSlots_replaces (Template.slots_within hslots) d.verbose frame⟩

/-- **The template of called methods replaces open slots of the line**, and nothing else. -/
theorem callReadings_replaces {d : Deobfuscator} {filled : Filled} {out : List Char}
    (h : out ∈ d.callReadings filled) :
    ∃ frame used spans, Replaces (·.write d.verbose frame) filled.text (openSlots filled) used 0
      out spans 0 := by
  unfold callReadings at h
  unfold openSlots
  cases hslots : Template.calledMethod.slots? filled.text with
  | none =>
    rw [hslots] at h
    obtain rfl := List.mem_singleton.1 h
    exact ⟨.unknown, [], [], .nil 0 []⟩
  | some slots =>
    rw [hslots] at h
    dsimp only at h ⊢
    by_cases htouches : touches slots filled.spans = true
    · rw [if_pos htouches] at h ⊢
      obtain rfl := List.mem_singleton.1 h
      exact ⟨.unknown, [], [], .nil 0 []⟩
    · rw [if_neg htouches] at h ⊢
      obtain ⟨frame, -, rfl⟩ := List.mem_map.1 h
      obtain ⟨used, hreplaces⟩ :=
        fillSlots_replaces (Template.slots_within hslots) d.verbose frame
      exact ⟨frame, used, _, hreplaces⟩

/-! ### Both together -/

/-- A line comes about in two passes that keep apart: the first replaces the slots `first` of the
line, the second the slots `second` of the line filled by then, where `spans` are the stretches
that it writes. -/
structure Passes (d : Deobfuscator) (line : List Char) (filled : Filled) (out : List Char)
    (first second : List Slot) (spans : List Span) : Prop where
  /-- The first pass writes a frame into slots of the line. -/
  first_replaces : ∃ frame, Replaces (·.write d.verbose frame) line
    ((d.template.slots? line).getD []) first 0 filled.text filled.spans 0
  /-- The second pass writes a frame into open slots and changes nothing else. -/
  second_replaces : ∃ frame, Replaces (·.write d.verbose frame) filled.text (openSlots filled)
    second 0 out spans 0
  /-- What it replaces overlaps nothing that was written. -/
  overlaps : ∀ slot ∈ second, ∀ span ∈ filled.spans, slot.span.overlaps span = false
  /-- What was written by the first pass is still there, in order, apart from what the second has
  written. -/
  still_there : ∃ kept, Carried filled.text filled.spans out kept ∧
    ∀ mark ∈ kept, ∀ span ∈ spans, mark.Apart span
  /-- What the second pass replaces stood in the line, in order, apart from what the first has
  replaced: nothing is replaced twice. -/
  not_twice : ∃ origins, Carried filled.text (second.map Slot.span) line origins ∧
    ∀ mark ∈ origins, ∀ slot ∈ first, mark.Apart slot.span

/-- **Every line that a line stands for comes about in two passes that keep apart.** -/
theorem passes_of_mem_callReadings {d : Deobfuscator} {line : List Char} {filled : Filled}
    (hfilled : filled ∈ d.frameReadings line) {out : List Char}
    (hout : out ∈ d.callReadings filled) :
    ∃ first second spans, d.Passes line filled out first second spans := by
  obtain ⟨frame, first, hfirst⟩ := frameReadings_replaces hfilled
  obtain ⟨called, second, spans, hsecond⟩ := callReadings_replaces hout
  have hoverlaps : ∀ slot ∈ second, ∀ span ∈ filled.spans, slot.span.overlaps span = false :=
    fun slot hmem => overlaps_openSlots filled slot (hsecond.used_sublist.subset hmem)
  have hapart : ∀ slot ∈ second, ∀ span ∈ filled.spans, slot.span.Apart span :=
    fun slot hslot span hspan => Span.overlaps_eq_false_iff.1 (hoverlaps slot hslot span hspan)
  refine ⟨first, second, spans, ⟨frame, hfirst⟩, ⟨called, hsecond⟩, hoverlaps, ?_, ?_⟩
  · exact hsecond.carried hfirst.inOrder_spans fun span hspan slot hslot =>
      (hapart slot hslot span hspan).symm
  · refine hfirst.origins hsecond.inOrder_used fun mark hmark span hspan => ?_
    obtain ⟨slot, hslot, rfl⟩ := List.mem_map.1 hmark
    exact hapart slot hslot span hspan

/-- A called method beside one whose plain name is its obfuscated name. -/
theorem passes_of_mem_callReadings_swapped :
    let table := (((SymbolTable.empty.addClass ⟨"a", "b"⟩).addClass ⟨"b", "c"⟩).addMethod "a"
      ⟨"void", "m", "n", none, "", ⟨0, 0, 0, 0⟩⟩).addMethod "b"
      ⟨"void", "n", "o", none, "", ⟨0, 0, 0, 0⟩⟩
    let template := (Template.ofText? Template.returnValueText).getD default
    let d : Deobfuscator := ⟨table, template, false, false⟩
    let opening := "java.lang.NullPointerException: Cannot invoke \"".toList
    let middle := "\" because the return value of \"".toList
    let closing := "\" is null".toList
    let line := opening ++ "b.n()".toList ++ middle ++ "c.o()".toList ++ closing
    let filled : Filled :=
      ⟨opening ++ "b.n()".toList ++ middle ++ "b.n()".toList ++ closing,
        [⟨83, 84⟩, ⟨85, 86⟩, ⟨87, 87⟩]⟩
    let out := opening ++ "a.m()".toList ++ middle ++ "b.n()".toList ++ closing
    filled ∈ d.frameReadings line ∧ out ∈ d.callReadings filled ∧
      ∃ first second spans, d.Passes line filled out first second spans := by
  intro table template d opening middle closing line filled out
  have hfilled : filled ∈ d.frameReadings line := by decide +kernel
  have hout : out ∈ d.callReadings filled := by decide +kernel
  exact ⟨hfilled, hout, passes_of_mem_callReadings hfilled hout⟩

end Deobfuscation.Deobfuscator
