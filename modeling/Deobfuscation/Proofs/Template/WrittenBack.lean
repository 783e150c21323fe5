import Deobfuscation.Proofs.LineNumber
import Deobfuscation.Proofs.Template.Filling

/-!
# Frames written back

A frame that is read from a line can be written into the same line again.  This gives the line
back only if every slot tells what it holds: a line number that is not written as usual, or a dot
in a class whose path is joined by slashes, is written differently; and where two slots for one
component hold different things, the frame can remember only one of them.  Nothing else is in the
way: slots may be empty, lie inside one another or out of order.

* `Placeholder.component`, `Placeholder.told` — what a placeholder tells, and what a text tells
  there;
* `Faithful` — the slots of a line that tell what they hold;
* `write_read`, `write_read_of_ne` — **proved**: what is read is written again, and leaves the
  other components alone;
* `write_frameOfSlots`, `Faithful.write_frameOfSlots` — **proved**: for a slot its own text is
  written, if no other tells something else, and so for all faithful slots;
* `text_fill_own` — **proved**: filling slots with their own texts changes nothing;
* `Template.format_parse` — **proved**: so a line of faithful slots is given back.
-/

namespace Deobfuscation

/-! ### Components -/

namespace Placeholder

/-- The component that a placeholder tells; both forms of a class tell the class. -/
def component : Placeholder → Placeholder
  | slashedClass => dottedClass
  | placeholder => placeholder

/-- The text of the component that a text tells at a placeholder. -/
def told (placeholder : Placeholder) (s : List Char) : List Char :=
  match placeholder with
  | slashedClass => ClassName.dotted s
  | _ => s

/-- The text is one that the placeholder writes. -/
structure Writes (placeholder : Placeholder) (s : List Char) : Prop where
  /-- A line is a number as it is written. -/
  line : placeholder = .line → ∃ n : LineNumber, s = n.text
  /-- There is no dot among slashes. -/
  slashedClass : placeholder = .slashedClass → '.' ∉ s

/-- **What is read for a component is written again**, in whichever form it was read. -/
theorem write_read {written read : Placeholder} {s t : List Char} (hs : written.Writes s)
    (hcomponent : read.component = written.component) (htold : read.told t = written.told s)
    (frame : StackFrame) : written.write false (read.read t frame) = s := by
  cases written with
  | line =>
    obtain ⟨n, rfl⟩ := hs.line rfl
    cases read <;> simp only [component, reduceCtorEq] at hcomponent
    have ht : t = n.text := htold
    simp [Placeholder.read, write, ht, LineNumber.ofText?_text]
  | slashedClass =>
    -- the class is remembered with dots, and gets its slashes back
    have hslashes := ClassName.slashed_dotted (hs.slashedClass rfl)
    cases read <;> simp only [component, reduceCtorEq] at hcomponent
    all_goals
      simp only [told] at htold
      simp [Placeholder.read, write, htold, hslashes]
  | _ =>
    cases read <;> simp only [component, reduceCtorEq] at hcomponent
    all_goals
      simp only [told] at htold
      simp [Placeholder.read, write, htold]

/-- **What is read for a component leaves the others alone.** -/
theorem write_read_of_ne {written read : Placeholder} (h : read.component ≠ written.component)
    (t : List Char) (frame : StackFrame) :
    written.write false (read.read t frame) = written.write false frame := by
  cases written <;> cases read <;> first | rfl | exact absurd rfl h

/-- Of a frame of which nothing is known nothing is written but the line. -/
theorem write_unknown {placeholder : Placeholder} (h : placeholder ≠ .line) :
    placeholder.write false .unknown = [] := by
  cases placeholder <;> first | rfl | exact absurd rfl h

end Placeholder

/-! ### Faithful slots -/

/-- What a slot of a line holds, as the text of a component. -/
def Slot.told (slot : Slot) (line : List Char) : List Char :=
  slot.placeholder.told (slot.span.text line)

/-- The slots of a line tell what they hold: each holds a text that its placeholder writes, and
those for one component hold the same. -/
structure Faithful (line : List Char) (slots : List Slot) : Prop where
  writes : ∀ slot ∈ slots, slot.placeholder.Writes (slot.span.text line)
  agree : ∀ a ∈ slots, ∀ b ∈ slots, a.placeholder.component = b.placeholder.component →
    a.told line = b.told line

/-- Reads one slot into a frame, unless it is empty. -/
def readSlot (line : List Char) (frame : StackFrame) (slot : Slot) : StackFrame :=
  if (slot.span.text line).isEmpty then frame
  else slot.placeholder.read (slot.span.text line) frame

theorem frameOfSlots_eq_foldl (line : List Char) (slots : List Slot) :
    frameOfSlots line slots = slots.foldl (readSlot line) .unknown := rfl

section Faithful

variable {line s : List Char} {placeholder : Placeholder}

/-- Reading a slot keeps what is written for a placeholder, if the slot does not tell otherwise. -/
theorem write_readSlot (hs : placeholder.Writes s) {slot : Slot}
    (hagree : slot.placeholder.component = placeholder.component →
      slot.told line = placeholder.told s) {frame : StackFrame}
    (hframe : placeholder.write false frame = s) :
    placeholder.write false (readSlot line frame slot) = s := by
  rw [readSlot]
  split
  · exact hframe
  · by_cases hcomponent : slot.placeholder.component = placeholder.component
    · exact Placeholder.write_read hs hcomponent (hagree hcomponent) frame
    · rw [Placeholder.write_read_of_ne hcomponent, hframe]

/-- Reading slots keeps what is written for a placeholder, if none of them tells otherwise. -/
theorem write_foldl (hs : placeholder.Writes s) {slots : List Slot}
    (hagree : ∀ slot ∈ slots, slot.placeholder.component = placeholder.component →
      slot.told line = placeholder.told s) :
    ∀ frame, placeholder.write false frame = s →
      placeholder.write false (slots.foldl (readSlot line) frame) = s := by
  induction slots with
  | nil => exact fun frame hframe => hframe
  | cons slot slots ih =>
    intro frame hframe
    apply ih fun other hmem => hagree other (List.mem_cons_of_mem slot hmem)
    exact write_readSlot hs (hagree slot List.mem_cons_self) hframe

/-- **For a slot its own text is written**, if every slot for its component tells the same. -/
theorem write_frameOfSlots {slots : List Slot} {slot : Slot} (hslot : slot ∈ slots)
    (hwrites : slot.placeholder.Writes (slot.span.text line))
    (hagree : ∀ other ∈ slots, other.placeholder.component = slot.placeholder.component →
      other.told line = slot.told line) :
    slot.placeholder.write false (frameOfSlots line slots) = slot.span.text line := by
  rw [frameOfSlots_eq_foldl]
  by_cases hempty : slot.span.text line = []
  · -- no slot tells the component, and nothing is known of it to begin with
    refine write_foldl hwrites hagree .unknown ?_
    rw [Placeholder.write_unknown, hempty]
    intro hline
    obtain ⟨n, hn⟩ := hwrites.line hline
    exact n.text_ne_nil (hn.symm.trans hempty)
  · -- the slot itself tells the component, and the slots behind it tell the same
    obtain ⟨before, after, rfl⟩ := List.append_of_mem hslot
    rw [List.foldl_append, List.foldl_cons]
    apply write_foldl hwrites fun other hmem => hagree other (by simp [hmem])
    rw [readSlot, if_neg (by simpa using hempty)]
    exact Placeholder.write_read hwrites rfl rfl _

/-- **For each of faithful slots its own text is written.** -/
theorem Faithful.write_frameOfSlots {slots : List Slot} (h : Faithful line slots) {slot : Slot}
    (hslot : slot ∈ slots) :
    slot.placeholder.write false (frameOfSlots line slots) = slot.span.text line :=
  Deobfuscation.write_frameOfSlots hslot (h.writes slot hslot)
    fun other hmem hcomponent => h.agree other hmem slot hslot hcomponent

end Faithful

/-! ### Lines -/

/-- A stretch and what follows it are what follows its beginning. -/
theorem text_append_drop {span : Regex.Span} (h : span.start ≤ span.stop) (s : List Char) :
    span.text s ++ s.drop span.stop = s.drop span.start := by
  have hdrop : s.drop span.stop = (s.drop span.start).drop (span.stop - span.start) := by
    rw [List.drop_drop, Nat.add_sub_cancel' h]
  rw [Regex.Span.text, hdrop, List.take_append_drop]

/-- **Filling slots with their own texts changes nothing**, whichever of them are left out. -/
theorem text_fill_own {write : Placeholder → List Char} {line : List Char} {slots : List Slot}
    (hwithin : ∀ slot ∈ slots, slot.span.Within line.length)
    (hown : ∀ slot ∈ slots, write slot.placeholder = slot.span.text line) :
    ∀ position offset : Nat,
      (fill write slots position (line.drop position) offset).text = line.drop position := by
  induction slots with
  | nil => exact fun position offset => rfl
  | cons slot slots ih =>
    have hrest := ih (fun other hmem => hwithin other (List.mem_cons_of_mem slot hmem))
      fun other hmem => hown other (List.mem_cons_of_mem slot hmem)
    obtain ⟨hstart, -⟩ := hwithin slot List.mem_cons_self
    intro position offset
    rw [fill]
    by_cases hearly : slot.span.start < position
    · rw [if_pos hearly]
      exact hrest position offset
    · have hposition : position ≤ slot.span.start := Nat.le_of_not_lt hearly
      have hdrop : (line.drop position).drop (slot.span.stop - position) =
          line.drop slot.span.stop := by
        rw [List.drop_drop, Nat.add_sub_cancel' (Nat.le_trans hposition hstart)]
      have hkept : (line.drop position).take (slot.span.start - position) =
          Regex.Span.text ⟨position, slot.span.start⟩ line := rfl
      rw [if_neg hearly]
      dsimp only
      rw [hdrop, hrest, hown slot List.mem_cons_self, List.append_assoc, text_append_drop hstart,
        hkept]
      exact text_append_drop hposition line

namespace Template

/-- **A frame written into the line that it was read from gives the line back**, if the slots of
the line tell what they hold. -/
theorem format_parse (template : Template) {line : List Char} {slots : List Slot}
    (hslots : template.slots? line = some slots) (h : Faithful line slots) :
    ∃ frame, template.parse? line = some frame ∧
      (template.format false line frame).text = line := by
  have hparse : template.parse? line = some (frameOfSlots line slots) := by
    rw [parse?, hslots]
    rfl
  have hformat : template.format false line (frameOfSlots line slots) =
      fillSlots false line slots (frameOfSlots line slots) := by
    rw [format, hslots]
  refine ⟨frameOfSlots line slots, hparse, ?_⟩
  rw [hformat]
  exact text_fill_own (slots_within hslots) (fun slot hmem => h.write_frameOfSlots hmem) 0 0

/-- A template whose groups lie inside one another, and two forms of one class. -/
theorem format_parse_nested :
    ∃ template, ofText? "%C %l (%c)(?:%m)?".toList = some template ∧
      ∃ frame, template.parse? "a/b -7 a.b".toList = some frame ∧
        (template.format false "a/b -7 a.b".toList frame).text = "a/b -7 a.b".toList := by
  have hslots : ((ofText? "%C %l (%c)(?:%m)?".toList).bind (·.slots? "a/b -7 a.b".toList)) =
      some [⟨.slashedClass, 0, 3⟩, ⟨.line, 4, 6⟩, ⟨.dottedClass, 7, 10⟩, ⟨.method, 7, 10⟩] := by
    decide +kernel
  obtain ⟨template, htemplate, hslots⟩ := Option.bind_eq_some_iff.1 hslots
  refine ⟨template, htemplate, format_parse template hslots ⟨?_, by decide⟩⟩
  simp only [List.forall_mem_cons, List.not_mem_nil, false_implies, implies_true, and_true]
  exact ⟨⟨nofun, fun _ => by decide⟩, ⟨fun _ => ⟨-7, by decide⟩, nofun⟩, ⟨nofun, nofun⟩,
    ⟨nofun, nofun⟩⟩

end Template

end Deobfuscation
