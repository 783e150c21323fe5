import Deobfuscation.Proofs.Regex.Walk
import Deobfuscation.Template.Match

/-!
# What filling a line does

Filling writes texts into slots of a line and leaves everything else as it is.  The groups of a
template may lie inside one another or out of order, so a slot that begins before the slot written
last has ended is left out; the others part the line into pieces that the new line repeats.

* `outside` — the pieces of a text before, between and after stretches of it;
* `Replaces` — a text is a line with some of its slots replaced, in order;
* `fill_replaces` — **proved**: so is every line that is filled from a position on;
* `Template.slots_within` — **proved**: the slots of a line are stretches of it;
* `Template.format_replaces` — **proved**: so is every line into which a frame is written;
* `text_fill_offset`, `text_fill_slot` — **proved**: the text of a filled line does not depend on
  where it is put, and so goes on behind its first slot.
-/

namespace Deobfuscation

open Regex (Span)

/-! ### Pieces -/

/-- The pieces of a text, from a position on, before, between and after stretches of it. -/
def outside (s : List Char) : Nat → List Span → List (List Char)
  | position, [] => [s.drop position]
  | position, span :: spans => Span.text ⟨position, span.start⟩ s :: outside s span.stop spans

/-- A text holds, from an offset on, what a line holds from a position on, but with the slots
`used` replaced: its stretches `spans`, one for each of these slots, hold what is written. -/
structure Replaces (write : Placeholder → List Char) (line : List Char) (slots used : List Slot)
    (position : Nat) (text : List Char) (spans : List Span) (offset : Nat) : Prop where
  /-- The slots are replaced in their order. -/
  used_sublist : used.Sublist slots
  /-- They lie in the line. -/
  used_within : ∀ slot ∈ used, position ≤ slot.span.start ∧ slot.span.Within line.length
  /-- They lie one after the other. -/
  used_ordered : used.Pairwise fun a b => a.span.stop ≤ b.span.start
  /-- A slot is left out only if it begins before a slot that is replaced has ended. -/
  left_out : ∀ slot ∈ slots, slot ∉ used →
    slot.span.start < position ∨ ∃ earlier ∈ used, slot.span.start < earlier.span.stop
  /-- The stretches lie in the text. -/
  spans_within : ∀ span ∈ spans, offset ≤ span.start ∧ span.Within text.length
  /-- They lie one after the other. -/
  spans_ordered : spans.Pairwise fun a b => a.stop ≤ b.start
  /-- Each holds what is written for the slot in its place. -/
  written : spans.map (·.text text) = used.map fun slot => write slot.placeholder
  /-- Everything else is as it was. -/
  kept : outside text offset spans = outside line position (used.map Slot.span)

/-- As many stretches are written as slots are replaced. -/
theorem Replaces.length_spans {write : Placeholder → List Char} {line text : List Char}
    {slots used : List Slot} {spans : List Span} {position offset : Nat}
    (h : Replaces write line slots used position text spans offset) :
    spans.length = used.length := by
  have hlength := congrArg List.length h.written
  rwa [List.length_map, List.length_map] at hlength

/-! ### Filling a line -/

/-- The stretch between what is before and what is after it. -/
theorem text_between (before middle after : List Char) :
    Span.text ⟨before.length, (before ++ middle).length⟩ (before ++ middle ++ after) = middle := by
  rw [Span.text, List.append_assoc, List.drop_left, List.length_append, Nat.add_sub_cancel_left,
    List.take_left]

/-- Filling copies the line up to the first slot and puts what is written in the place of what
stands there. -/
theorem fill_cons (write : Placeholder → List Char) (placeholder : Placeholder)
    (slots : List Slot) (before kept old rest : List Char) (offset : Nat) :
    fill write
        (⟨placeholder, (before ++ kept).length, (before ++ kept ++ old).length⟩ :: slots)
        before.length (kept ++ old ++ rest) offset =
      ⟨kept ++ write placeholder ++ (fill write slots (before ++ kept ++ old).length rest
          (offset + kept.length + (write placeholder).length)).text,
        ⟨offset + kept.length, offset + kept.length + (write placeholder).length⟩ ::
          (fill write slots (before ++ kept ++ old).length rest
            (offset + kept.length + (write placeholder).length)).spans⟩ := by
  have hnot : ¬(before ++ kept).length < before.length := by
    rw [List.length_append]
    omega
  have hkept : (kept ++ old ++ rest).take ((before ++ kept).length - before.length) = kept := by
    rw [List.length_append, Nat.add_sub_cancel_left, List.append_assoc, List.take_left]
  have hrest : (kept ++ old ++ rest).drop ((before ++ kept ++ old).length - before.length) =
      rest := by
    rw [List.append_assoc before, List.length_append, Nat.add_sub_cancel_left, List.drop_left]
  rw [fill, if_neg hnot]
  dsimp only
  rw [hkept, hrest]

/-- The text of a line that is filled from its first slot on. -/
theorem text_fill_cons (write : Placeholder → List Char) (placeholder : Placeholder)
    (slots : List Slot) (before kept old rest : List Char) (offset : Nat) :
    (fill write
        (⟨placeholder, (before ++ kept).length, (before ++ kept ++ old).length⟩ :: slots)
        before.length (kept ++ old ++ rest) offset).text =
      kept ++ write placeholder ++ (fill write slots (before ++ kept ++ old).length rest
        (offset + kept.length + (write placeholder).length)).text := by
  rw [fill_cons]

/-- The text of a filled line does not depend on where it is put. -/
theorem text_fill_offset (write : Placeholder → List Char) (slots : List Slot) :
    ∀ (position : Nat) (rest : List Char) (offset offset' : Nat),
      (fill write slots position rest offset).text =
        (fill write slots position rest offset').text := by
  induction slots with
  | nil => exact fun position rest offset offset' => rfl
  | cons slot slots ih =>
    intro position rest offset offset'
    rw [fill, fill]
    split
    · exact ih position rest offset offset'
    · dsimp only
      rw [ih]

/-- The text of a line that is filled from its first slot on, wherever it is put. -/
theorem text_fill_slot (write : Placeholder → List Char) (placeholder : Placeholder)
    (slots : List Slot) (before kept old rest : List Char) (offset : Nat) :
    (fill write
        (⟨placeholder, (before ++ kept).length, (before ++ kept ++ old).length⟩ :: slots)
        before.length (kept ++ (old ++ rest)) offset).text =
      kept ++ (write placeholder ++
        (fill write slots (before ++ kept ++ old).length rest 0).text) := by
  rw [← List.append_assoc kept, text_fill_cons, List.append_assoc,
    text_fill_offset write slots _ rest _ 0]

section Filling

variable {write : Placeholder → List Char} {line : List Char}

/-- Nothing is replaced where there is no slot. -/
theorem Replaces.nil (position : Nat) (before : List Char) :
    Replaces write line [] [] position (before ++ line.drop position) [] before.length where
  used_sublist := .slnil
  used_within := by simp
  used_ordered := .nil
  left_out := by simp
  spans_within := by simp
  spans_ordered := .nil
  written := rfl
  kept := by simp [outside]

/-- A slot that begins too early is left out. -/
theorem Replaces.leave {slot : Slot} {slots used : List Slot} {position offset : Nat}
    {text : List Char} {spans : List Span} (hearly : slot.span.start < position)
    (h : Replaces write line slots used position text spans offset) :
    Replaces write line (slot :: slots) used position text spans offset where
  used_sublist := h.used_sublist.cons slot
  used_within := h.used_within
  used_ordered := h.used_ordered
  left_out := by
    intro other hmem hnot
    rcases List.mem_cons.1 hmem with rfl | hmem
    · exact Or.inl hearly
    · exact h.left_out other hmem hnot
  spans_within := h.spans_within
  spans_ordered := h.spans_ordered
  written := h.written
  kept := h.kept

/-- A slot is replaced: the line is copied up to it, and what is written for it takes its
place. -/
theorem Replaces.replace {slot : Slot} {slots used : List Slot} {position : Nat}
    {before copied rest : List Char} {spans : List Span} (hposition : position ≤ slot.span.start)
    (hslot : slot.span.Within line.length)
    (hcopied : copied = Span.text ⟨position, slot.span.start⟩ line)
    (h : Replaces write line slots used slot.span.stop
      (before ++ copied ++ write slot.placeholder ++ rest) spans
      (before ++ copied ++ write slot.placeholder).length) :
    Replaces write line (slot :: slots) (slot :: used) position
      (before ++ copied ++ write slot.placeholder ++ rest)
      (⟨(before ++ copied).length, (before ++ copied ++ write slot.placeholder).length⟩ :: spans)
      before.length where
  used_sublist := h.used_sublist.cons_cons slot
  used_within := by
    intro other hmem
    rcases List.mem_cons.1 hmem with rfl | hmem
    · exact ⟨hposition, hslot⟩
    · obtain ⟨hafter, hwithin⟩ := h.used_within other hmem
      exact ⟨Nat.le_trans hposition (Nat.le_trans hslot.1 hafter), hwithin⟩
  used_ordered :=
    List.pairwise_cons.2 ⟨fun other hmem => (h.used_within other hmem).1, h.used_ordered⟩
  left_out := by
    intro other hmem hnot
    rw [List.mem_cons, not_or] at hnot
    rcases List.mem_cons.1 hmem with rfl | hmem
    · exact absurd rfl hnot.1
    · rcases h.left_out other hmem hnot.2 with hlt | ⟨earlier, hearlier, hlt⟩
      · exact Or.inr ⟨slot, List.mem_cons_self, hlt⟩
      · exact Or.inr ⟨earlier, List.mem_cons_of_mem slot hearlier, hlt⟩
  spans_within := by
    have hlengths : before.length ≤ (before ++ copied).length ∧
        (before ++ copied).length ≤ (before ++ copied ++ write slot.placeholder).length ∧
        (before ++ copied ++ write slot.placeholder).length ≤
          (before ++ copied ++ write slot.placeholder ++ rest).length := by
      simp only [List.length_append]
      omega
    obtain ⟨hstart, hstop, hend⟩ := hlengths
    intro span hmem
    rcases List.mem_cons.1 hmem with rfl | hmem
    · exact ⟨hstart, hstop, hend⟩
    · obtain ⟨hafter, hwithin⟩ := h.spans_within span hmem
      exact ⟨Nat.le_trans hstart (Nat.le_trans hstop hafter), hwithin⟩
  spans_ordered :=
    List.pairwise_cons.2 ⟨fun span hmem => (h.spans_within span hmem).1, h.spans_ordered⟩
  written := by
    rw [List.map_cons, List.map_cons, h.written, text_between]
  kept := by
    rw [List.map_cons, outside, outside, h.kept]
    congr 1
    show Span.text ⟨before.length, (before ++ copied).length⟩ _ = _
    rw [List.append_assoc (before ++ copied), text_between, hcopied]

/-- **A line that is filled from a position on is the line with some of its slots replaced.** -/
theorem fill_replaces (write : Placeholder → List Char) {slots : List Slot}
    (hslots : ∀ slot ∈ slots, slot.span.Within line.length) :
    ∀ (position : Nat) (before : List Char),
      let filled := fill write slots position (line.drop position) before.length
      ∃ used, Replaces write line slots used position (before ++ filled.text) filled.spans
        before.length := by
  induction slots with
  | nil => exact fun position before => ⟨[], .nil position before⟩
  | cons slot slots ih =>
    intro position before
    have hrest := ih fun other hmem => hslots other (List.mem_cons_of_mem slot hmem)
    have hslot := hslots slot List.mem_cons_self
    rw [fill]
    by_cases hearly : slot.span.start < position
    · rw [if_pos hearly]
      obtain ⟨used, h⟩ := hrest position before
      exact ⟨used, h.leave hearly⟩
    · have hposition : position ≤ slot.span.start := Nat.le_of_not_lt hearly
      rw [if_neg hearly]
      have hcopied : (line.drop position).take (slot.span.start - position) =
          Span.text ⟨position, slot.span.start⟩ line := rfl
      -- after the slot the line is read on from where the slot ends
      have hdrop : (line.drop position).drop (slot.span.stop - position) =
          line.drop slot.span.stop := by
        rw [List.drop_drop, Nat.add_sub_cancel' (Nat.le_trans hposition hslot.1)]
      obtain ⟨used, h⟩ := hrest slot.span.stop
        (before ++ Span.text ⟨position, slot.span.start⟩ line ++ write slot.placeholder)
      refine ⟨slot :: used, ?_⟩
      rw [hdrop, hcopied]
      simp only [← List.length_append, ← List.append_assoc]
      exact h.replace hposition hslot rfl

end Filling

/-! ### Templates -/

theorem slotsFrom_within {captures : List Regex.Capture} {length : Nat}
    (h : ∀ group span, Regex.captured? captures group = some span → span.Within length)
    (placeholders : List Placeholder) :
    ∀ group, ∀ slot ∈ slotsFrom captures group placeholders, slot.span.Within length := by
  induction placeholders with
  | nil => simp [slotsFrom]
  | cons placeholder placeholders ih =>
    intro group slot hslot
    rw [slotsFrom] at hslot
    split at hslot
    · rename_i span hspan
      rcases List.mem_cons.1 hslot with rfl | hlater
      · exact h group span hspan
      · exact ih (group + 1) slot hlater
    · exact ih (group + 1) slot hslot

namespace Template

/-- **The slots of a line are stretches of it.** -/
theorem slots_within {template : Template} {line : List Char} {slots : List Slot}
    (h : template.slots? line = some slots) : ∀ slot ∈ slots, slot.span.Within line.length := by
  obtain ⟨captures, hfind, rfl⟩ := Option.map_eq_some_iff.1 h
  exact slotsFrom_within (fun group span => Regex.Plan.captured?_within hfind)
    template.placeholders 1

/-- **Writing a frame into a line replaces slots of the line and nothing else**: the stretches
written are in order and apart, they hold the components of the frame, and around them the line
is as it was.  A line that does not match stays as it is. -/
theorem format_replaces (template : Template) (verbose : Bool) (line : List Char)
    (frame : StackFrame) :
    let filled := template.format verbose line frame
    match template.slots? line with
    | none => filled.text = line ∧ filled.spans = []
    | some slots =>
      ∃ used, filled.spans.length = used.length ∧
        Replaces (fun placeholder => placeholder.write verbose frame) line slots used 0
          filled.text filled.spans 0 := by
  cases hslots : template.slots? line with
  | none => simp [format, hslots, Filled.untouched]
  | some slots =>
    obtain ⟨used, h⟩ := fill_replaces (fun placeholder => placeholder.write verbose frame)
      (slots_within hslots) 0 []
    have hformat : template.format verbose line frame = fillSlots verbose line slots frame := by
      rw [format, hslots]
    rw [hformat]
    exact ⟨used, h.length_spans, h⟩

end Template

end Deobfuscation
