import Deobfuscation.Proofs.Template.WrittenBack

/-!
# Lines put together from parts

A line whose slots lie one behind the other is put together from **parts**: a stretch that is kept,
and behind it the text that stands for a placeholder.  What follows the last part is kept as well.
What such a line tells, and what becomes of it when a frame is written into it, is known part by
part.

* `LinePart.line`, `LinePart.slots` — the line of parts and their slots;
* `frameOfSlots_line` — **proved**: the slots tell the texts of the parts;
* `fillSlots_line` — **proved**: filling them gives the line of the parts with the texts of the
  frame, whose slots are what was written;
* `Template.parse?_line`, `Template.format_line` — **proved**: so this is how a template reads and
  writes a line with these slots.
-/

namespace Deobfuscation

open Regex (Capture)

/-- A stretch of a line that is kept, and behind it the text that stands for a placeholder. -/
structure LinePart where
  kept : List Char
  placeholder : Placeholder
  text : List Char
  deriving DecidableEq, Repr

namespace LinePart

/-- The line of parts and of what follows them. -/
def line : List LinePart → List Char → List Char
  | [], ending => ending
  | part :: parts, ending => part.kept ++ (part.text ++ line parts ending)

/-- The slots of parts behind the beginning of a line. -/
def slots (before : List Char) : List LinePart → List Slot
  | [] => []
  | part :: parts =>
    ⟨part.placeholder, (before ++ part.kept).length, (before ++ part.kept ++ part.text).length⟩ ::
      slots (before ++ part.kept ++ part.text) parts

/-- The captures of the slots of parts by the groups from an index on. -/
def captures (group : Nat) (before : List Char) (parts : List LinePart) : List Capture :=
  ((slots before parts).zipIdx group).reverse.map fun (slot, i) => ⟨i, slot.span⟩

/-- Reads a part into a frame, unless its text is empty. -/
def read (frame : StackFrame) (part : LinePart) : StackFrame :=
  if part.text.isEmpty then frame else part.placeholder.read part.text frame

/-- The part with the text of a frame in place of its own. -/
def rewritten (verbose : Bool) (frame : StackFrame) (part : LinePart) : LinePart :=
  { part with text := part.placeholder.write verbose frame }

/-- Reading the slots of parts reads the parts, whatever stands in front of them. -/
theorem foldl_readSlot (ending : List Char) (parts : List LinePart) :
    ∀ (before : List Char) (frame : StackFrame),
      (slots before parts).foldl (readSlot (before ++ line parts ending)) frame =
        parts.foldl read frame := by
  induction parts with
  | nil => exact fun before frame => rfl
  | cons part parts ih =>
    intro before frame
    have hline : before ++ line (part :: parts) ending =
        before ++ part.kept ++ part.text ++ line parts ending := by
      simp [line]
    have hslot : readSlot (before ++ line (part :: parts) ending) frame
        ⟨part.placeholder, (before ++ part.kept).length,
          (before ++ part.kept ++ part.text).length⟩ = part.read frame := by
      rw [readSlot, hline, text_between, read]
    rw [slots, List.foldl_cons, List.foldl_cons, hslot, hline]
    exact ih _ _

/-- Filling the slots of parts, from a position on, puts other texts in their place. -/
theorem fill_slots (verbose : Bool) (frame : StackFrame) (ending : List Char)
    (parts : List LinePart) :
    ∀ before written : List Char,
      fill (fun placeholder => placeholder.write verbose frame) (slots before parts) before.length
          (line parts ending) written.length =
        ⟨line (parts.map (rewritten verbose frame)) ending,
          (slots written (parts.map (rewritten verbose frame))).map Slot.span⟩ := by
  induction parts with
  | nil => exact fun before written => rfl
  | cons part parts ih =>
    intro before written
    have hline : line (part :: parts) ending =
        part.kept ++ part.text ++ line parts ending := by
      simp [line]
    have hrest := ih (before ++ part.kept ++ part.text)
      (written ++ part.kept ++ part.placeholder.write verbose frame)
    rw [slots, hline, fill_cons, ← List.length_append, ← List.length_append, hrest]
    simp [line, slots, rewritten]

end LinePart

open LinePart

/-- **The slots of a line that is put together from parts tell their texts.** -/
theorem frameOfSlots_line (parts : List LinePart) (ending : List Char) :
    frameOfSlots (line parts ending) (slots [] parts) = parts.foldl LinePart.read .unknown := by
  rw [frameOfSlots_eq_foldl]
  exact foldl_readSlot ending parts [] .unknown

/-- **Filling the slots of a line gives the line with the texts of the frame**, whose slots are what
was written. -/
theorem fillSlots_line (verbose : Bool) (parts : List LinePart) (ending : List Char)
    (frame : StackFrame) :
    fillSlots verbose (line parts ending) (slots [] parts) frame =
      ⟨line (parts.map (rewritten verbose frame)) ending,
        (slots [] (parts.map (rewritten verbose frame))).map Slot.span⟩ :=
  fill_slots verbose frame ending parts [] []

namespace Template

variable {template : Template} {parts : List LinePart} {ending : List Char}

/-- **A line is read as the texts of its parts.** -/
theorem parse?_line (h : template.slots? (line parts ending) = some (slots [] parts)) :
    template.parse? (line parts ending) = some (parts.foldl LinePart.read .unknown) := by
  rw [parse?, h, Option.map_some, frameOfSlots_line]

/-- **A frame that is written into a line replaces the texts of its parts and keeps the rest.** -/
theorem format_line (h : template.slots? (line parts ending) = some (slots [] parts))
    (verbose : Bool) (frame : StackFrame) :
    (template.format verbose (line parts ending) frame).text =
      line (parts.map (rewritten verbose frame)) ending := by
  rw [format, h]
  exact congrArg Filled.text (fillSlots_line verbose parts ending frame)

end Template

end Deobfuscation
