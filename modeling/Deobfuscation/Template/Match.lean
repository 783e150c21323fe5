import Deobfuscation.Template.Basic

/-!
# Reading and filling lines

A template matched against a line gives a **slot** for each placeholder that took part: the
stretch of the line that its group captured.  The slots tell a stack frame; another frame can be
written into them, which fills the line anew.  A stretch written into a line is remembered as a
span of the new line.

* `Template.slots?` — the slots of a line, in the order of the placeholders;
* `frameOfSlots` — the frame that the slots tell;
* `fill` — a line with texts written into its slots;
* `Template.parse?`, `Template.format` — a line read into a frame, a frame written into a line.
-/

namespace Deobfuscation

open Regex (Span)

/-- A placeholder and the stretch of a line that it stands for. -/
structure Slot where
  placeholder : Placeholder
  span : Span
  deriving DecidableEq, Repr

/-- A line and the stretches of it that were written into it, in order. -/
structure Filled where
  text : List Char
  spans : List Span
  deriving DecidableEq, Repr

/-- A line into which nothing was written. -/
def Filled.untouched (line : List Char) : Filled := ⟨line, []⟩

/-! ### Slots -/

/-- The slots of placeholders whose groups begin at an index. -/
def slotsFrom (captures : List Regex.Capture) : Nat → List Placeholder → List Slot
  | _, [] => []
  | group, placeholder :: placeholders =>
    match Regex.captured? captures group with
    | some span => ⟨placeholder, span⟩ :: slotsFrom captures (group + 1) placeholders
    | none => slotsFrom captures (group + 1) placeholders

/-- The frame that the slots of a line tell.  An empty slot tells nothing, and of two slots for
one component the later counts. -/
def frameOfSlots (line : List Char) (slots : List Slot) : StackFrame :=
  slots.foldl (fun frame slot =>
    let s := slot.span.text line
    if s.isEmpty then frame else slot.placeholder.read s frame) .unknown

/-- Writes texts into the slots of a line from a position on, where `rest` is the line from there
and `offset` the length of what is written before.  A slot that begins before the position is
left out. -/
def fill (write : Placeholder → List Char) :
    List Slot → Nat → List Char → Nat → Filled
  | [], _, rest, _ => ⟨rest, []⟩
  | slot :: slots, position, rest, offset =>
    if slot.span.start < position then fill write slots position rest offset
    else
      let kept := rest.take (slot.span.start - position)
      let written := write slot.placeholder
      let start := offset + kept.length
      let stop := start + written.length
      let filled :=
        fill write slots slot.span.stop (rest.drop (slot.span.stop - position)) stop
      ⟨kept ++ written ++ filled.text, ⟨start, stop⟩ :: filled.spans⟩

/-- A line with the components of a frame written into its slots. -/
def fillSlots (verbose : Bool) (line : List Char) (slots : List Slot) (frame : StackFrame) :
    Filled :=
  fill (fun placeholder => placeholder.write verbose frame) slots 0 line 0

/-! ### Templates and lines -/

namespace Template

/-- The slots of a line, if the template matches it. -/
def slots? (template : Template) (line : List Char) : Option (List Slot) :=
  (template.plan.find line).map fun captures => slotsFrom captures 1 template.placeholders

/-- The template matches a line. -/
def matchesLine (template : Template) (line : List Char) : Bool :=
  (template.plan.find line).isSome

/-- The frame that a line tells, if the template matches it. -/
def parse? (template : Template) (line : List Char) : Option StackFrame :=
  (template.slots? line).map (frameOfSlots line)

/-- A line with a frame written into it; a line that does not match stays as it is. -/
def format (template : Template) (verbose : Bool) (line : List Char) (frame : StackFrame) :
    Filled :=
  match template.slots? line with
  | some slots => fillSlots verbose line slots frame
  | none => .untouched line

end Template

end Deobfuscation
