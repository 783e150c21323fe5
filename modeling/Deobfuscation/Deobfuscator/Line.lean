import Deobfuscation.Deobfuscator.Basic
import Deobfuscation.Text.Alternatives
import Deobfuscation.Text.Token

/-!
# Deobfuscating a line

A line passes through two templates.  The first reads a frame from it and fills the line once
for each frame of the plain program that it may stand for.  The second looks for a called method
in each of these lines, but only where the first has not written: a line in which its slots touch
a written stretch stays as it is.

If the line told no line number, the outcomes differ only in what the symbol table leaves open;
they are then shown as alternatives under one another.  Last, if asked for, the words of each
line that are obfuscated class names are replaced.

* `frameReadings`, `callReadings` — the two templates;
* `outcomes` — the lines that a line stands for;
* `sweep` — the obfuscated class names of a line replaced;
* `line` — the lines to be shown for a line;
* `outcomes_ne_nil`, `line_ne_nil` — **proved**: there is at least one.
-/

namespace Deobfuscation.Deobfuscator

/-! ### The two templates -/

/-- A line filled for each frame that it may stand for, or untouched where it tells none. -/
def frameReadings (d : Deobfuscator) (line : List Char) : List Filled :=
  match d.template.slots? line with
  | none => [.untouched line]
  | some slots =>
    (d.table.resolve (frameOfSlots line slots)).map (fillSlots d.verbose line slots)

/-- A slot touches a stretch that was written into the line. -/
def touches (slots : List Slot) (spans : List Regex.Span) : Bool :=
  slots.any fun slot => spans.any slot.span.overlaps

/-- A line filled for each called method that it may name outside of the stretches written
before. -/
def callReadings (d : Deobfuscator) (filled : Filled) : List (List Char) :=
  match Template.calledMethod.slots? filled.text with
  | none => [filled.text]
  | some slots =>
    if touches slots filled.spans then [filled.text]
    else
      (d.table.resolve (frameOfSlots filled.text slots)).map fun frame =>
        (fillSlots d.verbose filled.text slots frame).text

/-- The lines that a line stands for. -/
def outcomes (d : Deobfuscator) (line : List Char) : List (List Char) :=
  (d.frameReadings line).flatMap d.callReadings

/-! ### What is shown -/

/-- The line tells no line number, so nothing in it can tell its outcomes apart. -/
def isAmbiguous (d : Deobfuscator) (line : List Char) : Bool :=
  match d.template.parse? line with
  | some frame => frame.line == 0
  | none => true

/-- A word replaced by the class that it is the obfuscated name of. -/
def sweepToken (d : Deobfuscator) : Text.Token → List Char
  | .delimiter c => [c]
  | .word text => (d.table.plainClass (String.ofList text)).toList

/-- The words of a line that are obfuscated class names replaced. -/
def sweep (d : Deobfuscator) (line : List Char) : List Char :=
  (Text.tokens line).flatMap d.sweepToken

/-- The outcomes of a line, under one another where they are alternatives. -/
def shownOutcomes (d : Deobfuscator) (line : List Char) : List (List Char) :=
  if d.isAmbiguous line then Text.alternatives (d.outcomes line) else d.outcomes line

/-- The lines to be shown for a line. -/
def line (d : Deobfuscator) (line : List Char) : List (List Char) :=
  if d.allClassNames then (d.shownOutcomes line).map d.sweep else d.shownOutcomes line

/-! ### There is an outcome -/

theorem frameReadings_ne_nil (d : Deobfuscator) (line : List Char) : d.frameReadings line ≠ [] := by
  unfold frameReadings
  split
  · simp
  · simp [SymbolTable.resolve_ne_nil]

theorem callReadings_ne_nil (d : Deobfuscator) (filled : Filled) :
    d.callReadings filled ≠ [] := by
  unfold callReadings
  split
  · simp
  · split
    · simp
    · simp [SymbolTable.resolve_ne_nil]

/-- **A line stands for at least one line.** -/
theorem outcomes_ne_nil (d : Deobfuscator) (line : List Char) : d.outcomes line ≠ [] := by
  cases h : d.frameReadings line with
  | nil => exact absurd h (d.frameReadings_ne_nil line)
  | cons filled rest => simp [outcomes, h, d.callReadings_ne_nil]

/-- **At least one line is shown.** -/
theorem line_ne_nil (d : Deobfuscator) (l : List Char) : d.line l ≠ [] := by
  have shown : d.shownOutcomes l ≠ [] := by
    unfold shownOutcomes
    split
    · cases h : d.outcomes l with
      | nil => exact absurd h (d.outcomes_ne_nil l)
      | cons first rest => simp [Text.alternatives]
    · exact d.outcomes_ne_nil l
  unfold line
  split
  · simpa using shown
  · exact shown

end Deobfuscation.Deobfuscator
