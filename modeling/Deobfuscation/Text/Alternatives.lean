/-!
# Alternatives under one another

When a line stands for several other lines, the first is written in full and each later one
shows only where it differs from the line above: the characters it shares with that line's
beginning are blanked out, so that the difference stays in its column.

* `blankShared` — a line with the beginning it shares with the line above blanked out;
* `alternatives` — a list of lines so written, without those that blank out to nothing;
* `length_blankShared` — **proved**: blanking keeps every column.
-/

namespace Deobfuscation.Text

/-- A line whose common beginning with the line above is replaced by spaces. -/
def blankShared : List Char → List Char → List Char
  | p :: above, c :: line => if p = c then ' ' :: blankShared above line else c :: line
  | _, line => line

/-- The lines that follow `above`, each with what it shares with its predecessor blanked out;
an empty line is left out. -/
def alternativesAfter (above : List Char) : List (List Char) → List (List Char)
  | [] => []
  | line :: lines =>
    if (blankShared above line).isEmpty then alternativesAfter line lines
    else blankShared above line :: alternativesAfter line lines

/-- Alternative lines under one another, the first of them in full. -/
def alternatives : List (List Char) → List (List Char)
  | [] => []
  | first :: lines => first :: alternativesAfter first lines

/-- **Blanking keeps every column.** -/
theorem length_blankShared (above line : List Char) :
    (blankShared above line).length = line.length := by
  induction above generalizing line with
  | nil => simp [blankShared]
  | cons p above ih =>
    cases line with
    | nil => simp [blankShared]
    | cons c line =>
      rw [blankShared]
      split <;> simp [ih]

end Deobfuscation.Text
