import Deobfuscation.Unicode.Ranges

/-!
# Blank characters

Texts are lists of characters.  A character is **blank** when it has the Unicode property
`White_Space`; the twenty-five such characters are listed here as ranges of code points.
Trimming removes blanks from the ends of a text and nothing else.

* `inRanges` — membership of a character in a table of code point ranges;
* `isBlank` — the property itself;
* `trimStart`, `trimEnd`, `trim` — a text without its leading, trailing, outer blanks;
* `trim_nil_iff` — **proved**: a text trims to nothing exactly when it is all blank.
-/

namespace Deobfuscation.Text

/-- A character lies in a table of inclusive code point ranges. -/
def inRanges (ranges : Unicode.Ranges) (c : Char) : Bool := Unicode.Ranges.contains ranges c.toNat

/-- The code points with the property `White_Space`. -/
def blankRanges : Unicode.Ranges :=
  [(0x9, 0xD), (0x20, 0x20), (0x85, 0x85), (0xA0, 0xA0), (0x1680, 0x1680), (0x2000, 0x200A),
    (0x2028, 0x2029), (0x202F, 0x202F), (0x205F, 0x205F), (0x3000, 0x3000)]

/-- A character is blank when it has the property `White_Space`. -/
def isBlank (c : Char) : Bool := inRanges blankRanges c

/-- A text without its leading blanks. -/
def trimStart (s : List Char) : List Char := s.dropWhile isBlank

/-- A text without its trailing blanks. -/
def trimEnd (s : List Char) : List Char := (s.reverse.dropWhile isBlank).reverse

/-- A text without its leading and trailing blanks. -/
def trim (s : List Char) : List Char := trimEnd (trimStart s)

/-! ### What trimming keeps -/

theorem trimStart_of_head {c : Char} {s : List Char} (h : isBlank c = false) :
    trimStart (c :: s) = c :: s := by
  simp [trimStart, h]

theorem dropWhile_eq_nil_iff_all (p : Char → Bool) (s : List Char) :
    s.dropWhile p = [] ↔ ∀ c ∈ s, p c = true := by
  induction s with
  | nil => simp
  | cons c s ih =>
    cases h : p c with
    | false => simp [h]
    | true => simp [h, ih]

/-- **A text trims to nothing exactly when it is all blank.** -/
theorem trim_nil_iff (s : List Char) : trim s = [] ↔ ∀ c ∈ s, isBlank c = true := by
  have hend : ∀ t : List Char, trimEnd t = [] ↔ ∀ c ∈ t, isBlank c = true := by
    intro t
    rw [trimEnd, List.reverse_eq_nil_iff, dropWhile_eq_nil_iff_all]
    simp
  rw [trim, hend, trimStart]
  constructor
  · intro h
    have hs : s.dropWhile isBlank = [] := by
      cases hd : s.dropWhile isBlank with
      | nil => rfl
      | cons c t =>
        have hc : isBlank c = true := h c (by simp [hd])
        have hnot : isBlank c = false := by
          have := List.head_dropWhile_not (p := isBlank) (l := s) (by simp [hd])
          simpa [hd] using this
        simp [hc] at hnot
    exact (dropWhile_eq_nil_iff_all isBlank s).1 hs
  · intro h
    rw [(dropWhile_eq_nil_iff_all isBlank s).2 h]
    simp

end Deobfuscation.Text
