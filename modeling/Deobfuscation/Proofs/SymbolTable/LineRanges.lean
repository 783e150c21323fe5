import Mathlib.Data.List.Basic
import Deobfuscation.Proofs.LineNumber
import Deobfuscation.SymbolTable.Resolve

/-!
# Lines carried from range to range

A method has a range of obfuscated lines and a range of plain lines, and a line of the one stands
for the line of the other at the same distance from its beginning.  The distance of the two ranges
is taken first and the line is added to it, and each of these steps saturates.  Between ranges of
the same length nothing saturates, so their lines correspond one to one.  In general the line is the
nearest to the exact one, unless already the distance is too great: then what was cut off from it is
missing from the line as well, if the line lies in the other direction.

* `LineNumber.IsNearest` — a word that is an integer, or the bound that it lies beyond;
* `LineNumber.isNearest_shift_iff` — **proved**: when two saturating steps are as good as one;
* `LineMap.Parallel`, `LineMap.CarriesOver` — ranges of the same length, and what they do to lines;
* `Parallel.fits`, `Parallel.carriesOver` — **proved**: between such ranges nothing saturates, and
  their lines correspond one to one and in order;
* `SymbolTable.Names`, `Names.frame_mem_resolve` — a frame that names a method of a table, and
  **proved**: the method is among what the frame stands for if it accepts the line;
* `resolve_parallel` — **proved**: the line of a frame of parallel ranges;
* `resolve_shifted` — **proved**: the line of a frame of any ranges that are shifted.
-/

namespace Deobfuscation

/-! ### Saturation -/

namespace LineNumber

theorem fits_toInt (n : LineNumber) : Fits n.toInt := ⟨Int64.le_toInt n, Int64.toInt_le n⟩

/-- The word stands for the integer, or for the bound of words that the integer lies beyond. -/
structure IsNearest (n : Int) (word : LineNumber) : Prop where
  fits : Fits n → word.toInt = n
  above : 0x7FFFFFFFFFFFFFFF < n → word.toInt = 0x7FFFFFFFFFFFFFFF
  below : n < -0x8000000000000000 → word.toInt = -0x8000000000000000

/-- An integer beyond a bound saturates to it. -/
theorem toInt_saturate_eq (n : Int) :
    (saturate n).toInt = max (-0x8000000000000000) (min n 0x7FFFFFFFFFFFFFFF) := by
  by_cases hlow : Int64.minValue.toInt ≤ n
  · by_cases hhigh : n ≤ Int64.maxValue.toInt
    · have hfits : Fits n := ⟨hlow, hhigh⟩
      rw [toInt_saturate hfits]
      obtain ⟨hlow, hhigh⟩ := hfits
      omega
    · rw [saturate, Int64.ofIntClamp, dif_pos hlow, dif_neg hhigh]
      rw [Int64.toInt_maxValue] at hhigh ⊢
      omega
  · rw [saturate, Int64.ofIntClamp, dif_neg hlow]
    rw [Int64.toInt_minValue] at hlow ⊢
    omega

/-- **One word is nearest**, and saturation finds it. -/
theorem isNearest_iff {n : Int} {word : LineNumber} :
    IsNearest n word ↔ word.toInt = (saturate n).toInt := by
  rw [toInt_saturate_eq]
  constructor
  · rintro ⟨hfits, habove, hbelow⟩
    by_cases h : Fits n
    · have hword := hfits h
      obtain ⟨hlow, hhigh⟩ := h
      omega
    · rw [Fits] at h
      omega
  · intro hword
    refine ⟨fun h => ?_, fun h => ?_, fun h => ?_⟩
    · obtain ⟨hlow, hhigh⟩ := h
      omega
    · omega
    · omega

/-- **Two saturating steps are as good as one**, unless the distance is too great in one direction
and the line goes in the other. -/
theorem isNearest_shift_iff {first plainFirst line : LineNumber} (hline : line ≠ 0) :
    IsNearest (plainFirst.toInt - first.toInt + line.toInt) (shift first plainFirst line) ↔
      Fits (plainFirst.toInt - first.toInt) ∨
        (0 < plainFirst.toInt - first.toInt ↔ 0 < line.toInt) := by
  have hzero : line.toInt ≠ 0 := fun h => hline (Int64.toInt_inj.1 h)
  obtain ⟨hlow, hhigh⟩ := line.fits_toInt
  rw [isNearest_iff, shift, toInt_saturate_eq, toInt_saturate_eq, toInt_saturate_eq, Fits]
  omega

/-- Against the direction of the distance only the first step saturates. -/
theorem toInt_shift_of_back {first plainFirst line : LineNumber}
    (hback : ¬(0 < plainFirst.toInt - first.toInt ↔ 0 < line.toInt)) :
    (shift first plainFirst line).toInt =
      (saturate (plainFirst.toInt - first.toInt)).toInt + line.toInt := by
  obtain ⟨hlow, hhigh⟩ := line.fits_toInt
  rw [shift, toInt_saturate_eq, toInt_saturate_eq]
  omega

end LineNumber

/-! ### Ranges -/

namespace SymbolMap.LineMap

open LineNumber (Fits IsNearest)

variable {lines : LineMap} {line : LineNumber}

/-- The obfuscated lines are a range, and the plain lines are a range of the same length. -/
structure Parallel (lines : LineMap) : Prop where
  first : 1 ≤ lines.first
  ordered : lines.first ≤ lines.last
  plainFirst : 0 ≤ lines.plainFirst
  length : lines.plainLast.toInt - lines.plainFirst.toInt = lines.last.toInt - lines.first.toInt

/-- The plain lines are a range of several lines, which begins elsewhere than the obfuscated lines. -/
structure Shifted (lines : LineMap) : Prop where
  elsewhere : lines.plainFirst ≠ lines.first
  last : lines.plainLast ≠ 0
  several : lines.plainLast ≠ lines.plainFirst
  first : lines.first ≠ 0

/-- The line is one of the obfuscated lines. -/
def Covers (lines : LineMap) (line : LineNumber) : Prop := lines.first ≤ line ∧ line ≤ lines.last

/-- The line is one of the plain lines. -/
def CoversPlain (lines : LineMap) (line : LineNumber) : Prop :=
  lines.plainFirst ≤ line ∧ line ≤ lines.plainLast

/-- Each obfuscated line belongs to the method and stands for the plain line at the same distance
from the first, which no step of the arithmetic cuts off, so that the lines correspond one to one
and in order. -/
structure CarriesOver (lines : LineMap) : Prop where
  accepts : ∀ line, lines.Covers line → lines.accepts line = true
  exact : ∀ line, lines.Covers line →
    (lines.plainLine line).toInt = lines.plainFirst.toInt + (line.toInt - lines.first.toInt)
  within : ∀ line, lines.Covers line → lines.CoversPlain (lines.plainLine line)
  ordered : ∀ line other, lines.Covers line → lines.Covers other → line < other →
    lines.plainLine line < lines.plainLine other
  unsaturated : ∀ line, lines.Covers line →
    Fits (lines.plainFirst.toInt - lines.first.toInt) ∧
      Fits (lines.plainFirst.toInt - lines.first.toInt + line.toInt)
  onto : ∀ plain, lines.CoversPlain plain →
    ∃ line, lines.Covers line ∧ lines.plainLine line = plain ∧
      ∀ other, lines.Covers other → lines.plainLine other = plain → other = line

theorem accepts_of_covers (h : lines.Covers line) : lines.accepts line = true := by
  rw [accepts, decide_eq_true h.1, decide_eq_true h.2]
  exact Bool.or_true _

theorem covers_iff :
    lines.Covers line ↔ lines.first.toInt ≤ line.toInt ∧ line.toInt ≤ lines.last.toInt :=
  and_congr Int64.le_iff_toInt_le Int64.le_iff_toInt_le

theorem coversPlain_iff :
    lines.CoversPlain line ↔
      lines.plainFirst.toInt ≤ line.toInt ∧ line.toInt ≤ lines.plainLast.toInt :=
  and_congr Int64.le_iff_toInt_le Int64.le_iff_toInt_le

/-- **Between parallel ranges nothing saturates**: the distance is one of two words that are not
negative, and the line lies in the plain range. -/
theorem Parallel.fits (h : lines.Parallel) (hline : lines.Covers line) :
    Fits (lines.plainFirst.toInt - lines.first.toInt) ∧
      Fits (lines.plainFirst.toInt - lines.first.toInt + line.toInt) := by
  have hfirst : 1 ≤ lines.first.toInt := Int64.le_iff_toInt_le.1 h.first
  have hplain : 0 ≤ lines.plainFirst.toInt := Int64.le_iff_toInt_le.1 h.plainFirst
  have hlength := h.length
  obtain ⟨hlow, hhigh⟩ := covers_iff.1 hline
  obtain ⟨-, hplainHigh⟩ := lines.plainFirst.fits_toInt
  obtain ⟨-, hplainLast⟩ := lines.plainLast.fits_toInt
  obtain ⟨-, hfirstHigh⟩ := lines.first.fits_toInt
  constructor
  · rw [Fits]
    omega
  · rw [Fits]
    omega

/-- **A line of parallel ranges keeps its distance from the first.** -/
theorem Parallel.toInt_plainLine (h : lines.Parallel) (hline : lines.Covers line) :
    (lines.plainLine line).toInt =
      lines.plainFirst.toInt + (line.toInt - lines.first.toInt) := by
  have hfirst : 1 ≤ lines.first.toInt := Int64.le_iff_toInt_le.1 h.first
  have hplain : 0 ≤ lines.plainFirst.toInt := Int64.le_iff_toInt_le.1 h.plainFirst
  obtain ⟨hlow, hhigh⟩ := covers_iff.1 hline
  have hlength := h.length
  rw [plainLine]
  split
  · -- the ranges begin alike
    rename_i hsame
    rw [hsame]
    omega
  rename_i helsewhere
  split
  · obtain ⟨hdistance, hexact⟩ := h.fits hline
    rw [LineNumber.shift, LineNumber.toInt_saturate hdistance, LineNumber.toInt_saturate hexact]
    omega
  · -- a range of a single line
    rename_i hsingle
    by_cases hone : lines.last.toInt = lines.first.toInt
    · omega
    refine absurd ⟨fun hzero => ?_, fun hsame => ?_, fun hzero => ?_, fun hzero => ?_⟩ hsingle
    · rw [hzero, Int64.toInt_zero] at hlength
      omega
    · rw [hsame] at hlength
      omega
    · rw [hzero, Int64.toInt_zero] at hfirst
      omega
    · rw [hzero, Int64.toInt_zero] at hlow
      omega

/-- **Lines of parallel ranges correspond one to one and in order.** -/
theorem Parallel.carriesOver (h : lines.Parallel) : lines.CarriesOver where
  accepts _ := accepts_of_covers
  exact _ := h.toInt_plainLine
  unsaturated _ := h.fits
  within line hline := by
    have hlength := h.length
    obtain ⟨hlow, hhigh⟩ := covers_iff.1 hline
    rw [coversPlain_iff, h.toInt_plainLine hline]
    omega
  ordered line other hline hother hless := by
    rw [Int64.lt_iff_toInt_lt] at hless ⊢
    rw [h.toInt_plainLine hline, h.toInt_plainLine hother]
    omega
  onto plain hplain := by
    have hfirst : 1 ≤ lines.first.toInt := Int64.le_iff_toInt_le.1 h.first
    have hlength := h.length
    obtain ⟨hlow, hhigh⟩ := coversPlain_iff.1 hplain
    obtain ⟨-, hlast⟩ := lines.last.fits_toInt
    -- the obfuscated line at the same distance
    let exact := plain.toInt - lines.plainFirst.toInt + lines.first.toInt
    have hword : (LineNumber.saturate exact).toInt = exact :=
      LineNumber.toInt_saturate ⟨by omega, by omega⟩
    have hcovers : lines.Covers (LineNumber.saturate exact) := by
      rw [covers_iff, hword]
      omega
    refine ⟨_, hcovers, ?_, fun other hother hsame => ?_⟩
    · rw [← Int64.toInt_inj, h.toInt_plainLine hcovers, hword]
      omega
    · have hback := h.toInt_plainLine hother
      rw [hsame] at hback
      rw [← Int64.toInt_inj, hword]
      omega

/-- A line of shifted ranges is carried over by their distance. -/
theorem Shifted.plainLine_eq (h : lines.Shifted) (hline : line ≠ 0) :
    lines.plainLine line = LineNumber.shift lines.first lines.plainFirst line := by
  rw [plainLine, if_neg h.elsewhere, if_pos ⟨h.last, h.several, h.first, hline⟩]

end SymbolMap.LineMap

/-! ### Frames -/

namespace SymbolTable

open LineNumber (Fits IsNearest)

variable {table : SymbolTable} {frame : StackFrame} {symbol : MethodSymbol}

/-- A frame names a method of a table, and neither its type nor its argument types speak against
it. -/
structure Names (table : SymbolTable) (frame : StackFrame) (symbol : MethodSymbol) : Prop where
  known : symbol ∈ table.methods.find ⟨table.plainClass frame.className, frame.method⟩
  type : admits (String.ofList (table.plainType frame.type.toList)) symbol.type = true
  arguments :
    admits (String.ofList (table.plainArguments frame.arguments.toList)) symbol.arguments = true

instance : Decidable (table.Names frame symbol) :=
  decidable_of_iff (_ ∧ _ ∧ _) ⟨fun ⟨h, h', h''⟩ => ⟨h, h', h''⟩, fun ⟨h, h', h''⟩ => ⟨h, h', h''⟩⟩

/-- **A frame stands for a method that it names**, if the method accepts its line. -/
theorem Names.frame_mem_resolve (h : table.Names frame symbol)
    (haccepts : symbol.lines.accepts frame.line = true) :
    symbol.frame frame ∈ table.resolve frame := by
  have hmethod : symbol.frame frame ∈
      table.methodFrames (table.plainClass frame.className) frame := by
    refine List.mem_map.2 ⟨symbol, List.mem_filter.2 ⟨h.known, ?_⟩, rfl⟩
    rw [MethodSymbol.agrees, haccepts, h.type, h.arguments]
    rfl
  have hmember := List.mem_append_right
    (table.fieldFrames (table.plainClass frame.className) frame) hmethod
  rw [resolve, if_neg fun hnone => ?_]
  · exact hmember
  · rw [List.isEmpty_iff.1 hnone] at hmember
    exact List.not_mem_nil hmember

/-- Whether a frame names a method of the table of a symbol map can be evaluated. -/
theorem exists_names_of_ofSource {source : ByteSource}
    (h : (ofSource source).map (fun table => decide (table.Names frame symbol)) = .ok true) :
    ∃ table, ofSource source = .ok table ∧ table.Names frame symbol := by
  cases hload : ofSource source with
  | error cause =>
    rw [hload] at h
    cases h
  | ok table =>
    rw [hload] at h
    exact ⟨table, rfl, of_decide_eq_true (Except.ok.inj h)⟩

/-- **Lines map exactly onto the plain range**: where the ranges of a method have the same length,
its lines correspond one to one and in order, and a frame that names the method at one of its lines
stands for the plain line at the same distance from the first. -/
theorem resolve_parallel {lines : SymbolMap.LineMap} (h : lines.Parallel) :
    lines.CarriesOver ∧
      ∀ {table : SymbolTable} {frame : StackFrame} {symbol : MethodSymbol},
        table.Names frame symbol → symbol.lines = lines → lines.Covers frame.line →
          symbol.frame frame ∈ table.resolve frame ∧
            (symbol.frame frame).line.toInt =
              lines.plainFirst.toInt + (frame.line.toInt - lines.first.toInt) := by
  refine ⟨h.carriesOver, ?_⟩
  rintro table frame symbol hnames rfl hline
  exact ⟨hnames.frame_mem_resolve (SymbolMap.LineMap.accepts_of_covers hline),
    h.toInt_plainLine hline⟩

/-- The last lines of two ranges, of which one ends at the greatest word. -/
theorem resolve_parallel_greatest :
    let lines : SymbolMap.LineMap := ⟨3, 5, 9223372036854775805, 9223372036854775807⟩
    let source := ByteSource.ofBytes
      "A -> a:\n    3:5:void f():9223372036854775805:9223372036854775807 -> b\n".toUTF8.toList
    let frame := { StackFrame.unknown with className := "a", method := "b", line := 5 }
    lines.Parallel ∧ lines.CarriesOver ∧ ∃ table, ofSource source = .ok table ∧
      ⟨"A", "A.java", 9223372036854775807, "void", "", "f", ""⟩ ∈ table.resolve frame := by
  intro lines source frame
  let symbol : MethodSymbol := ⟨"A", "void", "f", "", lines⟩
  have hparallel : lines.Parallel :=
    ⟨by decide +kernel, by decide +kernel, by decide +kernel, by decide +kernel⟩
  obtain ⟨table, hload, hnames⟩ : ∃ table, ofSource source = .ok table ∧
      table.Names frame symbol := exists_names_of_ofSource (by decide +kernel)
  obtain ⟨hcarries, hframes⟩ := resolve_parallel hparallel
  obtain ⟨hmember, -⟩ := hframes hnames rfl ⟨by decide +kernel, by decide +kernel⟩
  have hframe : symbol.frame frame =
      ⟨"A", "A.java", 9223372036854775807, "void", "", "f", ""⟩ := by
    decide +kernel
  exact ⟨hparallel, hcarries, table, hload, hframe ▸ hmember⟩

/-- **The line of a frame is the nearest to the exact one if and only if** the distance of the two
ranges fits, or the line goes in the direction of the distance.  If it goes against it, what was cut
off from the distance is missing from the line. -/
theorem resolve_shifted (hnames : table.Names frame symbol) (hshifted : symbol.lines.Shifted)
    (hline : frame.line ≠ 0) (haccepts : symbol.lines.accepts frame.line = true) :
    let distance := symbol.lines.plainFirst.toInt - symbol.lines.first.toInt
    symbol.frame frame ∈ table.resolve frame ∧
      (IsNearest (distance + frame.line.toInt) (symbol.frame frame).line ↔
        Fits distance ∨ (0 < distance ↔ 0 < frame.line.toInt)) ∧
      (¬(0 < distance ↔ 0 < frame.line.toInt) →
        (symbol.frame frame).line.toInt =
          (LineNumber.saturate distance).toInt + frame.line.toInt) := by
  intro distance
  have hplain : (symbol.frame frame).line =
      LineNumber.shift symbol.lines.first symbol.lines.plainFirst frame.line :=
    hshifted.plainLine_eq hline
  refine ⟨hnames.frame_mem_resolve haccepts, ?_, fun hback => ?_⟩
  · rw [hplain]
    exact LineNumber.isNearest_shift_iff hline
  · rw [hplain]
    exact LineNumber.toInt_shift_of_back hback

/-- A line that lies beyond the greatest word. -/
theorem resolve_shifted_greatest :
    let lines : SymbolMap.LineMap := ⟨5, 0, 9223372036854775800, 12⟩
    let source := ByteSource.ofBytes
      "Orig -> Obf:\n    5:0:void foo():9223372036854775800:12 -> a\n".toUTF8.toList
    let frame := { StackFrame.unknown with className := "Obf", method := "a", line := 13 }
    lines.Shifted ∧ lines.accepts 13 = true ∧ ∃ table, ofSource source = .ok table ∧
      ⟨"Orig", "Orig.java", 9223372036854775807, "void", "", "foo", ""⟩ ∈ table.resolve frame ∧
      IsNearest 9223372036854775808 9223372036854775807 := by
  intro lines source frame
  let symbol : MethodSymbol := ⟨"Orig", "void", "foo", "", lines⟩
  have hshifted : lines.Shifted :=
    ⟨by decide +kernel, by decide +kernel, by decide +kernel, by decide +kernel⟩
  have haccepts : lines.accepts 13 = true := by decide +kernel
  obtain ⟨table, hload, hnames⟩ : ∃ table, ofSource source = .ok table ∧
      table.Names frame symbol := exists_names_of_ofSource (by decide +kernel)
  obtain ⟨hmember, hnearest, -⟩ :=
    resolve_shifted hnames hshifted (by decide +kernel) haccepts
  have hframe : symbol.frame frame =
      ⟨"Orig", "Orig.java", 9223372036854775807, "void", "", "foo", ""⟩ := by
    decide +kernel
  rw [hframe] at hmember hnearest
  exact ⟨hshifted, haccepts, table, hload, hmember, hnearest.2 (.inl (by decide +kernel))⟩

/-- **What is cut off from the distance is missing from the line**: in this map the distance lies
three below the least word, and the line of the frame is too great by three, although the exact one
fits. -/
theorem resolve_shifted_cutOff :
    let lines : SymbolMap.LineMap := ⟨5, 0, -9223372036854775806, 12⟩
    let source := ByteSource.ofBytes
      "Orig -> Obf:\n    5:0:void foo():-9223372036854775806:12 -> a\n".toUTF8.toList
    let frame := { StackFrame.unknown with className := "Obf", method := "a", line := 7 }
    let exact := lines.plainFirst.toInt - lines.first.toInt + frame.line.toInt
    lines.Shifted ∧ lines.accepts frame.line = true ∧ frame.line ≠ 0 ∧
      ∃ table, ofSource source = .ok table ∧
        table.Names frame ⟨"Orig", "void", "foo", "", lines⟩ ∧
        table.resolve frame =
          [⟨"Orig", "Orig.java", -9223372036854775801, "void", "", "foo", ""⟩] ∧
        exact = -9223372036854775804 ∧ Fits exact ∧
        ¬IsNearest exact (-9223372036854775801) := by
  intro lines source frame exact
  obtain ⟨table, hload, hnames⟩ : ∃ table, ofSource source = .ok table ∧
      table.Names frame ⟨"Orig", "void", "foo", "", lines⟩ :=
    exists_names_of_ofSource (by decide +kernel)
  have hresolve : (ofSource source).map (·.resolve frame) =
      .ok [⟨"Orig", "Orig.java", -9223372036854775801, "void", "", "foo", ""⟩] := by
    decide +kernel
  rw [hload] at hresolve
  have hexact : exact = -9223372036854775804 := by decide +kernel
  have hfits : Fits exact := by
    rw [hexact]
    decide
  refine ⟨⟨by decide +kernel, by decide +kernel, by decide +kernel, by decide +kernel⟩,
    by decide +kernel, by decide +kernel, table, hload, hnames, Except.ok.inj hresolve,
    hexact, hfits, fun hnearest => ?_⟩
  have hline := hnearest.fits hfits
  rw [hexact] at hline
  exact absurd hline (by decide +kernel)

end SymbolTable

end Deobfuscation
