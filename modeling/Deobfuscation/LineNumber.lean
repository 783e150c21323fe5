/-!
# Line numbers

A line number is a signed 64-bit word, written in decimal with an optional sign; zero stands
for an unknown line.  Arithmetic on line numbers **saturates**: a result beyond the range of the
word is the nearest word.

* `ofText?` — the number that a text writes, if it is one and fits;
* `text` — a number as it is written;
* `shift` — a line carried from one range to another, saturating at each of its two steps;
* `toInt_saturate` — **proved**: within the range, saturation changes nothing.
-/

namespace Deobfuscation

/-- A line of a source file, or zero for none. -/
abbrev LineNumber := Int64

namespace LineNumber

/-! ### Decimal text -/

/-- The value of decimal digits that follow those of `value`. -/
def digitsValue (value : Nat) : List Char → Option Nat
  | [] => some value
  | c :: s => if c.isDigit then digitsValue (10 * value + (c.toNat - 48)) s else none

/-- The value of a non-empty run of decimal digits. -/
def unsigned? : List Char → Option Nat
  | [] => none
  | s => digitsValue 0 s

/-- The value of decimal digits with an optional sign. -/
def signed? : List Char → Option Int
  | '-' :: s => (unsigned? s).map fun n => -(n : Int)
  | '+' :: s => (unsigned? s).map Int.ofNat
  | s => (unsigned? s).map Int.ofNat

/-- A 64-bit word holds the integer. -/
def Fits (n : Int) : Prop := -0x8000000000000000 ≤ n ∧ n ≤ 0x7FFFFFFFFFFFFFFF

instance (n : Int) : Decidable (Fits n) := inferInstanceAs (Decidable (_ ∧ _))

/-- The line number that a text writes. -/
def ofText? (s : List Char) : Option LineNumber :=
  (signed? s).bind fun n => if Fits n then some (Int64.ofInt n) else none

/-- A line number as it is written. -/
def text (n : LineNumber) : List Char :=
  if n.toInt < 0 then '-' :: Nat.toDigits 10 n.toInt.natAbs else Nat.toDigits 10 n.toInt.natAbs

/-! ### Saturating arithmetic -/

/-- The word nearest to an integer. -/
def saturate (n : Int) : LineNumber := Int64.ofIntClamp n

/-- The line that lies as far from `plainFirst` as `line` lies from `first`: the distance of
the two ranges is taken first and then added, each step saturating. -/
def shift (first plainFirst line : LineNumber) : LineNumber :=
  saturate ((saturate (plainFirst.toInt - first.toInt)).toInt + line.toInt)

/-- **Within the range, saturation changes nothing.** -/
theorem toInt_saturate {n : Int} (h : Fits n) : (saturate n).toInt = n := by
  rw [saturate, Int64.ofIntClamp]
  have hlow : Int64.minValue.toInt ≤ n := h.1
  have hhigh : n ≤ Int64.maxValue.toInt := h.2
  rw [dif_pos hlow, dif_pos hhigh, Int64.toInt_ofIntLE]

end LineNumber

end Deobfuscation
