import Deobfuscation.Unicode.Ranges

/-!
# Encodings of a set

The encodings of the characters of a set are described by sequences of byte ranges: a sequence
stands for all encodings whose bytes lie in its ranges, one after the other.  The sequences of a
set are as few as they can be, and come in ascending order.

* `ByteSequence` — the sequences;
* `sequencesBetween` — the sequences of numbers of the same length;
* `byteSequences` — the sequences of a set;
* `length_of_mem_sequencesBetween` — **proved**: all of them are as long as the encodings.
-/

namespace Deobfuscation.Regex

/-- Ranges of bytes, one after the other. -/
abbrev ByteSequence := List (Nat × Nat)

/-- How many values so many bytes have that hold six bits each. -/
def valuesOf : Nat → Nat
  | 0 => 1
  | count + 1 => 64 * valuesOf count

/-- The ranges of so many bytes that may have any value after the first byte. -/
def anyBytes (count : Nat) : ByteSequence := List.replicate count (0x80, 0xBF)

/-- The sequences whose first byte has a value from a first one up to another, and whose
`count` other bytes may have any value. -/
def wholeSequences (lead count first stop : Nat) : List ByteSequence :=
  if first < stop then [(lead + first, lead + (stop - 1)) :: anyBytes count] else []

/-- Sequences after a first byte of one value. -/
def under (byte : Nat) (sequences : List ByteSequence) : List ByteSequence :=
  sequences.map fun bytes => (byte, byte) :: bytes

/-- The sequences of the numbers between two that are written with a first byte and so many bytes
after it, each of which holds six bits.  Where the first or the last value of the first byte does
not have all its numbers, it is dealt with on its own. -/
def sequencesBetween (lead : Nat) : Nat → Nat → Nat → List ByteSequence
  | 0, low, high => [[(lead + low, lead + high)]]
  | count + 1, low, high =>
    let unit := valuesOf (count + 1)
    let first := low / unit
    let last := high / unit
    let between := sequencesBetween 0x80 count
    if first = last then under (lead + first) (between (low % unit) (high % unit))
    else
      match low % unit == 0, high % unit + 1 == unit with
      | true, true => wholeSequences lead (count + 1) first (last + 1)
      | true, false =>
        wholeSequences lead (count + 1) first last ++
          under (lead + last) (between 0 (high % unit))
      | false, true =>
        under (lead + first) (between (low % unit) (unit - 1)) ++
          wholeSequences lead (count + 1) (first + 1) (last + 1)
      | false, false =>
        under (lead + first) (between (low % unit) (unit - 1)) ++
          wholeSequences lead (count + 1) (first + 1) last ++
            under (lead + last) (between 0 (high % unit))

/-- How the encodings of each length begin: the first and the last number that is encoded so, the
number of bytes after the first, and what the first byte adds to its bits. -/
def encodingLengths : List (Nat × Nat × Nat × Nat) :=
  [(0, 0x7F, 0, 0), (0x80, 0x7FF, 1, 0xC0), (0x800, 0xFFFF, 2, 0xE0),
    (0x10000, 0x10FFFF, 3, 0xF0)]

/-- The sequences of a set. -/
def byteSequences (s : Unicode.Ranges) : List ByteSequence :=
  s.flatMap fun (low, high) =>
    encodingLengths.flatMap fun (first, last, count, lead) =>
      if max low first ≤ min high last then
        sequencesBetween lead count (max low first) (min high last)
      else []

/-! ### Lengths -/

theorem length_of_mem_wholeSequences {lead count first stop : Nat} {bytes : ByteSequence}
    (h : bytes ∈ wholeSequences lead count first stop) : bytes.length = count + 1 := by
  rw [wholeSequences] at h
  split at h
  · rw [List.mem_singleton] at h
    simp [h, anyBytes]
  · simp at h

theorem length_of_mem_under (byte : Nat) {count : Nat} {sequences : List ByteSequence}
    (h : ∀ bytes ∈ sequences, bytes.length = count) :
    ∀ bytes ∈ under byte sequences, bytes.length = count + 1 := by
  intro bytes hbytes
  obtain ⟨rest, hrest, rfl⟩ := List.mem_map.1 hbytes
  rw [List.length_cons, h rest hrest]

/-- **All sequences are as long as the encodings.** -/
theorem length_of_mem_sequencesBetween (lead count low high : Nat) :
    ∀ bytes ∈ sequencesBetween lead count low high, bytes.length = count + 1 := by
  induction count generalizing lead low high with
  | zero => simp [sequencesBetween]
  | succ count ih =>
    have hunder := fun (byte low high : Nat) => length_of_mem_under byte (ih 0x80 low high)
    have hwhole := fun (first stop : Nat) (bytes : ByteSequence)
        (h : bytes ∈ wholeSequences lead (count + 1) first stop) => length_of_mem_wholeSequences h
    intro bytes h
    rw [sequencesBetween] at h
    split at h
    · exact hunder _ _ _ _ h
    · split at h
      · exact hwhole _ _ _ h
      · exact (List.mem_append.1 h).elim (hwhole _ _ _) (hunder _ _ _ _)
      · exact (List.mem_append.1 h).elim (hunder _ _ _ _) (hwhole _ _ _)
      · rcases List.mem_append.1 h with h | h
        · exact (List.mem_append.1 h).elim (hunder _ _ _ _) (hwhole _ _ _)
        · exact hunder _ _ _ _ h

end Deobfuscation.Regex
