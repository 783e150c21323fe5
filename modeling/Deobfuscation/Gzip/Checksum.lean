/-!
# The checksum of compressed data

Compressed data carries a cyclic redundancy check of what it expands to: the remainder of the
bytes, read as a polynomial over two elements with the lowest bit first, modulo a fixed
polynomial of degree thirty-two.

* `checksumFrom`, `checksum` — the check of bytes that follow others, and of a byte sequence.
-/

namespace Deobfuscation.Gzip

/-- The polynomial of the check, lowest bit first, without its leading term. -/
def polynomial : UInt32 := 0xEDB88320

/-- Divides by one more power of the variable, so many times. -/
def reduce : Nat → UInt32 → UInt32
  | 0, remainder => remainder
  | n + 1, remainder =>
    reduce n
      (if remainder &&& 1 = 1 then (remainder >>> 1) ^^^ polynomial else remainder >>> 1)

/-- The remainder after bytes that follow others. -/
def checksumFrom (remainder : UInt32) (bytes : List UInt8) : UInt32 :=
  bytes.foldl (fun remainder b => reduce 8 (remainder ^^^ b.toUInt32)) remainder

/-- The check of a byte sequence. -/
def checksum (bytes : List UInt8) : UInt32 := checksumFrom 0xFFFFFFFF bytes ^^^ 0xFFFFFFFF

end Deobfuscation.Gzip
