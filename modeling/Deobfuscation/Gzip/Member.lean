import Deobfuscation.ByteSource
import Deobfuscation.Gzip.Checksum
import Deobfuscation.Gzip.Inflate

/-!
# Compressed files

A compressed file is a header, compressed data, and a trailer with the checksum and the length
of what the data expands to.  Reading it delivers what the data expands to and ends, or fails
where the file is not such a file or is cut off.  What follows the trailer is ignored.

Data is expanded window by window.  Where it turns out to be corrupt, the window begun is lost;
where it is cut off, all of it is delivered.

* `unpack` — a compressed file as a source of what it expands to.
-/

namespace Deobfuscation.Gzip

/-! ### Failures -/

/-- The file is cut off. -/
def endOfFile : String := "unexpected end of file"

/-- The file does not begin like a compressed file. -/
def invalidHeader : String := "invalid gzip header"

/-- A text in the header is too long. -/
def longField : String := "gzip header field too long"

/-- The compressed data is none. -/
def corruptData : String := "corrupt deflate stream"

/-- The compressed data is cut off. -/
def incompleteData : String := "incomplete deflate stream"

/-- A checksum does not belong to what it is meant for. -/
def wrongChecksum : String := "corrupt gzip stream does not have a matching checksum"

/-! ### The header -/

/-- A flag of the header is set. -/
def hasFlag (flags : UInt8) (bit : Nat) : Bool := flags.toNat.testBit bit

/-- The number that bytes write, lowest byte first. -/
def littleEndian : List UInt8 → Nat
  | [] => 0
  | b :: bytes => b.toNat + 256 * littleEndian bytes

/-- Leaves out so many bytes. -/
def skip (count : Nat) (bytes : List UInt8) : Except String (List UInt8) :=
  if bytes.length < count then .error endOfFile else .ok (bytes.drop count)

/-- Leaves out the extra field. -/
def skipExtra (bytes : List UInt8) : Except String (List UInt8) := do
  let rest ← skip 2 bytes
  skip (littleEndian (bytes.take 2)) rest

/-- The greatest length of a text in the header. -/
def textLimit : Nat := 65535

/-- Leaves out bytes up to and with a zero. -/
def skipText (bytes : List UInt8) : Except String (List UInt8) :=
  if textLimit < (bytes.takeWhile (· != 0)).length then .error longField
  else
    match bytes.dropWhile (· != 0) with
    | [] => .error endOfFile
    | _ :: rest => .ok rest

/-- Leaves out the checksum of the header, of which the lower half is given. -/
def skipChecksum (header rest : List UInt8) : Except String (List UInt8) := do
  let data ← skip 2 rest
  if littleEndian (rest.take 2) = (checksum header).toNat % 0x10000 then return data
  else throw wrongChecksum

/-- Leaves out a part of the header that a flag announces. -/
def skipIf (announced : Bool) (part : List UInt8 → Except String (List UInt8))
    (bytes : List UInt8) : Except String (List UInt8) :=
  if announced then part bytes else .ok bytes

/-- The bytes after the header. -/
def afterHeader (bytes : List UInt8) : Except String (List UInt8) :=
  match bytes with
  | first :: second :: method :: flags :: _ :: _ :: _ :: _ :: _ :: _ :: rest =>
    if first != 0x1F || second != 0x8B || method != 8 || 0x20 ≤ flags then .error invalidHeader
    else do
      let rest ← skipIf (hasFlag flags 2) skipExtra rest
      let rest ← skipIf (hasFlag flags 3) skipText rest
      let rest ← skipIf (hasFlag flags 4) skipText rest
      skipIf (hasFlag flags 1) (skipChecksum (bytes.take (bytes.length - rest.length))) rest
  | _ => .error endOfFile

/-! ### Whole files -/

/-- What is wrong with the trailer of a file that expands to the given bytes. -/
def trailerFailure (expanded trailer : List UInt8) : Option String :=
  if trailer.length < 8 then some endOfFile
  else if littleEndian (trailer.take 4) = (checksum expanded).toNat ∧
      littleEndian ((trailer.drop 4).take 4) = expanded.length % 0x100000000 then none
  else some wrongChecksum

/-- How many bytes are expanded at a time. -/
def windowSize : Nat := 0x8000

/-- The bytes of the windows before the last. -/
def wholeWindows (bytes : List UInt8) : List UInt8 :=
  bytes.take ((bytes.length - 1) / windowSize * windowSize)

/-- What the bytes of a compressed file expand to, and why it ends too early or is no such file. -/
def expand (bytes : List UInt8) : ByteSource :=
  match afterHeader bytes with
  | .error cause => ⟨[], some cause⟩
  | .ok data =>
    match inflate data with
    | (expanded, .ok trailer) => ⟨expanded, trailerFailure expanded trailer⟩
    | (expanded, .error .truncated) => ⟨expanded, some incompleteData⟩
    | (expanded, .error .corrupt) => ⟨wholeWindows expanded, some corruptData⟩

/-- The file ends too early. -/
def endsTooEarly (cause : String) : Bool := cause == endOfFile || cause == incompleteData

/-- A compressed file as a source of what it expands to.  Where the file ends too early because
reading it fails, that is the failure. -/
def unpack (file : ByteSource) : ByteSource :=
  let expanded := expand file.bytes
  if expanded.failure.any endsTooEarly then
    ⟨expanded.bytes, file.failure.or expanded.failure⟩
  else expanded

end Deobfuscation.Gzip
