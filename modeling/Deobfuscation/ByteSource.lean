import Deobfuscation.Text.Line

/-!
# Byte sources

A source delivers bytes and then either ends or fails.  A line that is still open when the
source fails is lost: only its end mark, or the regular end of the source, completes a line.

* `ByteSource` — the bytes delivered and the failure after them, if any;
* `ByteSource.lines` — the lines that the source completes;
* `lines_ofBytes` — **proved**: a source that does not fail completes every line.
-/

namespace Deobfuscation

/-- Bytes, and the text of the failure that follows them, if the source does not just end. -/
structure ByteSource where
  bytes : List UInt8
  failure : Option String
  deriving DecidableEq, Repr

namespace ByteSource

/-- A source that ends after its bytes. -/
def ofBytes (bytes : List UInt8) : ByteSource := ⟨bytes, none⟩

/-- The same source, failing with `message` after at most `count` bytes. -/
def failingAfter (count : Nat) (message : String) (source : ByteSource) : ByteSource :=
  ⟨source.bytes.take count, some message⟩

/-- The byte that closes a line. -/
def lineFeed : UInt8 := 10

/-- A line has its end mark. -/
def isClosed (line : List UInt8) : Bool := line.getLast? == some lineFeed

/-- The lines that the source completes. -/
def lines (source : ByteSource) : List (List UInt8) :=
  let all := Text.splitAfter lineFeed source.bytes
  if source.failure.isNone then all else all.filter isClosed

/-- **A source that does not fail completes every line.** -/
theorem lines_ofBytes (bytes : List UInt8) :
    (ofBytes bytes).lines = Text.splitAfter lineFeed bytes := rfl

end ByteSource

end Deobfuscation
