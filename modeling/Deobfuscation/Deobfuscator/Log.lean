import Deobfuscation.Deobfuscator.Line

/-!
# Deobfuscating a log

A log is deobfuscated line by line.  What is shown for a line ends as the line did; several lines
for one are parted by its terminator, or by a newline where the log just ends.

A log is also deobfuscated from a source into a **sink**, through a buffer.  A source that fails
still has its complete lines deobfuscated.  A sink that fails takes nothing and is noticed as
soon as the buffer has to be emptied.

* `rawLine`, `log` — a line with its terminator, and a whole log;
* `transfer` — a log from a source into a sink: what reached the sink, and the first failure;
* `transfer_ofBytes` — **proved**: without a failure everything reaches the sink.
-/

namespace Deobfuscation.Deobfuscator

/-! ### Texts -/

/-- What is shown for a line with its terminator. -/
def rawLine (d : Deobfuscator) (raw : List Char) : List Char :=
  let (body, terminator) := Text.bodyAndTerminator raw
  List.intercalate terminator.separator (d.line body) ++ terminator.mark

/-- What is shown for a log. -/
def log (d : Deobfuscator) (s : List Char) : List Char :=
  (Text.splitAfter '\n' s).flatMap d.rawLine

/-! ### Sources and sinks -/

/-- The number of bytes that the buffer in front of a sink holds. -/
def bufferSize : Nat := 8192

/-- Pieces of the given sizes do not all stay in a buffer that is filled so far: one of them
empties it, or is too large for it. -/
def leavesBuffer : Nat → List Nat → Bool
  | _, [] => false
  | filled, size :: sizes =>
    bufferSize ≤ size || (0 < filled && bufferSize < filled + size) ||
      leavesBuffer (filled + size) sizes

/-- The number of bytes of a text. -/
def byteSize (s : List Char) : Nat := (String.ofList s).utf8ByteSize

/-- What is shown for each complete line of a source; bytes that are no text are replaced. -/
def shownLines (d : Deobfuscator) (source : ByteSource) : List (List Char) :=
  source.lines.map fun raw => d.rawLine (Utf8.decodeLossy raw)

/-- Deobfuscates the log of a source into a sink, which fails if a cause is given: what reaches
the sink, and the failure that came first. -/
def transfer (d : Deobfuscator) (source : ByteSource) (sinkFailure : Option String) :
    List Char × Option Failure :=
  let shown := d.shownLines source
  match sinkFailure with
  | none => (shown.flatten, source.failure.map .transfer)
  | some cause =>
    if leavesBuffer 0 (shown.map byteSize) then ([], some (.transfer cause))
    else if source.failure.isSome then ([], source.failure.map .transfer)
    else if shown.flatten.isEmpty then ([], none)
    else ([], some (.transfer cause))

/-- **Without a failure everything reaches the sink.** -/
theorem transfer_ofBytes (d : Deobfuscator) (bytes : List UInt8) :
    d.transfer (.ofBytes bytes) none =
      ((Text.splitAfter ByteSource.lineFeed bytes).flatMap fun raw =>
        d.rawLine (Utf8.decodeLossy raw), none) := by
  simp [transfer, shownLines, ByteSource.lines, ByteSource.ofBytes, List.flatMap_def]

end Deobfuscation.Deobfuscator
