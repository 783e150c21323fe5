import Deobfuscation.Text.Line

/-!
# UTF-8

Bytes are read one at a time.  Between two bytes the decoder is either between characters or
inside a **pending** sequence, which knows how many bytes it still expects and in which bounds
the next of them must lie; the bounds exclude overlong forms, surrogates and values beyond the
last code point.  A byte out of bounds closes the pending sequence as malformed and is then
read afresh, so a malformed stretch is never longer than the longest beginning of a character.

* `segments` — a byte sequence as characters, malformed stretches and a truncated end;
* `decode` — the characters, if nothing is malformed, else the first defect and its place;
* `decodeLossy` — the characters, with U+FFFD for each defect;
* `segmentsFrom_append` — **proved**: reading a sequence in two parts is reading it in one;
* `feed_newline` — **proved**: a newline ends every pending sequence, so what follows it is
  read on its own.
-/

namespace Deobfuscation.Utf8

/-! ### One byte at a time -/

/-- A character begun: its value so far, the bytes it still expects, the bounds of the next
one and the bytes read. -/
structure Pending where
  value : Nat
  missing : Nat
  low : UInt8
  high : UInt8
  length : Nat
  /-- Only continuation bytes are within the bounds. -/
  continuation : 0x80 ≤ low
  deriving DecidableEq, Repr

/-- A stretch of bytes: a character, or bytes that make none. -/
inductive Segment where
  /-- A whole character. -/
  | scalar (c : Char)
  /-- The longest beginning of a character that a byte out of bounds cuts off. -/
  | malformed (length : Nat)
  /-- A character that the end of the bytes cuts off. -/
  | truncated (length : Nat)
  deriving DecidableEq, Repr

/-- Reads a byte between characters: a whole character, the beginning of one, or neither. -/
def start (b : UInt8) : List Segment × Option Pending :=
  if b < 0x80 then ([.scalar (Char.ofNat b.toNat)], none)
  else if 0xC2 ≤ b && b ≤ 0xDF then ([], some ⟨b.toNat - 0xC0, 1, 0x80, 0xBF, 1, by decide⟩)
  else if b == 0xE0 then ([], some ⟨0, 2, 0xA0, 0xBF, 1, by decide⟩)
  else if b == 0xED then ([], some ⟨0xD, 2, 0x80, 0x9F, 1, by decide⟩)
  else if 0xE1 ≤ b && b ≤ 0xEF then ([], some ⟨b.toNat - 0xE0, 2, 0x80, 0xBF, 1, by decide⟩)
  else if b == 0xF0 then ([], some ⟨0, 3, 0x90, 0xBF, 1, by decide⟩)
  else if 0xF1 ≤ b && b ≤ 0xF3 then ([], some ⟨b.toNat - 0xF0, 3, 0x80, 0xBF, 1, by decide⟩)
  else if b == 0xF4 then ([], some ⟨4, 3, 0x80, 0x8F, 1, by decide⟩)
  else ([.malformed 1], none)

/-- Reads a byte inside a pending sequence or between characters. -/
def feed (pending : Option Pending) (b : UInt8) : List Segment × Option Pending :=
  match pending with
  | none => start b
  | some p =>
    if p.low ≤ b && b ≤ p.high then
      let value := 64 * p.value + (b.toNat - 0x80)
      if p.missing ≤ 1 then ([.scalar (Char.ofNat value)], none)
      else ([], some ⟨value, p.missing - 1, 0x80, 0xBF, p.length + 1, by decide⟩)
    else (.malformed p.length :: (start b).1, (start b).2)

/-- The end of the bytes truncates a pending sequence. -/
def finish : Option Pending → List Segment
  | none => []
  | some p => [.truncated p.length]

/-! ### Whole sequences -/

/-- Reads bytes onto the stretches already found, newest first. -/
def readOnto : List UInt8 → Option Pending → List Segment → List Segment × Option Pending
  | [], pending, done => (done, pending)
  | b :: bytes, pending, done =>
    readOnto bytes (feed pending b).2 ((feed pending b).1.reverse ++ done)

/-- The stretches of a byte sequence that continues a pending character. -/
def segmentsFrom (pending : Option Pending) (bytes : List UInt8) : List Segment :=
  (readOnto bytes pending []).1.reverse ++ finish (readOnto bytes pending []).2

/-- The stretches of a byte sequence, in order. -/
def segments (bytes : List UInt8) : List Segment := segmentsFrom none bytes

theorem readOnto_eq (bytes : List UInt8) : ∀ pending done,
    readOnto bytes pending done =
      ((readOnto bytes pending []).1 ++ done, (readOnto bytes pending []).2) := by
  induction bytes with
  | nil => simp [readOnto]
  | cons b bytes ih =>
    intro pending done
    simp only [readOnto]
    rw [ih _ ((feed pending b).1.reverse ++ done), ih _ ((feed pending b).1.reverse ++ [])]
    simp

@[simp] theorem segmentsFrom_nil (pending : Option Pending) :
    segmentsFrom pending [] = finish pending := by
  simp [segmentsFrom, readOnto]

theorem segmentsFrom_cons (pending : Option Pending) (b : UInt8) (bytes : List UInt8) :
    segmentsFrom pending (b :: bytes) =
      (feed pending b).1 ++ segmentsFrom (feed pending b).2 bytes := by
  simp only [segmentsFrom, readOnto]
  rw [readOnto_eq bytes _ ((feed pending b).1.reverse ++ [])]
  simp

/-- The pending sequence that a byte sequence leaves. -/
def pendingAfter (pending : Option Pending) (bytes : List UInt8) : Option Pending :=
  (readOnto bytes pending []).2

/-- **Reading a sequence in two parts is reading it in one.** -/
theorem segmentsFrom_append (pending : Option Pending) (xs ys : List UInt8) :
    segmentsFrom pending (xs ++ ys) =
      (readOnto xs pending []).1.reverse ++ segmentsFrom (pendingAfter pending xs) ys := by
  induction xs generalizing pending with
  | nil => simp [readOnto, pendingAfter]
  | cons b xs ih =>
    rw [List.cons_append, segmentsFrom_cons, ih]
    simp only [pendingAfter, readOnto]
    rw [readOnto_eq xs _ ((feed pending b).1.reverse ++ [])]
    simp

/-! ### Newlines part the reading -/

/-- What is left of a pending sequence when a byte does not continue it. -/
def abandon : Option Pending → List Segment
  | none => []
  | some p => [.malformed p.length]

/-- **A newline ends every pending sequence**, so what follows it is read on its own. -/
theorem feed_newline (pending : Option Pending) :
    feed pending 10 = (abandon pending ++ [.scalar '\n'], none) := by
  have hstart : start 10 = ([.scalar '\n'], none) := by decide
  cases pending with
  | none => simpa [feed, abandon] using hstart
  | some p =>
    have hlow : ¬ p.low ≤ 10 := fun hle =>
      absurd (UInt8.le_trans p.continuation hle) (by decide)
    simp [feed, abandon, hlow, hstart]

/-! ### Decoding -/

/-- What is wrong with a byte sequence. -/
inductive DecodeError where
  /-- The bytes at an index begin a character and are not continued as one. -/
  | invalid (length index : Nat)
  /-- The bytes from an index on begin a character that the end cuts off. -/
  | incomplete (index : Nat)
  deriving DecidableEq, Repr

/-- The wording of a defect. -/
def DecodeError.message : DecodeError → String
  | .invalid length index =>
    "invalid utf-8 sequence of " ++ length.repr ++ " bytes from index " ++ index.repr
  | .incomplete index => "incomplete utf-8 byte sequence from index " ++ index.repr

/-- The characters of a list of stretches that begins at an index, unless one is defective. -/
def charactersFrom : Nat → List Segment → List Char → Except DecodeError (List Char)
  | _, [], done => .ok done.reverse
  | index, .scalar c :: rest, done => charactersFrom (index + c.utf8Size) rest (c :: done)
  | index, .malformed length :: _, _ => .error (.invalid length index)
  | index, .truncated _ :: _, _ => .error (.incomplete index)

/-- The characters of a byte sequence, or its first defect. -/
def decode (bytes : List UInt8) : Except DecodeError (List Char) :=
  charactersFrom 0 (segments bytes) []

/-- A stretch as a character, U+FFFD for a defect. -/
def Segment.replaced : Segment → Char
  | .scalar c => c
  | _ => Char.ofNat 0xFFFD

/-- The characters of a byte sequence, with U+FFFD for each defect. -/
def decodeLossy (bytes : List UInt8) : List Char := (segments bytes).map Segment.replaced

/-- The bytes of a text. -/
def encode (s : List Char) : List UInt8 := (String.ofList s).toUTF8.data.toList

end Deobfuscation.Utf8
