import Deobfuscation.Deobfuscator.Log
import Deobfuscation.Proofs.ByteSource.Delivery

/-!
# From a source into a sink

A log is transferred line by line: the source is asked for a line, what is shown for it is written,
and so on until the source ends or fails.  Between the deobfuscator and the sink stands a buffer
that passes its contents on when they would grow too long, and for the last time when the transfer
is over, also when it is over because of a failure.  So a source that fails has its complete lines
shown, each of them whole and once.

* `Buffer`, `Buffer.write`, `Buffer.flush` — what has reached the sink and what is still held back;
* `Copies` — a transfer, one line after the other;
* `copies_iff` — **proved**: it brings into the sink what `transfer` tells, whether the source
  fails, or the sink, or both;
* `transfer_cutOff` — **proved**: a log whose source fails is shown up to its last end mark.
-/

namespace Deobfuscation.Deobfuscator

open ByteSource (ofBytes InWholeLines IsClosedPart Delivers)

/-! ### The buffer -/

/-- What has reached the sink, and what is held back in front of it. -/
structure Buffer where
  sunk : List Char
  held : List Char

namespace Buffer

/-- Nothing has been written. -/
def empty : Buffer := ⟨[], []⟩

/-- All that was written. -/
def written (buffer : Buffer) : List Char := buffer.sunk ++ buffer.held

/-- Hands a text to the sink, which takes nothing if it fails. -/
def hand (sink : Option String) (buffer : Buffer) (s : List Char) : Except String Buffer :=
  match sink with
  | none => .ok { buffer with sunk := buffer.sunk ++ s }
  | some cause => .error cause

/-- Passes on what is held back, if there is something. -/
def flush (sink : Option String) (buffer : Buffer) : Except String Buffer :=
  if buffer.held.isEmpty then .ok buffer
  else ({ buffer with held := [] } : Buffer).hand sink buffer.held

/-- Makes room for a text that does not fit behind what is held back. -/
def makeRoom (sink : Option String) (buffer : Buffer) (s : List Char) : Except String Buffer :=
  if bufferSize < byteSize buffer.held + byteSize s then buffer.flush sink else .ok buffer

/-- Writes a text behind what is held back; a text as large as the whole buffer is not held back. -/
def write (sink : Option String) (buffer : Buffer) (s : List Char) : Except String Buffer :=
  match buffer.makeRoom sink s with
  | .error cause => .error cause
  | .ok room =>
    if bufferSize ≤ byteSize s then room.hand sink s
    else .ok { room with held := room.held ++ s }

/-- What the sink has when a transfer is given up: the buffer still passes on what it can. -/
def abandon (sink : Option String) (buffer : Buffer) : List Char :=
  match buffer.flush sink with
  | .ok last => last.sunk
  | .error _ => buffer.sunk

theorem byteSize_append (s t : List Char) : byteSize (s ++ t) = byteSize s + byteSize t := by
  simp [byteSize]

theorem byteSize_eq_zero {s : List Char} : byteSize s = 0 ↔ s = [] := by
  simp [byteSize]

/-! A sink that does not fail -/

/-- When the buffer has passed on what it holds, the sink has all that was written. -/
theorem flush_none (buffer : Buffer) : buffer.flush none = .ok ⟨buffer.written, []⟩ := by
  obtain ⟨sunk, held⟩ := buffer
  cases held with
  | nil => simp [flush, written]
  | cons c held => rfl

theorem abandon_none (buffer : Buffer) : buffer.abandon none = buffer.written := by
  rw [abandon, flush_none]

theorem makeRoom_none (buffer : Buffer) (s : List Char) :
    ∃ room, buffer.makeRoom none s = .ok room ∧
      room.written = buffer.written ∧ (bufferSize ≤ byteSize s → room.held = []) := by
  unfold makeRoom
  split
  · exact ⟨_, buffer.flush_none, List.append_nil _, fun _ => rfl⟩
  · -- what leaves room for a text of the size of the buffer is nothing
    refine ⟨buffer, rfl, rfl, fun hlarge => byteSize_eq_zero.1 ?_⟩
    omega

/-- **What is written stands behind what was written before**, whatever way it takes. -/
theorem write_none (buffer : Buffer) (s : List Char) :
    ∃ next, buffer.write none s = .ok next ∧ next.written = buffer.written ++ s := by
  obtain ⟨room, hroom, hsame, hheld⟩ := buffer.makeRoom_none s
  rw [write, hroom, ← hsame]
  dsimp only
  split
  · rename_i hlarge
    exact ⟨_, rfl, by simp [written, hheld hlarge]⟩
  · exact ⟨_, rfl, (List.append_assoc _ _ _).symm⟩

/-! A sink that fails -/

theorem flush_some (cause : String) (buffer : Buffer) :
    buffer.flush (some cause) = if buffer.held.isEmpty then .ok buffer else .error cause := rfl

theorem abandon_some (cause : String) (buffer : Buffer) :
    buffer.abandon (some cause) = buffer.sunk := by
  rw [abandon, flush_some]
  split
  · rename_i hflush
    split at hflush
    · rw [Except.ok.inj hflush]
    · exact absurd hflush (by simp)
  · rfl

/-- The text cannot just join what is held back. -/
def overflows (buffer : Buffer) (s : List Char) : Bool :=
  bufferSize ≤ byteSize s ||
    (0 < byteSize buffer.held && bufferSize < byteSize buffer.held + byteSize s)

/-- A failing sink is noticed by the first text that cannot just join what is held back. -/
theorem write_some (cause : String) (buffer : Buffer) (s : List Char) :
    buffer.write (some cause) s =
      if buffer.overflows s then .error cause else .ok ⟨buffer.sunk, buffer.held ++ s⟩ := by
  have hempty : buffer.held.isEmpty = true ↔ ¬0 < byteSize buffer.held := by
    rw [List.isEmpty_iff, ← byteSize_eq_zero]
    omega
  by_cases hroom : 0 < byteSize buffer.held ∧ bufferSize < byteSize buffer.held + byteSize s
  · rw [if_pos (by simp [overflows, hroom.1, hroom.2]), write, makeRoom, if_pos hroom.2,
      flush_some, if_neg (mt hempty.1 (not_not_intro hroom.1))]
  · -- what is held back, if anything, stays where it is
    have hsame : buffer.makeRoom (some cause) s = .ok buffer := by
      rw [makeRoom, flush_some]
      split
      · rw [if_pos (hempty.2 fun hheld => hroom ⟨hheld, by assumption⟩)]
      · rfl
    rw [write, hsame]
    dsimp only
    by_cases hlarge : bufferSize ≤ byteSize s
    · rw [if_pos hlarge, if_pos (by simp [overflows, hlarge])]
      rfl
    · rw [if_neg hlarge, if_neg (by simpa [overflows, hlarge] using hroom)]

end Buffer

/-! ### One line after the other -/

/-- What is shown for a line of a source. -/
def shownFor (d : Deobfuscator) (raw : List UInt8) : List Char := d.rawLine (Utf8.decodeLossy raw)

/-- What one round of a transfer comes to. -/
inductive Round where
  /-- The transfer is over: what the sink has, and the failure if it was given up. -/
  | ended (sunk : List Char) (failure : Option Failure)
  /-- A line has been written. -/
  | more (source : ByteSource) (buffer : Buffer)

/-- One round: a line is read and what is shown for it is written.  At the end of the source the
buffer passes on what it holds; after a failure it does what it can. -/
def round (d : Deobfuscator) (sink : Option String) (source : ByteSource) (buffer : Buffer) :
    Round :=
  match source.ask with
  | .failed cause => .ended (buffer.abandon sink) (some (.transfer cause))
  | .ended =>
    match buffer.flush sink with
    | .ok last => .ended last.sunk none
    | .error cause => .ended (buffer.abandon sink) (some (.transfer cause))
  | .line raw rest =>
    match buffer.write sink (d.shownFor raw) with
    | .ok next => .more rest next
    | .error cause => .ended (buffer.abandon sink) (some (.transfer cause))

/-- A transfer, round after round: what the sink has in the end, and the failure that came first. -/
inductive Copies (d : Deobfuscator) (sink : Option String) :
    ByteSource → Buffer → List Char × Option Failure → Prop
  | ended {source : ByteSource} {buffer : Buffer} {sunk : List Char} {failure : Option Failure} :
      d.round sink source buffer = .ended sunk failure → Copies d sink source buffer (sunk, failure)
  | more {source rest : ByteSource} {buffer next : Buffer} {result : List Char × Option Failure} :
      d.round sink source buffer = .more rest next → Copies d sink rest next result →
      Copies d sink source buffer result

variable {d : Deobfuscator} {sink : Option String}

/-- How a transfer ends is determined. -/
theorem Copies.unique {source : ByteSource} {buffer : Buffer}
    {result other : List Char × Option Failure} (h : Copies d sink source buffer result)
    (hother : Copies d sink source buffer other) : result = other := by
  induction h with
  | ended hround =>
    cases hother with
    | ended hround' =>
      obtain ⟨rfl, rfl⟩ := Round.ended.inj (hround.symm.trans hround')
      rfl
    | more hround' _ => simp [hround] at hround'
  | more hround _ ih =>
    cases hother with
    | ended hround' => simp [hround] at hround'
    | more hround' hrest =>
      obtain ⟨rfl, rfl⟩ := Round.more.inj (hround.symm.trans hround')
      exact ih hrest

/-- **Into a sink that does not fail comes what is shown for every line**, behind what was written
before. -/
theorem copies_none {source : ByteSource} {lines : List (List UInt8)} {failure : Option String}
    (h : Delivers source lines failure) (buffer : Buffer) :
    Copies d none source buffer
      (buffer.written ++ (lines.map d.shownFor).flatten,
        failure.map .transfer) := by
  induction h generalizing buffer with
  | ended hask =>
    rw [List.map_nil, List.flatten_nil, List.append_nil]
    exact .ended (by rw [round, hask, buffer.flush_none]; rfl)
  | failed hask =>
    rw [List.map_nil, List.flatten_nil, List.append_nil]
    exact .ended (by rw [round, hask, buffer.abandon_none]; rfl)
  | @line source rest raw lines failure hask _ ih =>
    obtain ⟨next, hwrite, hwritten⟩ := buffer.write_none (d.shownFor raw)
    rw [List.map_cons, List.flatten_cons, ← List.append_assoc, ← hwritten]
    exact .more (by simp only [round, hask, hwrite]) (ih next)

/-- What a transfer into a failing sink comes to that has `shown` still to write. -/
def refused (cause : String) (failure : Option String) (buffer : Buffer)
    (shown : List (List Char)) : List Char × Option Failure :=
  if leavesBuffer (byteSize buffer.held) (shown.map byteSize) then ([], some (.transfer cause))
  else if failure.isSome then ([], failure.map .transfer)
  else if (buffer.held ++ shown.flatten).isEmpty then ([], none)
  else ([], some (.transfer cause))

theorem refused_nil (cause : String) (failure : Option String) (buffer : Buffer) :
    refused cause failure buffer [] =
      if failure.isSome then ([], failure.map .transfer)
      else if buffer.held.isEmpty then ([], none) else ([], some (.transfer cause)) := by
  rw [refused, List.flatten_nil, List.append_nil]
  rfl

/-- What cannot join what is held back is refused; what can is held back, too. -/
theorem refused_cons (cause : String) (failure : Option String) (buffer : Buffer) (s : List Char)
    (shown : List (List Char)) :
    refused cause failure buffer (s :: shown) =
      if buffer.overflows s then ([], some (.transfer cause))
      else refused cause failure ⟨buffer.sunk, buffer.held ++ s⟩ shown := by
  have hleaves : leavesBuffer (byteSize buffer.held) ((s :: shown).map byteSize) =
      (buffer.overflows s || leavesBuffer (byteSize (buffer.held ++ s)) (shown.map byteSize)) := by
    rw [Buffer.byteSize_append]
    rfl
  rw [refused, hleaves, List.flatten_cons]
  cases buffer.overflows s with
  | true => rfl
  | false =>
    rw [Bool.false_or, if_neg Bool.false_ne_true, refused, List.append_assoc]

/-- **Into a sink that fails comes nothing**, and its failure is the first if the buffer cannot hold
all that is shown, or if the source just ends when something was shown. -/
theorem copies_some (cause : String) {source : ByteSource} {lines : List (List UInt8)}
    {failure : Option String} (h : Delivers source lines failure) {buffer : Buffer}
    (hsunk : buffer.sunk = []) :
    Copies d (some cause) source buffer (refused cause failure buffer (lines.map d.shownFor)) := by
  induction h generalizing buffer with
  | ended hask =>
    rw [List.map_nil, refused_nil]
    cases hheld : buffer.held.isEmpty with
    | true => exact .ended (by simp [round, hask, buffer.flush_some, hheld, hsunk])
    | false =>
      exact .ended (by simp [round, hask, buffer.flush_some, buffer.abandon_some, hheld, hsunk])
  | failed hask =>
    rw [List.map_nil, refused_nil]
    exact .ended (by simp [round, hask, buffer.abandon_some, hsunk])
  | @line source rest raw lines failure hask _ ih =>
    rw [List.map_cons, refused_cons]
    have hwrite := buffer.write_some cause (d.shownFor raw)
    split
    · rename_i hover
      rw [if_pos hover] at hwrite
      exact .ended (by simp only [round, hask, hwrite, buffer.abandon_some, hsunk])
    · rename_i hjoins
      rw [if_neg hjoins] at hwrite
      exact .more (by simp only [round, hask, hwrite]) (ih hsunk)

/-- **A transfer, line by line and through a buffer, brings into the sink what `transfer` tells**,
and fails as it tells. -/
theorem copies_iff {source : ByteSource} {result : List Char × Option Failure} :
    Copies d sink source .empty result ↔ result = d.transfer source sink := by
  have hdelivers : Delivers source source.lines source.failure :=
    ByteSource.delivers_iff.2 ⟨rfl, rfl⟩
  have hcopies : Copies d sink source .empty (d.transfer source sink) := by
    cases sink with
    | none => exact copies_none hdelivers .empty
    | some cause => exact copies_some cause hdelivers rfl
  constructor
  · exact fun h => h.unique hcopies
  · rintro rfl
    exact hcopies

/-! ### A source that fails -/

/-- What is shown for whole lines and for what follows them. -/
theorem transfer_append {front : List UInt8} (hfront : InWholeLines front) (back : List UInt8) :
    (d.transfer (ofBytes (front ++ back)) none).1 =
      (d.transfer (ofBytes front) none).1 ++ (d.transfer (ofBytes back) none).1 := by
  simp only [transfer_ofBytes, Text.splitAfter_append hfront back, List.flatMap_append]

/-- A source that fails has the lines up to its last end mark shown. -/
theorem transfer_failing {front opened : List UInt8} (hfront : InWholeLines front)
    (hopened : ByteSource.lineFeed ∉ opened) (cause : String) :
    d.transfer ⟨front ++ opened, some cause⟩ none =
      ((d.transfer (ofBytes front) none).1, some (.transfer cause)) := by
  rw [transfer, shownLines, ByteSource.lines_failing hfront hopened]
  rfl

/-- The closed part of fewer bytes is a beginning of the closed part of more. -/
theorem isClosedPart_prefix {front longer bytes more : List UInt8} (h : IsClosedPart front bytes)
    (hlonger : IsClosedPart longer more) (hmore : bytes <+: more) : front <+: longer := by
  have hbegins := h.begins.trans hmore
  exact List.prefix_of_prefix_length_le hbegins hlonger.begins
    (hlonger.longest front hbegins h.whole)

/-- **A log whose source fails is shown up to the last end mark that was delivered**, as if it had
ended there: the sink has each complete line, whole and once, when the transfer is given up with the
failure of the source.  Where the source fails later, what the sink has begins with that. -/
theorem transfer_cutOff (d : Deobfuscator) (bytes : List UInt8) (count : Nat) (cause : String) :
    ∃ front, IsClosedPart front (bytes.take count) ∧
      (d.transfer (ofBytes front) none).2 = none ∧
      (∀ result, Copies d none ((ofBytes bytes).failingAfter count cause) .empty result ↔
        result = ((d.transfer (ofBytes front) none).1, some (.transfer cause))) ∧
      ∀ more other, (d.transfer ((ofBytes bytes).failingAfter count cause) none).1 <+:
        (d.transfer ((ofBytes bytes).failingAfter (count + more) other) none).1 := by
  have hcut : ∀ count cause, ∃ front, IsClosedPart front (bytes.take count) ∧
      d.transfer ((ofBytes bytes).failingAfter count cause) none =
        ((d.transfer (ofBytes front) none).1, some (.transfer cause)) := by
    intro count cause
    obtain ⟨front, opened, hsplit, hfront, hopened⟩ :=
      ByteSource.exists_append_opened (bytes.take count)
    refine ⟨front, hsplit ▸ ByteSource.isClosedPart_append hfront hopened, ?_⟩
    rw [ByteSource.failingAfter, ofBytes, hsplit]
    exact transfer_failing hfront hopened cause
  obtain ⟨front, hpart, htransfer⟩ := hcut count cause
  refine ⟨front, hpart, by rw [transfer_ofBytes], fun result => by rw [copies_iff, htransfer],
    fun more other => ?_⟩
  obtain ⟨longer, hlonger, hshown⟩ := hcut (count + more) other
  obtain ⟨between, rfl⟩ :=
    isClosedPart_prefix hpart hlonger (List.take_prefix_take_left (Nat.le_add_right count more))
  rw [hshown, htransfer, transfer_append hpart.whole]
  exact List.prefix_append _ _

end Deobfuscation.Deobfuscator
