import Mathlib.Data.List.Basic
import Mathlib.Data.List.Induction
import Deobfuscation.Proofs.SymbolTable.CallLog
import Deobfuscation.SymbolMap.Reading

/-!
# The calls of a reading

What a consumer is called with while a symbol map is read can be told by writing it down beside the
consumer's state: the calls are those of the lines, one line after the other, and writing them down
changes nothing else.

* `Consumer.recorded`, `callsOf`, `callsOfLine` — a consumer that writes down its calls, and what it
  writes down while lines and one of them are read;
* `next_recorded`, `readLines_recorded` — **proved**: writing down changes nothing else, for one
  line and so for all lines;
* `calls`, `read_recorded`, `calls_eq_flatMap` — the calls of a whole source, and **proved**:
  writing them down changes nothing else, and they are those of its lines.
-/

namespace Deobfuscation.SymbolMap

open SymbolTable (Call CallLog)

variable {σ : Type}

/-! ### Calls that are written down -/

/-- A consumer that also writes down its calls. -/
def Consumer.recorded (consumer : Consumer σ) : Consumer (σ × CallLog) where
  openClass entry state :=
    let (wanted, next) := consumer.openClass entry state.1
    (wanted, next, state.2 ++ [.ofClass entry])
  addField owner entry state :=
    (consumer.addField owner entry state.1, state.2 ++ [.ofField owner entry])
  addMethod owner entry state :=
    (consumer.addMethod owner entry state.1, state.2 ++ [.ofMethod owner entry])

namespace Reading

/-- The reading, with the calls so far written down. -/
def recorded (log : CallLog) (reading : Reading σ) : Reading (σ × CallLog) :=
  ⟨(reading.state, log), reading.openClass, reading.linesRead, reading.reports⟩

/-- The calls that an entry leads to. -/
def callsFor (reading : Reading σ) : Entry → CallLog
  | .ofClass entry => [.ofClass entry]
  | .ofField entry => reading.openClass.toList.map fun owner => .ofField owner entry
  | .ofMethod entry => reading.openClass.toList.map fun owner => .ofMethod owner entry

/-- The calls that the next line leads to. -/
def nextCalls (reading : Reading σ) (raw : List UInt8) : CallLog :=
  match Entry.ofBytes raw with
  | .ok (some entry) => reading.callsFor entry
  | _ => []

theorem consume_recorded (consumer : Consumer σ) (reading : Reading σ) (log : CallLog)
    (entry : Entry) :
    (reading.recorded log).consume consumer.recorded entry =
      (reading.consume consumer entry).recorded (log ++ reading.callsFor entry) := by
  cases entry with
  | ofClass entry => rfl
  | ofField entry =>
    cases h : reading.openClass with
    | none => simp [consume, recorded, callsFor, h]
    | some owner => simp [consume, recorded, callsFor, h, Consumer.recorded]
  | ofMethod entry =>
    cases h : reading.openClass with
    | none => simp [consume, recorded, callsFor, h]
    | some owner => simp [consume, recorded, callsFor, h, Consumer.recorded]

theorem fail_recorded (reading : Reading σ) (log : CallLog) (raw : List UInt8) (fault : Fault) :
    (reading.recorded log).fail raw fault = (reading.fail raw fault).recorded log := by
  unfold fail
  split
  · rfl
  · show (if (reading.openClass.isNone && !fault.isUndecodable) = true then _ else _) = _
    split
    · rfl
    · rfl

/-- **Writing down its calls changes nothing else of what a line makes of a reading.** -/
theorem next_recorded (consumer : Consumer σ) (reading : Reading σ) (log : CallLog)
    (raw : List UInt8) :
    (reading.recorded log).next consumer.recorded raw =
      (reading.next consumer raw).recorded (log ++ reading.nextCalls raw) := by
  rw [next, next, nextCalls]
  cases h : Entry.ofBytes raw with
  | error fault =>
    dsimp only
    rw [List.append_nil]
    exact fail_recorded { reading with linesRead := reading.linesRead + 1 } log raw fault
  | ok found =>
    cases found with
    | none => simp [recorded]
    | some entry =>
      exact consume_recorded consumer { reading with linesRead := reading.linesRead + 1 } log entry

end Reading

/-- The calls that are written down while lines are read. -/
def callsOf (consumer : Consumer σ) (state : σ) (lines : List (List UInt8)) : CallLog :=
  (readLines consumer.recorded (.initial (state, [])) lines).state.2

/-- The calls that are written down while one of the lines is read. -/
def callsOfLine (consumer : Consumer σ) (state : σ) (lines : List (List UInt8)) (i : Nat) :
    CallLog :=
  (callsOf consumer state (lines.take (i + 1))).drop (callsOf consumer state (lines.take i)).length

/-- **Writing down its calls changes nothing else of what lines make of a reading**, and what is
written down already stays in front. -/
theorem readLines_recorded (consumer : Consumer σ) (state : σ) (log : CallLog)
    (lines : List (List UInt8)) :
    readLines consumer.recorded (.initial (state, log)) lines =
      (readLines consumer (.initial state) lines).recorded
        (log ++ callsOf consumer state lines) := by
  have hmore : ∃ more, ∀ log, readLines consumer.recorded (.initial (state, log)) lines =
      (readLines consumer (.initial state) lines).recorded (log ++ more) := by
    induction lines using List.reverseRecOn with
    | nil => exact ⟨[], fun log => by rw [List.append_nil]; rfl⟩
    | append_singleton lines raw ih =>
      obtain ⟨more, ih⟩ := ih
      refine ⟨more ++ (readLines consumer (.initial state) lines).nextCalls raw, fun log => ?_⟩
      rw [readLines_append, readLines_append, ih, ← List.append_assoc]
      exact Reading.next_recorded consumer _ (log ++ more) raw
  obtain ⟨more, hmore⟩ := hmore
  have hcalls : callsOf consumer state lines = more := by
    rw [callsOf, hmore, List.nil_append]
    rfl
  rw [hmore, hcalls]

theorem callsOf_append (consumer : Consumer σ) (state : σ) (lines : List (List UInt8))
    (raw : List UInt8) :
    callsOf consumer state (lines ++ [raw]) =
      callsOf consumer state lines ++
        (readLines consumer (.initial state) lines).nextCalls raw := by
  have hnext := Reading.next_recorded consumer (readLines consumer (.initial state) lines)
    (callsOf consumer state lines) raw
  rw [callsOf, readLines_append, readLines_recorded, List.nil_append]
  exact congrArg (fun reading => reading.state.2) hnext

/-- What is written down while a line is read are the calls that the line leads to. -/
theorem callsOfLine_eq {consumer : Consumer σ} {state : σ} {lines : List (List UInt8)} {i : Nat}
    {raw : List UInt8} (h : lines[i]? = some raw) :
    callsOfLine consumer state lines i =
      (readLines consumer (.initial state) (lines.take i)).nextCalls raw := by
  have htake : lines.take (i + 1) = lines.take i ++ [raw] := by
    rw [List.take_add_one, h]
    rfl
  rw [callsOfLine, htake, callsOf_append, List.drop_left]

theorem callsOfLine_of_length_le {consumer : Consumer σ} {state : σ} {lines : List (List UInt8)}
    {i : Nat} (h : lines.length ≤ i) : callsOfLine consumer state lines i = [] := by
  have htake : lines.take (i + 1) = lines.take i := by
    rw [List.take_of_length_le h, List.take_of_length_le (by omega)]
  rw [callsOfLine, htake, List.drop_length]

/-! ### The calls of a source -/

/-- The calls that reading a source leads to, in order. -/
def calls (consumer : Consumer σ) (state : σ) (source : ByteSource) : CallLog :=
  (read consumer.recorded (state, []) source).2.2

/-- **Writing down the calls changes nothing else of what reading a source gives.** -/
theorem read_recorded (consumer : Consumer σ) (state : σ) (log : CallLog) (source : ByteSource) :
    read consumer.recorded (state, log) source =
      ((read consumer state source).1, (read consumer state source).2,
        log ++ calls consumer state source) := by
  rw [calls, read, read, read, readLines_recorded, readLines_recorded, List.nil_append]
  cases source.failure with
  | none => rfl
  | some cause => rfl

/-- Only the lines of a source count for its calls. -/
theorem calls_eq_callsOf (consumer : Consumer σ) (state : σ) (source : ByteSource) :
    calls consumer state source = callsOf consumer state source.lines := by
  rw [calls, read, callsOf]
  cases source.failure with
  | none => rfl
  | some cause => rfl

/-- **The calls of a source are those of its lines, one line after the other.** -/
theorem calls_eq_flatMap (consumer : Consumer σ) (state : σ) (source : ByteSource) :
    calls consumer state source =
      (List.range source.lines.length).flatMap (callsOfLine consumer state source.lines) := by
  rw [calls_eq_callsOf]
  induction source.lines using List.reverseRecOn with
  | nil => rfl
  | append_singleton lines raw ih =>
    have hfront : ∀ i ∈ List.range lines.length,
        callsOfLine consumer state lines i = callsOfLine consumer state (lines ++ [raw]) i := by
      intro i hi
      have hlt : i < lines.length := List.mem_range.1 hi
      rw [callsOfLine, callsOfLine, List.take_append_of_le_length (by omega),
        List.take_append_of_le_length (by omega)]
    have hlast : (lines ++ [raw])[lines.length]? = some raw := by simp
    rw [callsOf_append, List.length_append, List.length_singleton, List.range_succ,
      List.flatMap_append, List.flatMap_singleton, callsOfLine_eq hlast, List.take_left, ih,
      List.flatMap_congr hfront]

end Deobfuscation.SymbolMap
