import Deobfuscation.ByteSource
import Deobfuscation.SymbolMap.Grammar

/-!
# Reading a symbol map

The lines of a symbol map are read in order.  A class entry opens a class: the member entries
that follow belong to it, if the consumer of the entries asks for them.  A malformed class entry
closes the class before it without a report.  Every other faulty line is reported and skipped,
except that members outside of any class are not looked at, so their faults are not reported
either; bytes that are no text are reported wherever they stand.

* `Consumer` — what is done with the entries, over a state of its own;
* `Report` — a faulty line and its number;
* `Reading` — how far the reading has come;
* `readLines` — the reading of a list of lines, one `Reading.next` for each;
* `read` — the reading of a whole source, whose failure discards the reports;
* `readLines_append` — **proved**: lines read in two parts are lines read in one.
-/

namespace Deobfuscation.SymbolMap

/-- What is done with the entries of a symbol map, over a state `σ`. -/
structure Consumer (σ : Type) where
  /-- Takes a class entry and says whether the members of the class are wanted. -/
  openClass : ClassEntry → σ → Bool × σ
  /-- Takes a field of the class with the given plain name. -/
  addField : String → FieldEntry → σ → σ
  /-- Takes a method of the class with the given plain name. -/
  addMethod : String → MethodEntry → σ → σ

/-- A faulty line: its number, counted from one, its text and what is wrong with it. -/
structure Report where
  lineNumber : Nat
  line : String
  fault : Fault
  deriving DecidableEq, Repr

/-- The wording of a report. -/
def Report.message (report : Report) : String :=
  "line " ++ report.lineNumber.repr ++ ": " ++ report.fault.message

/-- How far a reading has come: the consumer's state, the plain name of the open class if
its members are wanted, the number of lines read and the reports, newest first. -/
structure Reading (σ : Type) where
  state : σ
  openClass : Option String
  linesRead : Nat
  reports : List Report

namespace Reading

variable {σ : Type}

/-- Nothing is read yet. -/
def initial (state : σ) : Reading σ := ⟨state, none, 0, []⟩

/-- Hands an entry to the consumer. -/
def consume (consumer : Consumer σ) (reading : Reading σ) : Entry → Reading σ
  | .ofClass entry =>
    let (wanted, state) := consumer.openClass entry reading.state
    { reading with state, openClass := if wanted then some entry.plain else none }
  | .ofField entry =>
    match reading.openClass with
    | some owner => { reading with state := consumer.addField owner entry reading.state }
    | none => reading
  | .ofMethod entry =>
    match reading.openClass with
    | some owner => { reading with state := consumer.addMethod owner entry reading.state }
    | none => reading

/-- Deals with the fault of the line read last. -/
def fail (reading : Reading σ) (raw : List UInt8) (fault : Fault) : Reading σ :=
  if fault = .malformedClass then { reading with openClass := none }
  else if reading.openClass.isNone && !fault.isUndecodable then reading
  else
    let line := String.ofList (Text.trimEnd (Utf8.decodeLossy raw))
    { reading with reports := ⟨reading.linesRead, line, fault⟩ :: reading.reports }

/-- Reads one more line. -/
def next (consumer : Consumer σ) (reading : Reading σ) (raw : List UInt8) : Reading σ :=
  let counted := { reading with linesRead := reading.linesRead + 1 }
  match Entry.ofBytes raw with
  | .ok none => counted
  | .ok (some entry) => counted.consume consumer entry
  | .error fault => counted.fail raw fault

end Reading

variable {σ : Type}

/-- Reads lines in order. -/
def readLines (consumer : Consumer σ) (reading : Reading σ) (lines : List (List UInt8)) :
    Reading σ :=
  lines.foldl (Reading.next consumer) reading

/-- Reads a whole source, from no open class.  The consumer's state is what the complete lines
made of it, also where the source fails. -/
def read (consumer : Consumer σ) (state : σ) (source : ByteSource) :
    Except String (List Report) × σ :=
  let reading := readLines consumer (.initial state) source.lines
  match source.failure with
  | none => (.ok reading.reports.reverse, reading.state)
  | some cause => (.error cause, reading.state)

/-- **Lines read in two parts are lines read in one.** -/
theorem readLines_append (consumer : Consumer σ) (reading : Reading σ)
    (xs ys : List (List UInt8)) :
    readLines consumer reading (xs ++ ys) =
      readLines consumer (readLines consumer reading xs) ys := by
  simp [readLines]

end Deobfuscation.SymbolMap
