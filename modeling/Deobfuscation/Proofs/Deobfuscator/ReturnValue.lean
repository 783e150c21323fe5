import Deobfuscation.Proofs.Deobfuscator.ExceptionLine
import Deobfuscation.Proofs.Deobfuscator.Passes
import Deobfuscation.Proofs.SymbolTable.OneLine
import Deobfuscation.Proofs.Template.ReturnValue

/-!
# Deobfuscating calls on a missing return value

The message about a call on a missing return value names two methods.  The standard template writes
the second, once for each method that it may stand for, and the template of called methods the
first, in each of these lines.  What the one has written is not in the way of the other: it has no
newline, and it stands behind the first method.  So the message stands for every pair of methods.

* `not_mem_text_ofFrame`, `lacks_frame` — **proved**: the characters of a method and of the frame
  that tells it;
* `frameReadings_returnValueLine`, `callReadings_returnValueLine` — **proved**: what the two
  templates make of the message;
* `line_returnValueLine` — **proved**: what is shown for the message.
-/

namespace Deobfuscation

open Template (IsPath NamedMethod isSegmentChar returnValueLine cannotInvoke
  becauseReturnValue isNull)

/-! ### Characters of a method -/

namespace Template.NamedMethod

variable {c : Char}

/-- A method that a frame names has the characters of the frame and of its form. -/
theorem not_mem_text_ofFrame {frame : StackFrame} (h : frame.Lacks c)
    (hform : c ∉ ['.', '(', ')']) : c ∉ (ofFrame frame).text := by
  simp only [List.mem_cons, List.not_mem_nil, or_false, not_or] at hform
  obtain ⟨hdot, hopen, hclose⟩ := hform
  simp only [text, ofFrame, List.mem_append, List.mem_cons, List.not_mem_nil, or_false, not_or]
  exact ⟨h _ (by simp), hdot, h _ (by simp), hopen, h _ (by simp), hclose⟩

/-- The frame that a method tells has the characters of the method. -/
theorem lacks_frame {m : NamedMethod} (h : c ∉ m.text) : m.frame.Lacks c := by
  simp only [text, List.mem_append, List.mem_cons, not_or] at h
  obtain ⟨hclass, -, hmethod, -, harguments, -⟩ := h
  simp only [StackFrame.Lacks, frame, StackFrame.unknown, List.forall_mem_cons,
    String.toList_ofList]
  exact ⟨hclass, by simp, by simp, by simp, hmethod, harguments, by simp⟩

end Template.NamedMethod

namespace Deobfuscator

/-! ### The two templates -/

section ReturnValue

variable {d : Deobfuscator} {called missing : NamedMethod}

/-- What stands in front of the second method. -/
def beforeMissing (called : NamedMethod) : List Char :=
  cannotInvoke.toList ++ called.text ++ becauseReturnValue.toList

/-- **The second method is replaced by each method that it may stand for.** -/
theorem frameReadings_returnValueLine (htemplate : d.template = .standard)
    (hverbose : d.verbose = false) (hcalled : called.Legible) (hmissing : missing.Legible) :
    d.frameReadings (returnValueLine called.text missing.text) =
      (d.table.resolve missing.frame).map fun y =>
        ⟨returnValueLine called.text (NamedMethod.ofFrame y).text,
          ((NamedMethod.ofFrame y).slots (beforeMissing called)).map Slot.span⟩ := by
  have hslots : d.template.slots? (returnValueLine called.text missing.text) =
      some (missing.slots (beforeMissing called)) := by
    rw [htemplate]
    exact Template.slots?_returnValueLine hcalled hmissing
  have hline : ∀ other, returnValueLine called.text other =
      beforeMissing called ++ other ++ isNull.toList := fun other => rfl
  rw [frameReadings, hslots, hverbose]
  dsimp only
  rw [hline, NamedMethod.frameOfSlots_slots hmissing]
  refine List.map_congr_left fun y _ => ?_
  rw [hline]
  exact NamedMethod.fillSlots_slots y

/-- The first method stands in front of all that is written for the second. -/
theorem touches_beforeMissing (written : NamedMethod) :
    touches (called.slots cannotInvoke.toList)
      ((written.slots (beforeMissing called)).map Slot.span) = false := by
  rw [touches_eq_false_iff]
  intro slot hslot span hspan
  obtain ⟨other, hother, rfl⟩ := List.mem_map.1 hspan
  have hstop := (NamedMethod.slots_between slot hslot).2
  have hstart := (NamedMethod.slots_between other hother).1
  have hbetween : (cannotInvoke.toList ++ called.text).length ≤ (beforeMissing called).length :=
    (List.prefix_append _ _).length_le
  rw [Regex.Span.overlaps_eq_false_iff]
  left
  omega

/-- **The first method is replaced by each method that it may stand for**, beside whatever was
written for the second. -/
theorem callReadings_returnValueLine (hverbose : d.verbose = false) (hcalled : called.Legible)
    {written : NamedMethod} (hwritten : '\n' ∉ written.text) :
    d.callReadings ⟨returnValueLine called.text written.text,
        (written.slots (beforeMissing called)).map Slot.span⟩ =
      (d.table.resolve called.frame).map fun x =>
        returnValueLine (NamedMethod.ofFrame x).text written.text := by
  have hline : ∀ method, returnValueLine method written.text = cannotInvoke.toList ++ method ++
      (becauseReturnValue.toList ++ written.text ++ isNull.toList) := by
    intro method
    simp [returnValueLine]
  have hslots := Template.calledMethod_slots? hcalled hwritten
  rw [callReadings]
  dsimp only
  rw [hslots]
  dsimp only
  rw [touches_beforeMissing, if_neg Bool.false_ne_true, hverbose, hline,
    NamedMethod.frameOfSlots_slots hcalled]
  refine List.map_congr_left fun x _ => ?_
  rw [NamedMethod.fillSlots_slots, hline]

/-- The message tells no line number. -/
theorem isAmbiguous_returnValueLine (htemplate : d.template = .standard)
    (hcalled : called.Legible) (hmissing : missing.Legible) :
    d.isAmbiguous (returnValueLine called.text missing.text) = true := by
  have hparse : d.template.parse? (returnValueLine called.text missing.text) =
      some missing.frame := by
    rw [htemplate, Template.parse?, Template.slots?_returnValueLine hcalled hmissing,
      Option.map_some]
    exact congrArg some (NamedMethod.frameOfSlots_slots hmissing)
  rw [isAmbiguous, hparse]
  rfl

/-! ### What is shown -/

/-- **The message stands for every pair of methods that its methods may stand for**, those of the
second in the outer order and those of the first in the inner one; if there is just one pair it is
shown, else the pairs are shown as alternatives. -/
theorem line_returnValueLine {source : ByteSource}
    (hd : ofSource source ⟨false, false, none⟩ = .ok d) (hcalled : called.Legible)
    (hmissing : missing.Legible) :
    d.outcomes (returnValueLine called.text missing.text) =
      ((d.table.resolve missing.frame).flatMap fun y =>
        (d.table.resolve called.frame).map fun x =>
          returnValueLine (NamedMethod.ofFrame x).text (NamedMethod.ofFrame y).text) ∧
    d.line (returnValueLine called.text missing.text) =
      if (d.outcomes (returnValueLine called.text missing.text)).length = 1 then
        d.outcomes (returnValueLine called.text missing.text)
      else Text.alternatives (d.outcomes (returnValueLine called.text missing.text)) := by
  obtain ⟨htemplate, hverbose, hall, htable⟩ := fields_of_ofSource_default hd
  have hlacks := SymbolTable.textsLack_newline htable
  have hframe : missing.frame.Lacks '\n' :=
    NamedMethod.lacks_frame (hmissing.not_mem (by decide) (by decide))
  refine ⟨?_, ?_⟩
  · rw [outcomes, frameReadings_returnValueLine htemplate hverbose hcalled hmissing,
      List.flatMap_map]
    refine List.flatMap_congr fun y hy => ?_
    have hwritten : '\n' ∉ (NamedMethod.ofFrame y).text :=
      NamedMethod.not_mem_text_ofFrame (hlacks.resolve (by decide) hframe y hy) (by decide)
    exact callReadings_returnValueLine hverbose hcalled hwritten
  · rw [line, hall, if_neg Bool.false_ne_true, shownOutcomes,
      isAmbiguous_returnValueLine htemplate hcalled hmissing, if_pos rfl]
    split
    · rename_i hone
      obtain ⟨only, honly⟩ := List.length_eq_one_iff.1 hone
      rw [honly]
      rfl
    · rfl

end ReturnValue

/-- A symbol map in which two methods have two plain names each. -/
def twoNamesMap : ByteSource :=
  .ofBytes (Utf8.encode ("com.example.Foo -> x.a:\n".toList ++
    "  void run(int,com.example.Bar) -> b\n  void stop(int,com.example.Bar) -> b\n".toList ++
    "com.example.Bar -> y.c:\n  Foo get() -> d\n  Foo find() -> d\n".toList))

/-- Four pairs of methods. -/
theorem line_returnValueLine_pairs :
    let called : NamedMethod := ⟨"x.a".toList, "b".toList, "int, y.c".toList⟩
    let missing : NamedMethod := ⟨"y.c".toList, "d".toList, []⟩
    let arguments := "int,com.example.Bar".toList
    let run : NamedMethod := ⟨"com.example.Foo".toList, "run".toList, arguments⟩
    let stop : NamedMethod := ⟨"com.example.Foo".toList, "stop".toList, arguments⟩
    let get : NamedMethod := ⟨"com.example.Bar".toList, "get".toList, []⟩
    let find : NamedMethod := ⟨"com.example.Bar".toList, "find".toList, []⟩
    let pairs := [returnValueLine run.text get.text, returnValueLine stop.text get.text,
      returnValueLine run.text find.text, returnValueLine stop.text find.text]
    ∃ d, ofSource twoNamesMap ⟨false, false, none⟩ = .ok d ∧ called.Legible ∧ missing.Legible ∧
      d.outcomes (returnValueLine called.text missing.text) = pairs ∧
      d.line (returnValueLine called.text missing.text) = Text.alternatives pairs := by
  intro called missing arguments run stop get find pairs
  have hpath : ∀ {c d : Char}, isSegmentChar c = true → isSegmentChar d = true →
      IsPath [c, '.', d] := by
    intro c d hc hd
    exact .dot (s := [c]) ⟨by simp, by simpa using hc⟩ (.segment ⟨by simp, by simpa using hd⟩)
  have hint : IsPath "int".toList := .segment (by decide)
  have hcalled : called.Legible :=
    ⟨hpath (by decide) (by decide), by decide,
      Or.inr (.commaSpace hint (.one (hpath (by decide) (by decide))))⟩
  have hmissing : missing.Legible := ⟨hpath (by decide) (by decide), by decide, Or.inl rfl⟩
  have hresolve : (SymbolTable.ofSource twoNamesMap).toOption.map (fun table =>
      ((table.resolve called.frame).map NamedMethod.ofFrame,
        (table.resolve missing.frame).map NamedMethod.ofFrame)) =
      some ([run, stop], [get, find]) := by
    decide +kernel
  obtain ⟨table, htable⟩ : ∃ table, SymbolTable.ofSource twoNamesMap = .ok table := by
    cases h : SymbolTable.ofSource twoNamesMap with
    | error fault => simp [h, Except.toOption] at hresolve
    | ok table => exact ⟨table, rfl⟩
  rw [htable] at hresolve
  obtain ⟨hx, hy⟩ := Prod.mk.inj (Option.some.inj hresolve)
  have hd : ofSource twoNamesMap ⟨false, false, none⟩ =
      .ok ⟨table, .standard, false, false⟩ := by
    rw [ofSource, htable]
    exact ofTable_builtin table false false
  obtain ⟨houtcomes, hline⟩ := line_returnValueLine hd hcalled hmissing
  -- the pairs of frames are pairs of methods
  have hpairs : ∀ xs ys : List StackFrame,
      (ys.flatMap fun y => xs.map fun x =>
        returnValueLine (NamedMethod.ofFrame x).text (NamedMethod.ofFrame y).text) =
      (ys.map NamedMethod.ofFrame).flatMap fun y => (xs.map NamedMethod.ofFrame).map fun x =>
        returnValueLine x.text y.text := by
    intro xs ys
    rw [List.flatMap_map]
    refine List.flatMap_congr fun y _ => ?_
    rw [List.map_map]
    rfl
  rw [hpairs, hx, hy] at houtcomes
  refine ⟨_, hd, hcalled, hmissing, houtcomes, ?_⟩
  rw [hline, houtcomes]
  rfl

end Deobfuscator

end Deobfuscation
