import Deobfuscation.Proofs.Template.FrameLine
import Deobfuscation.Proofs.Template.Parts

/-!
# Frames of a stack trace

The usual frame of a stack trace is a class, a method, a source file and a line:

    at class.method(file:line)

However the names look, the standard template reads such a frame in just one way, and writes
another frame into it by replacing the four names.

* `traceLine` — the line of a frame;
* `first_source` — **proved**: how what follows the method is read;
* `slots?_traceLine` — **proved**: the slots of the line are the four names;
* `frameOfSlots_traceSlots` — **proved**: they tell the frame;
* `fill_traceSlots` — **proved**: filling them gives the line of another frame.
-/

namespace Deobfuscation.Template

open Regex Expr

/-- The line of a frame in a stack trace. -/
def traceLine (indent className method file : List Char) (line : LineNumber) : List Char :=
  indent ++ "at ".toList ++ className ++ ['.'] ++ method ++ ['('] ++ file ++ [':'] ++ line.text ++
    [')']

section Reading

variable {next : Attempt → Option Attempt} {read rest : List Char} {captures : List Capture}
  {r : Attempt}

/-! ### How the parts are read -/

/-- **Of what may follow a method there is only the source file with its line.** -/
theorem first_source {file : List Char} {n : LineNumber} (hfile : IsSourceFile file)
    (hnext : next (.between (read ++ ['('] ++ file ++ [':'] ++ n.text ++ [')']) []
      (⟨4, numberSpan read file [':'] n.text⟩ :: ⟨3, fileSpan read file⟩ :: captures)) = some r) :
    sourceExpr.first next
      (.between read ('(' :: (file ++ ':' :: (n.text ++ [')']))) captures) = some r := by
  have hlead : IsLead [] := ⟨[], [], [], rfl, by simp, Or.inl rfl, Or.inl rfl⟩
  have hplace : placeExpr.first (afterPlaceExpr.first next)
      (.between (read ++ []) ('(' :: (file ++ ':' :: (n.text ++ ([] ++ [')'])))) captures) =
        some r := by
    rw [List.append_nil]
    refine first_place hfile.isFileName (Or.inl rfl) ?_
    rw [List.append_nil, afterPlaceExpr, first_seq, repeatedExpr, first_span_of_stops (stops_nil _),
      optionalExpr, first_optional_none, hnext]
    rw [archiveExpr, first_seq]
    exact first_literal_of_head_ne (by simp)
  exact first_source_of_place hlead (hfile.isFileName.head?_append_ne _) hplace

/-! ### The whole line -/

/-- The slots of the line of a frame. -/
def traceSlots (indent className method file : List Char) (line : LineNumber) : List Slot :=
  let toClass := indent ++ "at ".toList
  let toMethod := toClass ++ className ++ ['.']
  let toFile := toMethod ++ method ++ ['(']
  let toLine := toFile ++ file ++ [':']
  [⟨.dottedClass, toClass.length, (toClass ++ className).length⟩,
    ⟨.method, toMethod.length, (toMethod ++ method).length⟩,
    ⟨.sourceFile, toFile.length, (toFile ++ file).length⟩,
    ⟨.line, toLine.length, (toLine ++ line.text).length⟩]

end Reading

section Line

variable {indent className method file : List Char} {line : LineNumber}

/-- The captures of a way that captures the slots of the first groups in their order. -/
def capturesOf (slots : List Slot) : List Capture :=
  ((slots.zipIdx 1).map fun (slot, i) => ⟨i, slot.span⟩).reverse

/-- A word begins after the indent. -/
theorem boundary_after_indent (hindent : ∀ c ∈ indent, c = ' ' ∨ c = '\t') :
    (Assertion.word false .boundary).holds indent.getLast? (some 'a') = true := by
  have hnotWord : ∀ c, c = ' ' ∨ c = '\t' → Text.isWord c = false := by
    rintro c (rfl | rfl) <;> decide
  have hbefore : indent.getLast?.any Text.isWord = false := by
    cases hlast : indent.getLast? with
    | none => rfl
    | some c => exact hnotWord c (hindent c (List.mem_of_getLast? hlast))
  simp only [Assertion.holds, WordPlace.holds]
  rw [if_neg (by decide), hbefore]
  decide

/-- An indent and a blank after the word stand in front of the class. -/
theorem isOpening_indent (hindent : ∀ c ∈ indent, c = ' ' ∨ c = '\t') : IsOpening indent [' '] where
  line := by
    intro c hc
    rw [contains_lineSet]
    rcases hindent c hc with rfl | rfl <;> decide
  word := boundary_after_indent hindent
  gap := ⟨by simp, List.forall_mem_singleton.2 (by decide)⟩
  first := by
    -- inside of the indent nothing begins
    rintro p q more rfl hq ⟨-, gap, path, member, tail, -, -, -, htext⟩
    obtain ⟨c, s, rfl⟩ := List.exists_cons_of_ne_nil hq
    obtain rfl : c = 'a' := (List.cons.inj htext).1
    exact absurd (hindent 'a' (by simp)) (by decide)

/-- **A frame of a stack trace is read up to the end of the line.** -/
theorem first_stackTrace (hindent : ∀ c ∈ indent, c = ' ' ∨ c = '\t') (hclass : IsPath className)
    (hmethod : IsSegment method) (hfile : IsSourceFile file) :
    stackTraceExpr.first some (.between [] (traceLine indent className method file line) []) =
      some (.between (traceLine indent className method file line) []
        (capturesOf (traceSlots indent className method file line))) := by
  have hline : traceLine indent className method file line =
      indent ++ ("at".toList ++ ([' '] ++
        (className ++ '.' :: (method ++ '(' :: (file ++ ':' :: (line.text ++ [')'])))))) := by
    simp [traceLine]
  have hread : indent ++ "at".toList ++ [' '] = indent ++ "at ".toList := by simp
  have hparen : Stops segmentSet ('(' :: (file ++ ':' :: (line.text ++ [')']))) :=
    stops_cons (by rw [contains_segmentSet]; decide) _
  rw [show Attempt.between [] (traceLine indent className method file line) [] =
    .between [] (indent ++ _) [] from congrArg (Attempt.between [] · []) hline]
  refine first_stackTrace_of_opening (isOpening_indent hindent) hclass hmethod
    (.of_head_ne hparen (by simp)) (first_source hfile ?_)
  rw [upToMethod, namesCaptured, hread]
  rfl

/-- **The standard template reads a frame of a stack trace in one way.** -/
theorem slots?_traceLine (hindent : ∀ c ∈ indent, c = ' ' ∨ c = '\t') (hclass : IsPath className)
    (hmethod : IsSegment method) (hfile : IsSourceFile file) :
    standard.slots? (traceLine indent className method file line) =
      some (traceSlots indent className method file line) := by
  have hfind : standardExpr.first some
      (.between [] (traceLine indent className method file line) []) =
        some (.between (traceLine indent className method file line) []
          (capturesOf (traceSlots indent className method file line))) := by
    rw [standardExpr, first_seq, first_assert rfl, first_alt,
      first_stackTrace hindent hclass hmethod hfile, Option.some_or]
  rw [slots?, standard_plan, find_of_first isProductive_standardExpr hfind, standard_placeholders]
  rfl

/-! ### Reading and writing the names -/

/-- The line of a frame as parts. -/
def traceParts (indent className method file : List Char) (line : LineNumber) : List LinePart :=
  [⟨indent ++ "at ".toList, .dottedClass, className⟩, ⟨['.'], .method, method⟩,
    ⟨['('], .sourceFile, file⟩, ⟨[':'], .line, line.text⟩]

/-- The line of the parts of a frame. -/
theorem line_traceParts :
    LinePart.line (traceParts indent className method file line) [')'] =
      traceLine indent className method file line := by
  simp [LinePart.line, traceParts, traceLine]

/-- The slots of the parts of a frame. -/
theorem slots_traceParts :
    LinePart.slots [] (traceParts indent className method file line) =
      traceSlots indent className method file line := rfl

/-- **The slots of the line of a frame tell the frame.** -/
theorem frameOfSlots_traceSlots (hclass : IsPath className) (hmethod : IsSegment method)
    (hfile : IsSourceFile file) :
    frameOfSlots (traceLine indent className method file line)
        (traceSlots indent className method file line) =
      ⟨String.ofList className, String.ofList file, line, "", "", String.ofList method, ""⟩ := by
  have hclassSome : className.isEmpty = false := List.isEmpty_eq_false_iff.2 hclass.ne_nil
  have hmethodSome : method.isEmpty = false := List.isEmpty_eq_false_iff.2 hmethod.ne_nil
  have hfileSome : file.isEmpty = false := List.isEmpty_eq_false_iff.2 hfile.ne_nil
  have hlineSome : line.text.isEmpty = false := List.isEmpty_eq_false_iff.2 line.text_ne_nil
  rw [← line_traceParts, ← slots_traceParts, frameOfSlots_line, traceParts]
  simp only [List.foldl_cons, List.foldl_nil, LinePart.read, hclassSome, hmethodSome, hfileSome,
    hlineSome, Bool.false_eq_true, if_false, Placeholder.read, LineNumber.ofText?_text,
    Option.getD_some]
  rfl

/-- **Filling the slots of the line of a frame gives the line of another frame.** -/
theorem fill_traceSlots (frame : StackFrame) :
    (fillSlots false (traceLine indent className method file line)
        (traceSlots indent className method file line) frame).text =
      traceLine indent frame.className.toList frame.method.toList frame.sourceFile.toList
        frame.line := by
  rw [← line_traceParts, ← slots_traceParts, fillSlots_line, ← line_traceParts]
  rfl

end Line

end Deobfuscation.Template
