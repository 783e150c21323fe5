import Deobfuscation.Deobfuscator.Line
import Deobfuscation.Proofs.SymbolTable.PlainNames
import Deobfuscation.Proofs.Template.StackTrace

/-!
# Deobfuscating a stack trace

A frame of a stack trace is shown as the frames that the symbol table resolves it to, each in the
place of the old one: the four names are replaced and nothing else is.  The template of called
methods has nothing to say, for it asks for quotation marks, and there are none; and as the line
tells its number, the outcomes are not shown as alternatives.

* `slots?_calledMethod_of_not_mem` — **proved**: a line without quotation marks names no called
  method;
* `not_mem_traceLine` — **proved**: the characters of the line of a frame;
* `frameReadings_traceLine`, `callReadings_traceLine` — **proved**: what the two templates make of
  the line of a frame;
* `line_traceLine` — **proved**: what is shown for a frame of a stack trace.
-/

namespace Deobfuscation.Deobfuscator

open Template (IsPath IsSegment IsSourceFile traceLine)

/-! ### Called methods -/

theorem requires_calledMethodExpr : Template.calledMethodExpr.requires ['\x22'] = true := by
  decide +kernel

/-- **A line without quotation marks names no called method.** -/
theorem slots?_calledMethod_of_not_mem {line : List Char} (h : '\x22' ∉ line) :
    Template.calledMethod.slots? line = none := by
  rw [Template.slots?, Template.calledMethod_plan,
    Regex.Expr.find_eq_none_of_requires Template.isProductive_calledMethodExpr
      requires_calledMethodExpr (mt (List.singleton_infix_iff _ _).1 h)]
  rfl

/-- So nothing is written into it for one. -/
theorem callReadings_of_not_mem (d : Deobfuscator) {filled : Filled}
    (h : '\x22' ∉ filled.text) : d.callReadings filled = [filled.text] := by
  rw [callReadings, slots?_calledMethod_of_not_mem h]

/-! ### The line of a frame -/

/-- There are no quotation marks in the line of a frame if there are none in its names. -/
theorem not_mem_traceLine {indent className method file : List Char} {n : LineNumber}
    (hindent : ∀ c ∈ indent, c = ' ' ∨ c = '\t') (hclass : '\x22' ∉ className)
    (hmethod : '\x22' ∉ method) (hfile : '\x22' ∉ file) :
    '\x22' ∉ traceLine indent className method file n := by
  have hblanks : '\x22' ∉ indent := by
    intro hmem
    rcases hindent _ hmem with h | h
    · revert h
      decide
    · revert h
      decide
  simp only [traceLine, List.mem_append, not_or]
  exact ⟨⟨⟨⟨⟨⟨⟨⟨⟨hblanks, by decide⟩, hclass⟩, by decide⟩, hmethod⟩, by decide⟩, hfile⟩,
    by decide⟩, n.not_mem_text (by decide) (by decide)⟩, by decide⟩

theorem not_mem_of_isSegment {s : List Char} (h : IsSegment s) : '\x22' ∉ s :=
  fun hmem => absurd (h.chars _ hmem) (by decide)

theorem not_mem_of_isPath {path : List Char} (h : IsPath path) : '\x22' ∉ path :=
  h.not_mem (by decide) (by decide)

/-! ### The two templates -/

section TraceLine

variable {indent className method file : List Char} {n : LineNumber}

/-- The line of a frame is filled for each frame that the frame is resolved to. -/
theorem frameReadings_traceLine {d : Deobfuscator} (htemplate : d.template = .standard)
    (hverbose : d.verbose = false) (hindent : ∀ c ∈ indent, c = ' ' ∨ c = '\t')
    (hclass : IsPath className) (hmethod : IsSegment method) (hfile : IsSourceFile file) :
    d.frameReadings (traceLine indent className method file n) =
      (d.table.resolve ⟨String.ofList className, String.ofList file, n, "", "",
        String.ofList method, ""⟩).map
          (fillSlots false (traceLine indent className method file n)
            (Template.traceSlots indent className method file n)) := by
  have hslots : Template.standard.slots? (traceLine indent className method file n) =
      some (Template.traceSlots indent className method file n) :=
    Template.slots?_traceLine hindent hclass hmethod hfile
  rw [frameReadings, htemplate, hslots]
  dsimp only
  rw [Template.frameOfSlots_traceSlots hclass hmethod hfile, hverbose]

/-- The line of a frame that is filled with names without quotation marks stays as it is. -/
theorem callReadings_traceLine (d : Deobfuscator) (hindent : ∀ c ∈ indent, c = ' ' ∨ c = '\t')
    {frame : StackFrame} (hclass : '\x22' ∉ frame.className.toList)
    (hmethod : '\x22' ∉ frame.method.toList) (hfile : '\x22' ∉ frame.sourceFile.toList) :
    d.callReadings (fillSlots false (traceLine indent className method file n)
        (Template.traceSlots indent className method file n) frame) =
      [traceLine indent frame.className.toList frame.method.toList frame.sourceFile.toList
        frame.line] := by
  have hfilled : (fillSlots false (traceLine indent className method file n)
      (Template.traceSlots indent className method file n) frame).text =
        traceLine indent frame.className.toList frame.method.toList frame.sourceFile.toList
          frame.line := Template.fill_traceSlots frame
  have hlacks := not_mem_traceLine (n := frame.line) hindent hclass hmethod hfile
  rw [callReadings_of_not_mem d (by rw [hfilled]; exact hlacks), hfilled]

/-- The line of a frame tells its number. -/
theorem isAmbiguous_traceLine {d : Deobfuscator} (htemplate : d.template = .standard)
    (hindent : ∀ c ∈ indent, c = ' ' ∨ c = '\t') (hclass : IsPath className)
    (hmethod : IsSegment method) (hfile : IsSourceFile file) (hn : n ≠ 0) :
    d.isAmbiguous (traceLine indent className method file n) = false := by
  have hslots : Template.standard.slots? (traceLine indent className method file n) =
      some (Template.traceSlots indent className method file n) :=
    Template.slots?_traceLine hindent hclass hmethod hfile
  have hparse : d.template.parse? (traceLine indent className method file n) =
      some ⟨String.ofList className, String.ofList file, n, "", "", String.ofList method, ""⟩ := by
    rw [htemplate, Template.parse?, hslots, Option.map_some,
      Template.frameOfSlots_traceSlots hclass hmethod hfile]
  rw [isAmbiguous, hparse]
  exact beq_eq_false_iff_ne.2 hn

/-! ### What is shown -/

/-- **A frame of a stack trace is shown as the frames that it is resolved to**, in their order,
each with the indent of the line and in the same form. -/
theorem line_traceLine {table : SymbolTable} (htable : table.Lacks '\x22')
    {indent className method file : List Char} {n : LineNumber}
    (hindent : ∀ c ∈ indent, c = ' ' ∨ c = '\t') (hclass : IsPath className)
    (hmethod : IsSegment method) (hfile : IsSourceFile file) (hn : n ≠ 0) :
    (⟨table, .standard, false, false⟩ : Deobfuscator).line
        (traceLine indent className method file n) =
      (table.resolve ⟨String.ofList className, String.ofList file, n, "", "",
        String.ofList method, ""⟩).map fun frame =>
          traceLine indent frame.className.toList frame.method.toList frame.sourceFile.toList
            frame.line := by
  set d : Deobfuscator := ⟨table, .standard, false, false⟩ with hd
  have hall : d.allClassNames = false := by rw [hd]
  have htemplate : d.template = .standard := by rw [hd]
  have hverbose : d.verbose = false := by rw [hd]
  have hshown := isAmbiguous_traceLine htemplate hindent hclass hmethod hfile hn
  have hreadings := frameReadings_traceLine (n := n) htemplate hverbose hindent hclass hmethod hfile
  set told : StackFrame :=
    ⟨String.ofList className, String.ofList file, n, "", "", String.ofList method, ""⟩
  have heach : ∀ frame ∈ table.resolve told, d.callReadings (fillSlots false
      (traceLine indent className method file n)
      (Template.traceSlots indent className method file n) frame) =
        [traceLine indent frame.className.toList frame.method.toList frame.sourceFile.toList
          frame.line] := by
    intro frame hmem
    -- neither the table nor the line brings quotation marks
    have hnames := htable.resolve (by decide)
      (by rw [String.toList_ofList]; exact not_mem_of_isPath hclass)
      (by rw [String.toList_ofList]; exact fun hin => hfile.chars _ hin (by decide))
      (by rw [String.toList_ofList]; exact not_mem_of_isSegment hmethod) frame hmem
    exact callReadings_traceLine d hindent hnames.1 hnames.2.2 hnames.2.1
  rw [line, hall, if_neg Bool.false_ne_true, shownOutcomes, hshown, if_neg Bool.false_ne_true,
    outcomes, hreadings, List.flatMap_map]
  rw [List.flatMap_congr heach, ← List.map_eq_flatMap]

end TraceLine

/-- The line of a method whose lines are shifted. -/
theorem line_traceLine_shifted :
    (⟨(SymbolTable.empty.addClass ⟨"com.example.Foo", "a.b"⟩).addMethod "com.example.Foo"
        ⟨"void", "bar", "c", none, "", ⟨1, 3, 10, 12⟩⟩, .standard, false, false⟩ :
      Deobfuscator).line
        (traceLine ['\t'] ['a', '.', 'b'] ['c'] ['S', 'F'] 2) =
      [traceLine ['\t'] "com.example.Foo".toList "bar".toList "Foo.java".toList 11] := by
  have htable : ((SymbolTable.empty.addClass ⟨"com.example.Foo", "a.b"⟩).addMethod
      "com.example.Foo" ⟨"void", "bar", "c", none, "", ⟨1, 3, 10, 12⟩⟩).Lacks '\x22' :=
    ((SymbolTable.lacks_empty _).addClass (by decide)).addMethod (by decide) (by decide)
  have hclass : IsPath ['a', '.', 'b'] :=
    .dot (s := ['a']) (by decide) (.segment (s := ['b']) (by decide))
  have hfile : IsSourceFile ['S', 'F'] := by
    refine ⟨by decide, by simp, ?_⟩
    rintro c hc
    rw [← Option.some.inj hc]
    decide
  have hresolve : ((SymbolTable.empty.addClass ⟨"com.example.Foo", "a.b"⟩).addMethod
      "com.example.Foo" ⟨"void", "bar", "c", none, "", ⟨1, 3, 10, 12⟩⟩).resolve
        ⟨"a.b", "SF", 2, "", "", "c", ""⟩ =
      [⟨"com.example.Foo", "Foo.java", 11, "void", "", "bar", ""⟩] := by
    decide +kernel
  have hindent : ∀ c ∈ ['\t'], c = ' ' ∨ c = '\t' := by simp
  have hmethod : IsSegment ['c'] := by decide
  have htwo : (2 : LineNumber) ≠ 0 := by decide
  rw [line_traceLine htable hindent hclass hmethod hfile htwo]
  exact congrArg (List.map _) hresolve

end Deobfuscation.Deobfuscator
