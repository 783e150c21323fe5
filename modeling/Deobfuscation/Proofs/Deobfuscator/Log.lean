import Deobfuscation.Deobfuscator.Log
import Deobfuscation.Proofs.Deobfuscator.Sweep
import Deobfuscation.Proofs.LineNumber
import Deobfuscation.Proofs.SymbolTable.OneLine
import Deobfuscation.Proofs.Text.Line

/-!
# Logs line by line

A log may be read as bytes, line by line, or as one text.  Both show the same, since a newline parts
the decoding just as it parts the lines.

What is shown for a line has no newline of its own: a symbol map tells none, and neither filling a
template, nor blanking out, nor the sweep brings one in.  So the lines of the log can be told in
what is shown for it, and what is shown for a log is what is shown for its parts.

* `map_decodeLossy_splitAfter` — **proved**: the lines of bytes, decoded, are the lines of the text;
* `transfer_eq_log` — **proved**: so a log from a source is shown as the text that it decodes to;
* `newline_not_mem_line` — **proved**: what is shown for a line has no newline;
* `log_structure` — **proved**: what is shown for a log, line by line, with its newlines counted.
-/

namespace Deobfuscation

open Regex (Span)

/-! ### Bytes and texts -/

/-- **The lines of a byte sequence, decoded one by one, are the lines of the decoded text.** -/
theorem map_decodeLossy_splitAfter (bytes : List UInt8) :
    (Text.splitAfter ByteSource.lineFeed bytes).map Utf8.decodeLossy =
      Text.splitAfter '\n' (Utf8.decodeLossy bytes) := by
  have hparts : ∀ body : List UInt8, ByteSource.lineFeed ∉ body → '\n' ∉ Utf8.decodeLossy body :=
    fun _ => mt Utf8.newline_mem_of_decodeLossy
  induction bytes using Text.lines_induction ByteSource.lineFeed with
  | nil => rfl
  | opened body hne hbody =>
    rw [Text.splitAfter_of_not_mem hne hbody,
      Text.splitAfter_of_not_mem (Utf8.decodeLossy_ne_nil hne) (hparts body hbody),
      List.map_singleton]
  | closed body rest hbody ih =>
    have hline : Utf8.decodeLossy (body ++ [ByteSource.lineFeed]) =
        Utf8.decodeLossy body ++ ['\n'] := Utf8.decodeLossy_append_newline body []
    have hall : Utf8.decodeLossy (body ++ ByteSource.lineFeed :: rest) =
        Utf8.decodeLossy body ++ '\n' :: Utf8.decodeLossy rest :=
      Utf8.decodeLossy_append_newline body rest
    rw [ByteSource.splitAfter_append_cons hbody, List.map_cons, hline, ih, hall,
      ByteSource.splitAfter_append_cons (hparts body hbody)]

namespace Deobfuscator

/-- **A log from a source that does not fail is shown as the text that all its bytes decode to**,
also where a line ends inside a character. -/
theorem transfer_eq_log (d : Deobfuscator) (bytes : List UInt8) :
    d.transfer (.ofBytes bytes) none = (d.log (Utf8.decodeLossy bytes), none) := by
  rw [transfer_ofBytes, log, ← map_decodeLossy_splitAfter, List.flatMap_map]

end Deobfuscator

/-! ### Nothing brings a newline in -/

/-- A stretch of a text has no characters but those of the text. -/
theorem not_mem_text {c : Char} {s : List Char} (h : c ∉ s) (span : Span) : c ∉ span.text s :=
  fun hmem => h (((List.take_sublist _ _).trans (List.drop_sublist _ _)).subset hmem)

namespace Placeholder

/-- A text without newlines is read into a frame without newlines. -/
theorem lacks_read {s : List Char} (h : '\n' ∉ s) {frame : StackFrame}
    (hframe : frame.Lacks '\n') (placeholder : Placeholder) :
    (placeholder.read s frame).Lacks '\n' := by
  have htext : '\n' ∉ (String.ofList s).toList := by rwa [String.toList_ofList]
  have hdotted : '\n' ∉ (String.ofList (ClassName.dotted s)).toList := by
    rw [String.toList_ofList, ClassName.dotted, List.mem_map]
    rintro ⟨c, hc, heq⟩
    split at heq
    · exact absurd heq (by decide)
    · exact h (heq ▸ hc)
  simp only [StackFrame.Lacks, List.forall_mem_cons] at hframe ⊢
  obtain ⟨hclass, hfile, htype, hfield, hmethod, harguments, hnil⟩ := hframe
  cases placeholder with
  | dottedClass => exact ⟨htext, hfile, htype, hfield, hmethod, harguments, hnil⟩
  | slashedClass => exact ⟨hdotted, hfile, htype, hfield, hmethod, harguments, hnil⟩
  | sourceFile => exact ⟨hclass, htext, htype, hfield, hmethod, harguments, hnil⟩
  | line => exact ⟨hclass, hfile, htype, hfield, hmethod, harguments, hnil⟩
  | type => exact ⟨hclass, hfile, htext, hfield, hmethod, harguments, hnil⟩
  | field => exact ⟨hclass, hfile, htype, htext, hmethod, harguments, hnil⟩
  | method => exact ⟨hclass, hfile, htype, hfield, htext, harguments, hnil⟩
  | arguments => exact ⟨hclass, hfile, htype, hfield, hmethod, htext, hnil⟩

/-- A frame without newlines is written without newlines. -/
theorem newline_not_mem_write {frame : StackFrame} (h : frame.Lacks '\n') (verbose : Bool)
    (placeholder : Placeholder) : '\n' ∉ placeholder.write verbose frame := by
  simp only [StackFrame.Lacks, List.forall_mem_cons] at h
  obtain ⟨hclass, hfile, htype, hfield, hmethod, harguments, -⟩ := h
  cases placeholder with
  | dottedClass => exact hclass
  | slashedClass =>
    intro hmem
    obtain ⟨c, hc, heq⟩ := List.mem_map.1 hmem
    split at heq
    · exact absurd heq (by decide)
    · exact hclass (heq ▸ hc)
  | sourceFile => exact hfile
  | line => exact LineNumber.not_mem_text (by decide) (by decide) frame.line
  | type => exact htype
  | field => cases verbose <;> simp [write, htype, hfield]
  | method => cases verbose <;> simp [write, htype, hmethod, harguments]
  | arguments => exact harguments

end Placeholder

/-- The frame of a line without newlines has none. -/
theorem lacks_frameOfSlots {line : List Char} (h : '\n' ∉ line) (slots : List Slot) :
    (frameOfSlots line slots).Lacks '\n' := by
  suffices hfold : ∀ frame : StackFrame, frame.Lacks '\n' →
      (slots.foldl (fun frame slot =>
        let s := slot.span.text line
        if s.isEmpty then frame else slot.placeholder.read s frame) frame).Lacks '\n' by
    exact hfold .unknown (by simp [StackFrame.Lacks, StackFrame.unknown])
  induction slots with
  | nil => exact fun frame hframe => hframe
  | cons slot slots ih =>
    intro frame hframe
    refine ih _ ?_
    dsimp only
    split
    · exact hframe
    · exact Placeholder.lacks_read (not_mem_text h slot.span) hframe slot.placeholder

/-- Filling brings in nothing but what is written. -/
theorem not_mem_fill {c : Char} {write : Placeholder → List Char}
    (hwrite : ∀ placeholder, c ∉ write placeholder) (slots : List Slot) :
    ∀ {position : Nat} {rest : List Char} {offset : Nat}, c ∉ rest →
      c ∉ (fill write slots position rest offset).text := by
  induction slots with
  | nil => exact fun h => h
  | cons slot slots ih =>
    intro position rest offset h
    rw [fill]
    split
    · exact ih h
    · simp only [List.mem_append, not_or]
      exact ⟨⟨fun hmem => h (List.mem_of_mem_take hmem), hwrite slot.placeholder⟩,
        ih fun hmem => h (List.mem_of_mem_drop hmem)⟩

namespace Deobfuscator

variable {d : Deobfuscator}

/-- A line without newlines is filled with frames that have none. -/
theorem newline_not_mem_fillSlots (htable : d.table.TextsLack '\n') {line : List Char}
    (h : '\n' ∉ line) (slots : List Slot) :
    ∀ frame ∈ d.table.resolve (frameOfSlots line slots),
      '\n' ∉ (fillSlots d.verbose line slots frame).text := by
  intro frame hframe
  have hlacks := htable.resolve (by decide) (lacks_frameOfSlots h slots) frame hframe
  exact not_mem_fill (Placeholder.newline_not_mem_write hlacks d.verbose) slots h

/-- **No line that a line stands for has a newline.** -/
theorem newline_not_mem_outcomes (htable : d.table.TextsLack '\n') {line : List Char}
    (h : '\n' ∉ line) : ∀ out ∈ d.outcomes line, '\n' ∉ out := by
  intro out hout
  obtain ⟨filled, hfilled, hcall⟩ := List.mem_flatMap.1 hout
  have hfirst : '\n' ∉ filled.text := by
    unfold frameReadings at hfilled
    split at hfilled
    · obtain rfl := List.mem_singleton.1 hfilled
      exact h
    · rename_i slots _
      obtain ⟨frame, hframe, rfl⟩ := List.mem_map.1 hfilled
      exact newline_not_mem_fillSlots htable h slots frame hframe
  unfold callReadings at hcall
  split at hcall
  · obtain rfl := List.mem_singleton.1 hcall
    exact hfirst
  · rename_i slots _
    split at hcall
    · obtain rfl := List.mem_singleton.1 hcall
      exact hfirst
    · obtain ⟨frame, hframe, rfl⟩ := List.mem_map.1 hcall
      exact newline_not_mem_fillSlots htable hfirst slots frame hframe

/-- The sweep brings no newline in. -/
theorem newline_not_mem_sweep (htable : d.table.TextsLack '\n') {line : List Char}
    (h : '\n' ∉ line) : '\n' ∉ d.sweep line := by
  intro hmem
  obtain ⟨token, htoken, hin⟩ := List.mem_flatMap.1 hmem
  -- the tokens of the line are its characters
  have htext : '\n' ∉ token.text := fun hnewline => h (by
    rw [← Text.flatMap_text_tokens line]
    exact List.mem_flatMap.2 ⟨token, htoken, hnewline⟩)
  cases token with
  | delimiter c => exact htext hin
  | word word =>
    refine htable.lacks.plainClass ?_ hin
    rwa [String.toList_ofList]

/-- **What is shown for a line has no newline.** -/
theorem newline_not_mem_line (htable : d.table.TextsLack '\n') {line : List Char}
    (h : '\n' ∉ line) : ∀ shown ∈ d.line line, '\n' ∉ shown := by
  have houtcomes : ∀ shown ∈ d.shownOutcomes line, '\n' ∉ shown := by
    intro shown hshown
    obtain ⟨out, hout, column, -, rfl⟩ := exists_beneath_of_mem_shownOutcomes hshown
    have hnone := newline_not_mem_outcomes htable h out hout
    rw [beneath, List.mem_append, not_or]
    exact ⟨fun hmem => absurd (List.eq_of_mem_replicate hmem) (by decide),
      fun hmem => hnone (List.mem_of_mem_drop hmem)⟩
  rw [Deobfuscator.line]
  split
  · intro swept hswept
    obtain ⟨shown, hshown, rfl⟩ := List.mem_map.1 hswept
    exact newline_not_mem_sweep htable (houtcomes shown hshown)
  · exact houtcomes

end Deobfuscator

/-! ### The lines of what is shown -/

namespace Text

/-- Texts without newlines, with one between each two, have one newline less than there are
texts. -/
theorem count_newline_intercalate {separator : List Char} (hseparator : separator.count '\n' = 1)
    (texts : List (List Char)) (h : ∀ s ∈ texts, '\n' ∉ s) :
    (List.intercalate separator texts).count '\n' = texts.length - 1 := by
  induction texts with
  | nil => rfl
  | cons first texts ih =>
    rw [List.forall_mem_cons] at h
    have hfirst := List.count_eq_zero.2 h.1
    cases texts with
    | nil => simpa using hfirst
    | cons second texts =>
      have hrest := ih h.2
      rw [List.intercalate_cons_cons, List.count_append, List.count_append, hfirst, hseparator,
        hrest]
      simp only [List.length_cons]
      omega

end Text

namespace Deobfuscator

variable {d : Deobfuscator}

/-- **A log is shown line by line**: what is shown for each body, parted and closed by the
terminator of the line. -/
theorem log_of_inLines {s : List Char} {lines : List (List Char × Text.Terminator)}
    (h : Text.InLines s lines) :
    d.log s = lines.flatMap fun line =>
      List.intercalate line.2.separator (d.line line.1) ++ line.2.mark := by
  rw [h.eq_splitAfter, List.flatMap_map]
  rfl

/-- What is shown for a line has a newline for each text that is shown, unless the line is open. -/
theorem count_newline_shown (htable : d.table.TextsLack '\n') {body : List Char}
    (h : '\n' ∉ body) (terminator : Text.Terminator) :
    (List.intercalate terminator.separator (d.line body) ++ terminator.mark).count '\n' =
      if terminator = .none then (d.line body).length - 1 else (d.line body).length := by
  have hpositive : 0 < (d.line body).length := List.length_pos_of_ne_nil (d.line_ne_nil body)
  have hparted : (List.intercalate terminator.separator (d.line body)).count '\n' =
      (d.line body).length - 1 :=
    Text.count_newline_intercalate (by cases terminator <;> decide) _
      (newline_not_mem_line htable h)
  rw [List.count_append, hparted]
  cases terminator with
  | none => rfl
  | newline => exact Nat.sub_add_cancel hpositive
  | returnNewline => exact Nat.sub_add_cancel hpositive

/-- The table of a deobfuscator is that of its source. -/
theorem ofSource_table {source : ByteSource} {settings : Settings}
    (h : ofSource source settings = .ok d) : SymbolTable.ofSource source = .ok d.table := by
  unfold ofSource ofTable at h
  split at h
  · rename_i table htable
    split at h
    · rw [← Except.ok.inj h]
      exact htable
    · exact absurd h (by simp)
  · exact absurd h (by simp)

/-- **Lines stay lines.**  What is shown for a line is at least one text and no newline.  Every log
is in lines, in one way, and is shown line by line; so the newlines of what is shown are counted by
the texts shown for the closed lines and the separators of an open one, and a log that ends in a
newline is shown on its own, whatever follows it. -/
theorem log_structure {source : ByteSource} {settings : Settings}
    (h : ofSource source settings = .ok d) :
    (∀ line, '\n' ∉ line → d.line line ≠ [] ∧ ∀ shown ∈ d.line line, '\n' ∉ shown) ∧
      (∀ s, ∃! lines, Text.InLines s lines) ∧
      (∀ s lines, Text.InLines s lines →
        (d.log s = lines.flatMap fun line =>
          List.intercalate line.2.separator (d.line line.1) ++ line.2.mark) ∧
        (d.log s).count '\n' = (lines.map fun line =>
          if line.2 = .none then (d.line line.1).length - 1 else (d.line line.1).length).sum) ∧
      ∀ s rest, s = [] ∨ s.getLast? = some '\n' → d.log (s ++ rest) = d.log s ++ d.log rest := by
  have htable := SymbolTable.textsLack_newline (ofSource_table h)
  refine ⟨fun line hline => ⟨d.line_ne_nil line, newline_not_mem_line htable hline⟩, ?_, ?_, ?_⟩
  · exact fun s => ⟨_, Text.inLines_splitAfter s, fun lines hlines => hlines.eq_splitAfter⟩
  · intro s lines hlines
    refine ⟨log_of_inLines hlines, ?_⟩
    rw [log_of_inLines hlines, List.count_flatMap]
    refine congrArg List.sum (List.map_congr_left fun line hmem => ?_)
    exact count_newline_shown htable (hlines.newline_not_mem line hmem) line.2
  · intro s rest hs
    rw [log, Text.splitAfter_append hs, List.flatMap_append]
    rfl

/-- A call that stands for two methods, and a class name on an open line. -/
theorem log_structure_twoMethods :
    let source := ByteSource.ofBytes
      (Utf8.encode "A -> a:\n    void f() -> b\n    int g() -> b\n".toList)
    let lines : List (List Char × Text.Terminator) :=
      [("at a.b".toList, .returnNewline), (['a'], .none)]
    ∃ d, ofSource source ⟨false, true, some "at %c.%m"⟩ = .ok d ∧
      Text.InLines "at a.b\r\na".toList lines ∧
      (d.log "at a.b\r\na".toList = lines.flatMap fun line =>
        List.intercalate line.2.separator (d.line line.1) ++ line.2.mark) ∧
      d.log "at a.b\r\na".toList = "at A.f\r\n     g\r\nA".toList := by
  intro source lines
  let table := ((SymbolTable.empty.addClass ⟨"A", "a"⟩).addMethod "A"
    ⟨"void", "f", "b", none, "", ⟨0, 0, 0, 0⟩⟩).addMethod "A"
    ⟨"int", "g", "b", none, "", ⟨0, 0, 0, 0⟩⟩
  let d : Deobfuscator :=
    ⟨table, (Template.ofText? "at %c.%m".toList).getD default, false, true⟩
  have htable : SymbolTable.ofSource source = .ok table := by rfl
  have htemplate : Template.ofText? "at %c.%m".toList = some d.template := by
    obtain ⟨template, htemplate⟩ := Option.isSome_iff_exists.1
      (show (Template.ofText? "at %c.%m".toList).isSome = true by decide +kernel)
    rw [show d.template = (Template.ofText? "at %c.%m".toList).getD default from rfl, htemplate]
    rfl
  have hd : ofSource source ⟨false, true, some "at %c.%m"⟩ = .ok d := by
    rw [ofSource, htable]
    dsimp only
    rw [ofTable, templateOf]
    dsimp only
    rw [htemplate]
  have hlines :
      Text.InLines ("at a.b".toList ++ Text.Terminator.returnNewline.mark ++ ['a']) lines :=
    .closed (by decide) (by decide) (by decide) (.opened (by decide) (by decide))
  exact ⟨d, hd, hlines, ((log_structure hd).2.2.1 _ _ hlines).1, by decide +kernel⟩

end Deobfuscator

end Deobfuscation
