import Deobfuscation.Proofs.Deobfuscator.Alternatives
import Deobfuscation.Proofs.Deobfuscator.Passes

/-!
# What the sweep leaves of what was written

When obfuscated class names are replaced everywhere, the sweep goes over each line as it is shown:
after both passes, and after what it shares with the line above is blanked out.  It looks at every
word of that line, so also at those that a pass has written: such a word is replaced once more if it
is an obfuscated class name itself.  All other words, and the delimiters, stay.

* `markedSpans`, `outside_markedSpans` — **proved**: where some tokens of a text are replaced, the
  text between them stays;
* `Sweeps`, `sweeps_sweep` — a line with the words that are obfuscated class names replaced by the
  plain names, and nothing else changed; **proved** of the sweep;
* `exists_beneath_of_mem_shownOutcomes` — **proved**: every line that is shown is one of the
  outcomes, blanked out up to a column;
* `Shows`, `shows_of_mem_line` — **proved**: how every line that is swept comes about, and which
  stretches written by the passes are still there.
-/

namespace Deobfuscation

open Regex (Span)

/-! ### Marked tokens -/

section Tokens

variable (marked : Text.Token → Bool)

/-- The stretches of the marked ones among tokens that stand one after the other from a position
on, each as `text` writes it. -/
def markedSpans (text : Text.Token → List Char) : Nat → List Text.Token → List Span
  | _, [] => []
  | position, token :: tokens =>
    if marked token then
      ⟨position, position + (text token).length⟩ ::
        markedSpans text (position + (text token).length) tokens
    else markedSpans text (position + (text token).length) tokens

/-- The stretches lie one after the other, and each holds its token. -/
theorem inOrder_markedSpans (text : Text.Token → List Char) (tokens : List Text.Token) :
    ∀ before, InOrder before.length (before ++ tokens.flatMap text)
        (markedSpans marked text before.length tokens) ∧
      (markedSpans marked text before.length tokens).map
          (·.text (before ++ tokens.flatMap text)) = (tokens.filter marked).map text := by
  induction tokens with
  | nil => exact fun before => ⟨⟨by simp [markedSpans], .nil⟩, rfl⟩
  | cons token tokens ih =>
    intro before
    have hlength : (before ++ text token).length = before.length + (text token).length :=
      List.length_append
    obtain ⟨hrest, htexts⟩ := ih (before ++ text token)
    rw [hlength, List.append_assoc] at hrest htexts
    have hlater : ∀ span ∈ markedSpans marked text (before.length + (text token).length) tokens,
        before.length ≤ span.start ∧
          span.Within (before ++ (text token ++ tokens.flatMap text)).length := by
      intro span hspan
      obtain ⟨hstart, hwithin⟩ := hrest.within span hspan
      exact ⟨by omega, hwithin⟩
    rw [markedSpans, List.filter_cons, List.flatMap_cons]
    split
    · refine ⟨⟨List.forall_mem_cons.2 ⟨⟨Nat.le_refl _, ?_, ?_⟩, hlater⟩, ?_⟩, ?_⟩
      · show before.length ≤ before.length + (text token).length
        omega
      · show before.length + (text token).length ≤ _
        simp only [List.length_append]
        omega
      · exact List.pairwise_cons.2 ⟨fun span hspan => (hrest.within span hspan).1, hrest.ordered⟩
      · rw [List.map_cons, List.map_cons, htexts]
        congr 1
        have hbetween := text_between before (text token) (tokens.flatMap text)
        rwa [hlength, List.append_assoc] at hbetween
    · exact ⟨⟨hlater, hrest.ordered⟩, htexts⟩

/-- **Where only marked tokens are replaced, the text between them stays.** -/
theorem outside_markedSpans {old new : Text.Token → List Char} (tokens : List Text.Token)
    (hsame : ∀ token ∈ tokens, marked token = false → old token = new token) :
    ∀ before before' kept : List Char,
      outside (before ++ kept ++ tokens.flatMap old) before.length
          (markedSpans marked old (before ++ kept).length tokens) =
        outside (before' ++ kept ++ tokens.flatMap new) before'.length
          (markedSpans marked new (before' ++ kept).length tokens) := by
  induction tokens with
  | nil => intro before before' kept; simp [markedSpans, outside]
  | cons token tokens ih =>
    intro before before' kept
    have hrest := ih fun other hmem => hsame other (List.mem_cons_of_mem token hmem)
    rw [markedSpans, markedSpans, List.flatMap_cons, List.flatMap_cons]
    cases hmarked : marked token with
    | true =>
      -- the piece in front of the token is what was kept since the last one
      have hold : (before ++ kept ++ old token).length =
          (before ++ kept).length + (old token).length := List.length_append
      have hnew : (before' ++ kept ++ new token).length =
          (before' ++ kept).length + (new token).length := List.length_append
      have hnext := hrest (before ++ kept ++ old token) (before' ++ kept ++ new token) []
      rw [List.append_nil, List.append_nil, hold, hnew, List.append_assoc (before ++ kept),
        List.append_assoc (before' ++ kept)] at hnext
      rw [if_pos rfl, if_pos rfl, outside, outside, hnext]
      dsimp only
      rw [text_between, text_between]
    | false =>
      have hold := hsame token List.mem_cons_self hmarked
      have hnext := hrest before before' (kept ++ old token)
      rw [if_neg Bool.false_ne_true, if_neg Bool.false_ne_true, ← hold]
      simpa only [List.length_append, List.append_assoc, Nat.add_assoc] using hnext

end Tokens

/-! ### The sweep -/

namespace Deobfuscator

/-- The token is a word, and as a class name it has another plain name. -/
def isRenamed (d : Deobfuscator) : Text.Token → Bool
  | .delimiter _ => false
  | .word word => d.table.plainClass (String.ofList word) != String.ofList word

/-- The stretches of a line whose words are obfuscated class names. -/
def renamedSpans (d : Deobfuscator) (line : List Char) : List Span :=
  markedSpans d.isRenamed Text.Token.text 0 (Text.tokens line)

/-- A line with the words that are obfuscated class names replaced by the plain names: `swept` are
the stretches that hold these. -/
structure Sweeps (d : Deobfuscator) (line result : List Char) (swept : List Span) : Prop where
  /-- The plain names lie one after the other. -/
  inOrder : InOrder 0 result swept
  /-- Each word is replaced by the plain name of the class that it names. -/
  written : swept.map (·.text result) = (d.renamedSpans line).map fun span =>
    (d.table.plainClass (String.ofList (span.text line))).toList
  /-- Everything else is as it was. -/
  kept : outside result 0 swept = outside line 0 (d.renamedSpans line)

/-- The sweep leaves the tokens that are no obfuscated class names. -/
theorem sweepToken_of_not_isRenamed {d : Deobfuscator} {token : Text.Token}
    (h : d.isRenamed token = false) : d.sweepToken token = token.text := by
  cases token with
  | delimiter c => rfl
  | word word =>
    have hplain : d.table.plainClass (String.ofList word) = String.ofList word := by
      simpa [isRenamed] using h
    rw [sweepToken, hplain, String.toList_ofList, Text.Token.text]

theorem inOrder_renamedSpans (d : Deobfuscator) (line : List Char) :
    InOrder 0 line (d.renamedSpans line) := by
  have horder := (inOrder_markedSpans d.isRenamed Text.Token.text (Text.tokens line) []).1
  rwa [List.nil_append, Text.flatMap_text_tokens] at horder

/-- Only words are renamed. -/
theorem exists_word_of_isRenamed {d : Deobfuscator} {token : Text.Token}
    (h : d.isRenamed token = true) : ∃ word, token = .word word := by
  cases token with
  | delimiter c => exact absurd h Bool.false_ne_true
  | word word => exact ⟨word, rfl⟩

/-- **The sweep replaces the words that are obfuscated class names**, and nothing else. -/
theorem sweeps_sweep (d : Deobfuscator) (line : List Char) :
    ∃ swept, d.Sweeps line (d.sweep line) swept := by
  refine ⟨markedSpans d.isRenamed d.sweepToken 0 (Text.tokens line), ?_, ?_, ?_⟩
  · have horder := (inOrder_markedSpans d.isRenamed d.sweepToken (Text.tokens line) []).1
    rwa [List.nil_append] at horder
  · have hnew := (inOrder_markedSpans d.isRenamed d.sweepToken (Text.tokens line) []).2
    have hold := (inOrder_markedSpans d.isRenamed Text.Token.text (Text.tokens line) []).2
    rw [List.nil_append] at hnew hold
    rw [Text.flatMap_text_tokens] at hold
    have hplain : (d.renamedSpans line).map
        (fun span => (d.table.plainClass (String.ofList (span.text line))).toList) =
        ((d.renamedSpans line).map (·.text line)).map
          (fun word => (d.table.plainClass (String.ofList word)).toList) := by
      rw [List.map_map]
      rfl
    rw [hplain]
    refine hnew.trans (Eq.trans ?_ (congrArg _ hold.symm))
    rw [List.map_map]
    refine List.map_congr_left fun token hmem => ?_
    obtain ⟨word, rfl⟩ := exists_word_of_isRenamed (List.mem_filter.1 hmem).2
    rfl
  · have houtside := outside_markedSpans d.isRenamed (Text.tokens line)
      (fun _ _ => sweepToken_of_not_isRenamed) [] [] []
    rw [List.append_nil, List.nil_append, List.nil_append, Text.flatMap_text_tokens] at houtside
    exact houtside

/-- **Stretches apart from the words that are replaced are still there** after the sweep. -/
theorem Sweeps.carried {d : Deobfuscator} {line result : List Char} {swept : List Span}
    (h : d.Sweeps line result swept) {marks : List Span} (hmarks : InOrder 0 line marks)
    (hapart : ∀ mark ∈ marks, ∀ span ∈ d.renamedSpans line, mark.Apart span) :
    ∃ there, Carried line marks result there := by
  have hlength : (d.renamedSpans line).length = swept.length := by
    have hmap := congrArg List.length h.written
    rw [List.length_map, List.length_map] at hmap
    exact hmap.symm
  obtain ⟨there, hthere, hsame, -⟩ := carried_of_outside hlength (Nat.zero_le _) (Nat.zero_le _)
    (d.inOrder_renamedSpans line) h.inOrder h.kept.symm hmarks hapart
  exact ⟨there, hthere, hsame⟩

/-! ### What is shown of an outcome -/

/-- The part of a stretch behind a column. -/
def visible (column : Nat) (span : Span) : Span := ⟨max column span.start, max column span.stop⟩

/-- What is visible of a stretch stands in the line as it stood before. -/
theorem text_visible (column : Nat) (span : Span) (s : List Char) :
    (visible column span).text (beneath column s) = (visible column span).text s := by
  have hdrop := drop_beneath (Nat.le_max_left column span.start) s
  rw [Span.text, Span.text]
  show ((beneath column s).drop (max column span.start)).take _ = _
  rw [hdrop]
  rfl

/-- What is visible of stretches keeps their order. -/
theorem inOrder_visible {column : Nat} {s : List Char} (hcolumn : column ≤ s.length)
    {marks : List Span} (h : InOrder 0 s marks) :
    InOrder 0 (beneath column s) (marks.map (visible column)) where
  within := by
    intro span hspan
    obtain ⟨mark, hmem, rfl⟩ := List.mem_map.1 hspan
    obtain ⟨-, hstart, hstop⟩ := h.within mark hmem
    refine ⟨Nat.zero_le _, ?_, ?_⟩
    · show max column mark.start ≤ max column mark.stop
      omega
    · rw [length_beneath hcolumn]
      show max column mark.stop ≤ s.length
      omega
  ordered := by
    rw [List.pairwise_map]
    refine h.ordered.imp fun {a b} hab => ?_
    show max column a.stop ≤ max column b.start
    omega

theorem exists_beneath_of_mem_alternativesAfter {lines : List (List Char)} {shown : List Char} :
    ∀ {above}, shown ∈ Text.alternativesAfter above lines →
      ∃ out ∈ lines, ∃ column ≤ out.length, shown = beneath column out := by
  induction lines with
  | nil => exact fun h => absurd h List.not_mem_nil
  | cons line lines ih =>
    intro above h
    have hrest : shown ∈ Text.alternativesAfter line lines →
        ∃ out ∈ line :: lines, ∃ column ≤ out.length, shown = beneath column out := fun hmem => by
      obtain ⟨out, hout, hcolumn⟩ := ih hmem
      exact ⟨out, List.mem_cons_of_mem line hout, hcolumn⟩
    rw [Text.alternativesAfter] at h
    split at h
    · exact hrest h
    · rcases List.mem_cons.1 h with rfl | hmem
      · obtain ⟨column, hcolumn, hblank⟩ := exists_beneath_blankShared above line
        exact ⟨line, List.mem_cons_self, column, hcolumn, hblank⟩
      · exact hrest hmem

/-- **Every line that is shown is one of the outcomes, blanked out up to a column.** -/
theorem exists_beneath_of_mem_shownOutcomes {d : Deobfuscator} {line shown : List Char}
    (h : shown ∈ d.shownOutcomes line) :
    ∃ out ∈ d.outcomes line, ∃ column ≤ out.length, shown = beneath column out := by
  have hwhole : ∀ out ∈ d.outcomes line,
      ∃ found ∈ d.outcomes line, ∃ column ≤ found.length, out = beneath column found :=
    fun out hout => ⟨out, hout, 0, Nat.zero_le _, rfl⟩
  rw [shownOutcomes] at h
  split at h
  · cases houtcomes : d.outcomes line with
    | nil => simp [houtcomes, Text.alternatives] at h
    | cons first lines =>
      rw [houtcomes, Text.alternatives] at h
      rcases List.mem_cons.1 h with rfl | hmem
      · exact ⟨shown, List.mem_cons_self, 0, Nat.zero_le _, rfl⟩
      · obtain ⟨out, hout, hcolumn⟩ := exists_beneath_of_mem_alternativesAfter hmem
        exact ⟨out, List.mem_cons_of_mem first hout, hcolumn⟩
  · exact hwhole shown h

/-! ### All together -/

/-- How a swept line comes about: the two passes make an outcome in which `kept` are the stretches
that the first has written and `spans` those of the second; it is blanked out up to a column, and
swept. -/
structure Shows (d : Deobfuscator) (line result : List Char) (filled : Filled) (out : List Char)
    (kept spans : List Span) (column : Nat) : Prop where
  /-- The outcome comes about in two passes. -/
  passes : ∃ first second, d.Passes line filled out first second spans
  /-- The second has left the stretches that the first has written. -/
  kept_carried : Carried filled.text filled.spans out kept
  /-- It is blanked out up to the column, as what it shares with the line above is. -/
  column_le : column ≤ out.length
  shown : beneath column out ∈ d.shownOutcomes line
  /-- The words of what is shown that are obfuscated class names are replaced, once. -/
  sweeps : ∃ swept, d.Sweeps (beneath column out) result swept
  /-- What is visible of stretches, those of the passes or any others, is still there, in order and
  unchanged, where it has nothing in common with such a word. -/
  still_there : ∀ marks, InOrder 0 out marks →
    (∀ mark ∈ marks, ∀ span ∈ d.renamedSpans (beneath column out),
      (visible column mark).overlaps span = false) →
    ∃ there, InOrder 0 result there ∧
      there.map (·.text result) = marks.map fun mark => (visible column mark).text out

/-- **Every line that is swept comes about so.** -/
theorem shows_of_mem_line {d : Deobfuscator} (hall : d.allClassNames = true)
    {line result : List Char} (h : result ∈ d.line line) :
    ∃ filled ∈ d.frameReadings line, ∃ out ∈ d.callReadings filled, ∃ kept spans column,
      d.Shows line result filled out kept spans column := by
  rw [Deobfuscator.line, if_pos hall] at h
  obtain ⟨shown, hshown, rfl⟩ := List.mem_map.1 h
  obtain ⟨out, hout, column, hcolumn, rfl⟩ := exists_beneath_of_mem_shownOutcomes hshown
  obtain ⟨filled, hfilled, hcall⟩ := List.mem_flatMap.1 hout
  obtain ⟨first, second, spans, hpasses⟩ := passes_of_mem_callReadings hfilled hcall
  obtain ⟨kept, hkept, -⟩ := hpasses.still_there
  obtain ⟨swept, hswept⟩ := d.sweeps_sweep (beneath column out)
  refine ⟨filled, hfilled, out, hcall, kept, spans, column,
    ⟨first, second, hpasses⟩, hkept, hcolumn, hshown, ⟨swept, hswept⟩, ?_⟩
  intro marks hmarks hclear
  obtain ⟨there, hthere, hsame⟩ := hswept.carried (inOrder_visible hcolumn hmarks) (by
    intro mark hmem span hspan
    obtain ⟨whole, hwhole, rfl⟩ := List.mem_map.1 hmem
    exact Span.overlaps_eq_false_iff.1 (hclear whole hwhole span hspan))
  refine ⟨there, hthere, ?_⟩
  rw [hsame, List.map_map]
  exact List.map_congr_left fun mark _ => text_visible column mark out

/-- What blanking leaves of a method name is the obfuscated name of a class. -/
theorem shows_of_mem_line_blanked :
    let table := (((SymbolTable.empty.addClass ⟨"p.Foo", "a"⟩).addClass ⟨"q.Bar", "two"⟩).addMethod
      "p.Foo" ⟨"void", "one", "b", none, "", ⟨0, 0, 0, 0⟩⟩).addMethod
      "p.Foo" ⟨"void", "two", "b", none, "", ⟨0, 0, 0, 0⟩⟩
    let template := (Template.ofText? Template.stackTraceText).getD default
    let d : Deobfuscator := ⟨table, template, false, true⟩
    let line := "\tat a.b(X)".toList
    let result := "          q.Bar(Foo.java)".toList
    result ∈ d.line line ∧
      ∃ filled ∈ d.frameReadings line, ∃ out ∈ d.callReadings filled, ∃ kept spans column,
        d.Shows line result filled out kept spans column := by
  intro table template d line result
  have hresult : result ∈ d.line line := by decide +kernel
  exact ⟨hresult, shows_of_mem_line rfl hresult⟩

/-- A class name that a pass has written is replaced once more if it is also an obfuscated one. -/
theorem line_writtenTwice :
    let table := (SymbolTable.empty.addClass ⟨"b", "a"⟩).addClass ⟨"c", "b"⟩
    let template := (Template.ofText? "%c".toList).getD default
    let d : Deobfuscator := ⟨table, template, false, true⟩
    let filled : Filled := ⟨"b".toList, [⟨0, 1⟩]⟩
    d.frameReadings "a".toList = [filled] ∧ d.callReadings filled = ["b".toList] ∧
      d.line "a".toList = ["c".toList] := by
  intro table template d filled
  decide +kernel

end Deobfuscator

end Deobfuscation
