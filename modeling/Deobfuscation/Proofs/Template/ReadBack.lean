import Deobfuscation.Proofs.Template.Components
import Deobfuscation.Proofs.Template.FrameLine
import Deobfuscation.Proofs.Template.Parts

/-!
# Frames read back

A frame that is written into a line of a stack trace is read from it again, whatever is outside of
its names.  But the colon between the source file and the line number may be missing: then the
number is written right behind the file, and what is read as the file is both of them.

* `find_of_stackTrace`, `exists_stackTrace_of_find` — **proved**: a line is a frame of a stack trace
  if its first group has captured something;
* `exists_parse?_of_source`, `parse?_names` — **proved**: what is read from such a line;
* `text_format_names`, `text_format_place` — **proved**: what is written into it;
* `NumberFollowsFile` — the line number stands right behind the source file;
* `parse?_format_standard` — **proved**: so class and method are read back from every line, and
  source file and line number where they are kept apart;
* `parse?_format_unparted` — **proved**: otherwise neither may be read back.
-/

namespace Deobfuscation.Template

open Regex Expr

/-! ### Frames of a stack trace -/

section Find

variable {line : List Char} {captures : List Capture}

/-- A line that is read as a frame of a stack trace is found to be one. -/
theorem find_of_stackTrace
    (h : (stackTraceExpr.first some (.between [] line [])).map Attempt.captures = some captures) :
    standard.plan.find line = some captures := by
  obtain ⟨r, hr, rfl⟩ := Option.map_eq_some_iff.1 h
  rw [standard_plan, standardExpr, find_anchored isProductive_standardExpr, first_alt, hr,
    Option.some_or, Option.map_some]

/-- **A line of which the first group has captured something is a frame of a stack trace.** -/
theorem exists_stackTrace_of_find (hfind : standard.plan.find line = some captures)
    (hframe : (captured? captures 1).isSome = true) :
    ∃ r, stackTraceExpr.first some (.between [] line []) = some r ∧ r.captures = captures := by
  rw [standard_plan, standardExpr, find_anchored isProductive_standardExpr, first_alt] at hfind
  obtain ⟨r, hr, rfl⟩ := Option.map_eq_some_iff.1 hfind
  rcases Option.or_eq_some_iff.1 hr with htrace | ⟨-, hmessage⟩
  · exact ⟨r, htrace, rfl⟩
  · -- the other alternatives have other groups
    obtain ⟨b, hb, hsome⟩ := exists_way_of_first hmessage
    obtain rfl := Option.some.inj hsome
    have hadds := messageExpr.adds_ways (List.Subset.refl _) _ b hb
    rw [hadds.captured?_eq (by decide)] at hframe
    exact absurd hframe Bool.false_ne_true

/-- What is found in a line tells its slots. -/
theorem slots?_of_find (hfind : standard.plan.find line = some captures) :
    standard.slots? line = some (slotsFrom captures 1 standard.placeholders) := by
  rw [slots?, hfind, Option.map_some]

/-- **Of the frame that is read from a line, its placeholder writes what a group has captured.** -/
theorem exists_parse?_of_find (hfind : standard.plan.find line = some captures) :
    ∃ parsed, standard.parse? line = some parsed ∧
      ∀ i placeholder {span}, standard.placeholders[i]? = some placeholder →
        captured? captures (1 + i) = some span → placeholder.Writes (span.text line) →
          placeholder.write false parsed = span.text line := by
  have hslots := slots?_of_find hfind
  refine ⟨_, by rw [parse?, hslots, Option.map_some], ?_⟩
  intro i placeholder span hplaceholder hspan hwrites
  have hmem : ⟨placeholder, span⟩ ∈ slotsFrom captures 1 standard.placeholders :=
    (mem_slotsFrom_iff standard.placeholders).2 ⟨i, hplaceholder, hspan⟩
  refine write_frameOfSlots hmem hwrites fun other hother hcomponent => ?_
  rw [slot_inj isProductive_standardExpr standard_plan nodup_components_standard hslots hother hmem
    hcomponent]

end Find

section Names

variable {before blanks path member rest : List Char} {r : Attempt}

/-- **What is read from a frame of a stack trace**: its class and method, and the source file and
line number that were captured behind them. -/
theorem exists_parse?_of_source (hopening : IsOpening before blanks) (hpath : IsPath path)
    (hmember : IsSegment member) (hclosed : Closed rest)
    (hsource : sourceExpr.first some (.between (upToMethod before blanks path member) rest
      (namesCaptured before blanks path member)) = some r) :
    ∃ parsed, standard.parse? (upToMethod before blanks path member ++ rest) = some parsed ∧
      parsed.className.toList = path ∧ parsed.method.toList = member ∧
      (∀ span, captured? r.captures 3 = some span →
        parsed.sourceFile.toList = span.text (upToMethod before blanks path member ++ rest)) ∧
      ∀ span n, captured? r.captures 4 = some span →
        span.text (upToMethod before blanks path member ++ rest) = LineNumber.text n →
          parsed.line = n := by
  have hline : upToMethod before blanks path member ++ rest =
      before ++ ("at".toList ++ (blanks ++ (path ++ '.' :: (member ++ rest)))) := by
    simp [upToMethod]
  have hfind : standard.plan.find (upToMethod before blanks path member ++ rest) =
      some r.captures := by
    rw [hline]
    refine find_of_stackTrace ?_
    rw [first_stackTrace_of_opening hopening hpath hmember hclosed hsource, Option.map_some]
  -- what follows the method has captured nothing of its own for the names
  obtain ⟨r', hr', hadds⟩ := exists_first_source
    (.between (upToMethod before blanks path member) rest (namesCaptured before blanks path member))
  obtain rfl : r' = r := Option.some.inj (hr'.symm.trans hsource)
  have hclass : captured? r'.captures 1 = some ⟨(before ++ "at".toList ++ blanks).length,
      (before ++ "at".toList ++ blanks ++ path).length⟩ := hadds.captured?_eq (by decide)
  have hmethod : captured? r'.captures 2 = some
      ⟨(before ++ "at".toList ++ blanks ++ path ++ ['.']).length,
        (upToMethod before blanks path member).length⟩ := hadds.captured?_eq (by decide)
  have hpathText : Span.text ⟨(before ++ "at".toList ++ blanks).length,
      (before ++ "at".toList ++ blanks ++ path).length⟩
        (upToMethod before blanks path member ++ rest) = path := by
    have htext := text_between (before ++ "at".toList ++ blanks) path (['.'] ++ member ++ rest)
    rwa [show before ++ "at".toList ++ blanks ++ path ++ (['.'] ++ member ++ rest) =
      upToMethod before blanks path member ++ rest by simp [upToMethod]] at htext
  obtain ⟨parsed, hparse, hwrite⟩ := exists_parse?_of_find hfind
  rw [standard_placeholders] at hwrite
  refine ⟨parsed, hparse, ?_, ?_, ?_, ?_⟩
  · exact (hwrite 0 .dottedClass rfl hclass ⟨by simp, by simp⟩).trans hpathText
  · exact (hwrite 1 .method rfl hmethod ⟨by simp, by simp⟩).trans
      (text_between _ _ _)
  · intro span hspan
    exact hwrite 2 .sourceFile rfl hspan ⟨by simp, by simp⟩
  · intro span n hspan htext
    have hnumber := hwrite 3 .line rfl hspan ⟨fun _ => ⟨n, htext⟩, by simp⟩
    have hread := congrArg LineNumber.ofText? (hnumber.trans htext)
    rw [show Placeholder.write .line false parsed = parsed.line.text from rfl,
      LineNumber.ofText?_text, LineNumber.ofText?_text] at hread
    exact Option.some.inj hread

/-- **A frame without a place of its own is read.** -/
theorem exists_parse?_names (hopening : IsOpening before blanks) (hpath : IsPath path)
    (hmember : IsSegment member) (hclosed : Closed rest) :
    ∃ parsed, standard.parse? (upToMethod before blanks path member ++ rest) = some parsed ∧
      parsed.className.toList = path ∧ parsed.method.toList = member := by
  obtain ⟨r, hr, -⟩ := exists_first_source
    (.between (upToMethod before blanks path member) rest (namesCaptured before blanks path member))
  obtain ⟨parsed, hparse, hclass, hmethod, -⟩ :=
    exists_parse?_of_source hopening hpath hmember hclosed hr
  exact ⟨parsed, hparse, hclass, hmethod⟩

/-- **A frame with a source file is read**, whatever is made of a line number behind the file. -/
theorem exists_parse?_file {lead file later tail : List Char} (hopening : IsOpening before blanks)
    (hpath : IsPath path) (hmember : IsSegment member)
    (hclosed : Closed (lead ++ '(' :: (file ++ (later ++ ')' :: tail)))) (hlead : IsLead lead)
    (hfile : IsFileName file) (hlater : IsLater later) :
    ∃ parsed, standard.parse? (upToMethod before blanks path member ++
        (lead ++ '(' :: (file ++ (later ++ ')' :: tail)))) = some parsed ∧
      parsed.className.toList = path ∧ parsed.method.toList = member ∧
      parsed.sourceFile.toList = file := by
  have hplace : ∃ r, placeExpr.first (afterPlaceExpr.first some)
        (.between (upToMethod before blanks path member ++ lead)
          ('(' :: (file ++ (later ++ ')' :: tail))) (namesCaptured before blanks path member)) =
        some r ∧
      captured? r.captures 3 =
        some (fileSpan (upToMethod before blanks path member ++ lead) file) := by
    obtain ⟨r, hr, hcaptured, -⟩ := exists_first_place hfile hlater exists_first_afterPlace
    exact ⟨r, hr, hcaptured⟩
  obtain ⟨r, hr, hcaptured⟩ := hplace
  obtain ⟨parsed, hparse, hclass, hmethod, hsource, -⟩ := exists_parse?_of_source hopening hpath
    hmember hclosed (first_source_of_place hlead (hfile.head?_append_ne _) hr)
  refine ⟨parsed, hparse, hclass, hmethod, (hsource _ hcaptured).trans ?_⟩
  have htext := text_between (upToMethod before blanks path member ++ lead ++ ['(']) file
    (later ++ ')' :: tail)
  simpa [fileSpan] using htext

/-- **A frame with a source file and a line number is read.** -/
theorem exists_parse?_place {lead file later tail : List Char} {n : LineNumber}
    (hopening : IsOpening before blanks) (hpath : IsPath path) (hmember : IsSegment member)
    (hclosed : Closed (lead ++ '(' :: (file ++ ':' :: (n.text ++ (later ++ ')' :: tail)))))
    (hlead : IsLead lead) (hfile : IsFileName file) (hlater : IsLater later) :
    ∃ parsed, standard.parse? (upToMethod before blanks path member ++
        (lead ++ '(' :: (file ++ ':' :: (n.text ++ (later ++ ')' :: tail))))) = some parsed ∧
      parsed.className.toList = path ∧ parsed.method.toList = member ∧
      parsed.sourceFile.toList = file ∧ parsed.line = n := by
  have hplace : ∃ r, placeExpr.first (afterPlaceExpr.first some)
        (.between (upToMethod before blanks path member ++ lead)
          ('(' :: (file ++ ':' :: (n.text ++ (later ++ ')' :: tail))))
          (namesCaptured before blanks path member)) = some r ∧
      r.captures =
        ⟨4, numberSpan (upToMethod before blanks path member ++ lead) file [':'] n.text⟩ ::
          ⟨3, fileSpan (upToMethod before blanks path member ++ lead) file⟩ ::
            namesCaptured before blanks path member := by
    obtain ⟨r, hr, hcaptures⟩ := exists_first_afterPlace (.between _ _ _)
    exact ⟨r, first_place hfile hlater hr, hcaptures⟩
  obtain ⟨r, hr, hcaptures⟩ := hplace
  obtain ⟨parsed, hparse, hclass, hmethod, hsource, hnumber⟩ := exists_parse?_of_source hopening
    hpath hmember hclosed (first_source_of_place hlead (hfile.head?_append_ne _) hr)
  rw [hcaptures] at hsource hnumber
  refine ⟨parsed, hparse, hclass, hmethod, (hsource _ rfl).trans ?_, hnumber _ n rfl ?_⟩
  · have htext := text_between (upToMethod before blanks path member ++ lead ++ ['(']) file
      (':' :: (n.text ++ (later ++ ')' :: tail)))
    simpa [fileSpan] using htext
  · have htext := text_between
      (upToMethod before blanks path member ++ lead ++ ['('] ++ file ++ [':']) n.text
      (later ++ ')' :: tail)
    simpa [numberSpan] using htext

/-! ### Writing a frame -/

/-- The slots of the class and the method of a frame, and those behind them. -/
def nameSlots (before blanks path member : List Char) (slots : List Slot) : List Slot :=
  let toClass := before ++ "at".toList ++ blanks
  ⟨.dottedClass, toClass.length, (toClass ++ path).length⟩ ::
    ⟨.method, (toClass ++ path ++ ['.']).length, (toClass ++ path ++ ['.'] ++ member).length⟩ ::
      slots

/-- The slots of a line without a place. -/
theorem slotsFrom_names :
    slotsFrom (namesCaptured before blanks path member) 1 standard.placeholders =
      nameSlots before blanks path member [] := by
  rw [standard_placeholders]
  rfl

/-- The class and the method of a frame as parts of a line. -/
def nameParts (before blanks path member : List Char) : List LinePart :=
  [⟨before ++ "at".toList ++ blanks, .dottedClass, path⟩, ⟨['.'], .method, member⟩]

theorem line_nameParts :
    LinePart.line (nameParts before blanks path member) rest =
      upToMethod before blanks path member ++ rest := by
  simp [LinePart.line, nameParts, upToMethod]

/-- **A frame behind which no parenthesis opens tells its class and its method, and nothing
else.** -/
theorem parse?_names (hopening : IsOpening before blanks) (hpath : IsPath path)
    (hmember : IsSegment member) (hclosed : Closed rest) (hplace : '(' ∉ rest) :
    standard.parse? (upToMethod before blanks path member ++ rest) =
      some { StackFrame.unknown with
        className := String.ofList path
        method := String.ofList member } := by
  obtain ⟨r, hr, -⟩ := exists_first_source
    (.between (upToMethod before blanks path member) rest (namesCaptured before blanks path member))
  have hcaptures : r.captures = namesCaptured before blanks path member := by
    rcases cases_of_first_source hr with hsame | ⟨lead, behind, -, rfl, hread⟩
    · exact hsame
    · -- a place would begin with a parenthesis
      rw [placeExpr, first_seq] at hread
      obtain ⟨inside, rfl, -⟩ := exists_of_first_literal hread
      exact absurd (List.mem_append_right lead List.mem_cons_self) hplace
  have hline : upToMethod before blanks path member ++ rest =
      before ++ ("at".toList ++ (blanks ++ (path ++ '.' :: (member ++ rest)))) := by
    simp [upToMethod]
  have hfind : standard.plan.find (upToMethod before blanks path member ++ rest) =
      some (namesCaptured before blanks path member) := by
    rw [hline]
    refine find_of_stackTrace ?_
    rw [first_stackTrace_of_opening hopening hpath hmember hclosed hr, Option.map_some, hcaptures]
  have hslots : standard.slots? (LinePart.line (nameParts before blanks path member) rest) =
      some (LinePart.slots [] (nameParts before blanks path member)) := by
    rw [line_nameParts, slots?_of_find hfind, slotsFrom_names]
    rfl
  have hpathSome : path.isEmpty = false := List.isEmpty_eq_false_iff.2 hpath.ne_nil
  have hmemberSome : member.isEmpty = false := List.isEmpty_eq_false_iff.2 hmember.ne_nil
  rw [← line_nameParts, parse?_line hslots]
  simp only [nameParts, List.foldl_cons, List.foldl_nil, LinePart.read, hpathSome, hmemberSome,
    Bool.false_eq_true, if_false, Placeholder.read]

/-- The slots of a line with a source file alone. -/
theorem slotsFrom_file (file : Span) :
    slotsFrom (⟨3, file⟩ :: namesCaptured before blanks path member) 1 standard.placeholders =
      nameSlots before blanks path member [⟨.sourceFile, file⟩] := by
  rw [standard_placeholders]
  rfl

/-- The slots of a line with a source file and a line number. -/
theorem slotsFrom_place (file number : Span) :
    slotsFrom (⟨4, number⟩ :: ⟨3, file⟩ :: namesCaptured before blanks path member) 1
        standard.placeholders =
      nameSlots before blanks path member [⟨.sourceFile, file⟩, ⟨.line, number⟩] := by
  rw [standard_placeholders]
  rfl

/-- **A class and a method are written in the place of others.** -/
theorem text_format_names {captures : List Capture} {slots : List Slot} (frame : StackFrame)
    (hfind : standard.plan.find (upToMethod before blanks path member ++ rest) = some captures)
    (hslots : slotsFrom captures 1 standard.placeholders =
      nameSlots before blanks path member slots) :
    (standard.format false (upToMethod before blanks path member ++ rest) frame).text =
      upToMethod before blanks frame.className.toList frame.method.toList ++
        (fill (fun placeholder => placeholder.write false frame) slots
          (upToMethod before blanks path member).length rest 0).text := by
  have hformat : standard.format false (upToMethod before blanks path member ++ rest) frame =
      fillSlots false (upToMethod before blanks path member ++ rest)
        (nameSlots before blanks path member slots) frame := by
    rw [format, slots?_of_find hfind, hslots]
  have hline : upToMethod before blanks path member ++ rest =
      (before ++ "at".toList ++ blanks) ++ (path ++ (['.'] ++ (member ++ rest))) := by
    simp [upToMethod]
  rw [hformat, fillSlots, hline, nameSlots]
  refine (text_fill_slot _ .dottedClass _ [] (before ++ "at".toList ++ blanks) path _ 0).trans ?_
  rw [List.nil_append, text_fill_slot]
  simp [upToMethod, Placeholder.write]

/-- **A source file is written in the place of another.** -/
theorem text_fill_file (write : Placeholder → List Char) (slots : List Slot)
    (read lead file rest : List Char) :
    (fill write (⟨.sourceFile, fileSpan (read ++ lead) file⟩ :: slots) read.length
        (lead ++ '(' :: (file ++ rest)) 0).text =
      lead ++ '(' :: (write .sourceFile ++
        (fill write slots (read ++ lead ++ ['('] ++ file).length rest 0).text) := by
  have h := text_fill_slot write .sourceFile slots read (lead ++ ['(']) file rest 0
  simpa [fileSpan] using h

section Place

variable {lead file colon number : List Char} (frame : StackFrame)

/-- A frame is written into a line without a place. -/
theorem text_format_unplaced
    (hfind : standard.plan.find (upToMethod before blanks path member ++ rest) =
      some (namesCaptured before blanks path member)) :
    (standard.format false (upToMethod before blanks path member ++ rest) frame).text =
      upToMethod before blanks frame.className.toList frame.method.toList ++ rest :=
  text_format_names frame hfind slotsFrom_names

/-- A frame is written into a line with a source file alone. -/
theorem text_format_file
    (hfind : standard.plan.find (upToMethod before blanks path member ++
        (lead ++ '(' :: (file ++ rest))) =
      some (⟨3, fileSpan (upToMethod before blanks path member ++ lead) file⟩ ::
        namesCaptured before blanks path member)) :
    (standard.format false (upToMethod before blanks path member ++
        (lead ++ '(' :: (file ++ rest))) frame).text =
      upToMethod before blanks frame.className.toList frame.method.toList ++
        (lead ++ '(' :: (frame.sourceFile.toList ++ rest)) := by
  rw [text_format_names frame hfind (slotsFrom_file _), text_fill_file]
  rfl

/-- A frame is written into a line with a source file and a line number. -/
theorem text_format_place
    (hfind : standard.plan.find (upToMethod before blanks path member ++
        (lead ++ '(' :: (file ++ (colon ++ (number ++ rest))))) =
      some (⟨4, numberSpan (upToMethod before blanks path member ++ lead) file colon number⟩ ::
        ⟨3, fileSpan (upToMethod before blanks path member ++ lead) file⟩ ::
          namesCaptured before blanks path member)) :
    (standard.format false (upToMethod before blanks path member ++
        (lead ++ '(' :: (file ++ (colon ++ (number ++ rest))))) frame).text =
      upToMethod before blanks frame.className.toList frame.method.toList ++
        (lead ++ '(' :: (frame.sourceFile.toList ++ (colon ++ (frame.line.text ++ rest)))) := by
  rw [text_format_names frame hfind (slotsFrom_place _ _), text_fill_file, numberSpan,
    text_fill_slot]
  rfl

end Place

end Names

/-! ### Reading what was written -/

/-- The line number of a frame stands right behind its source file. -/
def NumberFollowsFile (captures : List Capture) : Prop :=
  ∃ file number, captured? captures 3 = some file ∧ captured? captures 4 = some number ∧
    number.start = file.stop

/-- A source file that goes on with a line number is read as one. -/
theorem IsFileName.append_number {s : List Char} (h : IsFileName s) (n : LineNumber) :
    IsFileName (s ++ n.text) where
  ne_nil := by simp [h.ne_nil]
  chars := by
    refine List.forall_mem_append.2 ⟨h.chars, fun c hc hmem => ?_⟩
    have hnot : c.isDigit = false ∧ c ≠ '-' := by
      simp only [List.mem_cons, List.not_mem_nil, or_false] at hmem
      rcases hmem with rfl | rfl | rfl <;> decide
    exact LineNumber.not_mem_text hnot.1 hnot.2 n hc
  head := by
    intro c hc
    refine h.head c ?_
    rwa [List.head?_append_of_ne_nil _ h.ne_nil] at hc

/-- **A frame that is written into a line of a stack trace is read back**: its class and its method
always, and its source file and its line number if the line tells them and has something between
them.  If the number stands right behind the file, both are read as the file. -/
theorem parse?_format_standard {line : List Char} {captures : List Capture} {frame : StackFrame}
    (hfind : standard.plan.find line = some captures)
    (hframe : (captured? captures 1).isSome = true) (hclass : IsPath frame.className.toList)
    (hmethod : IsSegment frame.method.toList) (hfile : IsFileName frame.sourceFile.toList) :
    ∃ parsed, standard.parse? (standard.format false line frame).text = some parsed ∧
      parsed.className = frame.className ∧ parsed.method = frame.method ∧
      (¬NumberFollowsFile captures →
        ((captured? captures 3).isSome = true → parsed.sourceFile = frame.sourceFile) ∧
        ((captured? captures 4).isSome = true → parsed.line = frame.line)) ∧
      (NumberFollowsFile captures →
        parsed.sourceFile.toList = frame.sourceFile.toList ++ frame.line.text) := by
  obtain ⟨r, htrace, rfl⟩ := exists_stackTrace_of_find hfind hframe
  obtain ⟨before, blanks, path, member, rest, hopening, hpath, hmember, hclosed, hline, hsource⟩ :=
    exists_opening_of_first htrace
  obtain rfl : line = upToMethod before blanks path member ++ rest := by simp [hline, upToMethod]
  rcases cases_of_first_source hsource with hnames | ⟨lead, behind, hlead, rfl, hplace⟩
  · -- nothing but the names
    rw [hnames] at hfind ⊢
    obtain ⟨parsed, hparse, hclass', hmethod'⟩ :=
      exists_parse?_names hopening hclass hmethod hclosed
    rw [text_format_unplaced frame hfind]
    refine ⟨parsed, hparse, String.toList_inj.1 hclass', String.toList_inj.1 hmethod', ?_, ?_⟩
    · exact fun _ => ⟨fun h => absurd h Bool.false_ne_true, fun h => absurd h Bool.false_ne_true⟩
    · rintro ⟨file, number, hcaptured, -⟩
      exact absurd hcaptured (by simp [namesCaptured, captured?])
  obtain ⟨file, later, tail, hlater, ⟨rfl, hcaptures⟩ | ⟨colon, number, hcolon, rfl, hcaptures⟩⟩ :=
    cases_of_first_place hplace
  · -- a source file alone
    rw [hcaptures] at hfind ⊢
    obtain ⟨parsed, hparse, hclass', hmethod', hfile'⟩ :=
      exists_parse?_file hopening hclass hmethod hclosed.congr hlead hfile hlater
    rw [text_format_file frame hfind]
    refine ⟨parsed, hparse, String.toList_inj.1 hclass', String.toList_inj.1 hmethod', ?_, ?_⟩
    · exact fun _ => ⟨fun _ => String.toList_inj.1 hfile', fun h => absurd h Bool.false_ne_true⟩
    · rintro ⟨span, number, -, hcaptured, -⟩
      exact absurd hcaptured (by simp [namesCaptured, captured?])
  rw [hcaptures] at hfind ⊢
  rw [text_format_place frame hfind]
  rcases hcolon with rfl | rfl
  · -- a line number right behind the source file
    have hclosed' : Closed (lead ++ '(' :: (frame.sourceFile.toList ++ frame.line.text ++
        (later ++ ')' :: tail))) := hclosed.congr
    obtain ⟨parsed, hparse, hclass', hmethod', hfile'⟩ := exists_parse?_file hopening hclass hmethod
      hclosed' hlead (hfile.append_number frame.line) hlater
    rw [List.append_assoc] at hparse
    refine ⟨parsed, hparse, String.toList_inj.1 hclass', String.toList_inj.1 hmethod', ?_, ?_⟩
    · exact fun hnot => absurd ⟨_, _, rfl, rfl, start_numberSpan_eq.2 rfl⟩ hnot
    · exact fun _ => hfile'
  · -- a colon between them
    obtain ⟨parsed, hparse, hclass', hmethod', hfile', hline'⟩ := exists_parse?_place
      (n := frame.line) hopening hclass hmethod hclosed.congr hlead hfile hlater
    refine ⟨parsed, hparse, String.toList_inj.1 hclass', String.toList_inj.1 hmethod', ?_, ?_⟩
    · exact fun _ => ⟨fun _ => String.toList_inj.1 hfile', fun _ => hline'⟩
    · rintro ⟨span, span', hspan, hspan', hfollows⟩
      obtain rfl := Option.some.inj hspan
      obtain rfl := Option.some.inj hspan'
      exact absurd (start_numberSpan_eq.1 hfollows) (by simp)

/-! ### Two layouts -/

/-- A frame with a source file and a line. -/
def barFrame : StackFrame := ⟨"com.example.Foo", "Foo.java", 5, "", "", "bar", ""⟩

theorem isPath_barFrame : IsPath barFrame.className.toList :=
  .dot (s := "com".toList) (by decide)
    (.dot (s := "example".toList) (by decide) (.segment (s := "Foo".toList) (by decide)))

theorem isFileName_barFrame : IsFileName barFrame.sourceFile.toList where
  ne_nil := by decide
  chars := by simp [barFrame]
  head := by
    intro c hc
    rw [← Option.some.inj hc]
    decide

/-- No source file in front of the colon, but a place for one. -/
theorem parse?_format_standard_colon :
    ∃ captures parsed, standard.plan.find "\tat a.b(:12)".toList = some captures ∧
      (captured? captures 1).isSome = true ∧ IsPath barFrame.className.toList ∧
      IsSegment barFrame.method.toList ∧ IsFileName barFrame.sourceFile.toList ∧
      ¬NumberFollowsFile captures ∧
      standard.parse? (standard.format false "\tat a.b(:12)".toList barFrame).text = some parsed ∧
      parsed.className = "com.example.Foo" ∧ parsed.method = "bar" ∧
      parsed.sourceFile = "Foo.java" ∧ parsed.line = 5 := by
  have hfind : standard.plan.find "\tat a.b(:12)".toList =
      some [⟨4, 9, 11⟩, ⟨3, 8, 8⟩, ⟨2, 6, 7⟩, ⟨1, 4, 5⟩] :=
    find_of_stackTrace (by decide)
  have hmethod : IsSegment barFrame.method.toList := by decide
  have hparted : ¬NumberFollowsFile [⟨4, 9, 11⟩, ⟨3, 8, 8⟩, ⟨2, 6, 7⟩, ⟨1, 4, 5⟩] := by
    rintro ⟨file, number, hfile, hnumber, hfollows⟩
    obtain rfl := Option.some.inj hfile
    obtain rfl := Option.some.inj hnumber
    exact absurd hfollows (by decide)
  obtain ⟨parsed, hparse, hclass', hmethod', hplace, -⟩ :=
    parse?_format_standard hfind rfl isPath_barFrame hmethod isFileName_barFrame
  exact ⟨_, parsed, hfind, rfl, isPath_barFrame, hmethod, isFileName_barFrame, hparted, hparse,
    hclass', hmethod', (hplace hparted).1 rfl, (hplace hparted).2 rfl⟩

/-- **Without the colon neither the source file nor the line number is read back.** -/
theorem parse?_format_unparted :
    ∃ captures parsed, standard.plan.find "at a.b(12)".toList = some captures ∧
      (∀ group ∈ [1, 2, 3, 4], (captured? captures group).isSome = true) ∧
      IsPath barFrame.className.toList ∧ IsSegment barFrame.method.toList ∧
      IsFileName barFrame.sourceFile.toList ∧
      (standard.format false "at a.b(12)".toList barFrame).text =
        "at com.example.Foo.bar(Foo.java5)".toList ∧
      standard.parse? (standard.format false "at a.b(12)".toList barFrame).text = some parsed ∧
      parsed.sourceFile ≠ barFrame.sourceFile ∧ parsed.line ≠ barFrame.line := by
  have hfind : standard.plan.find "at a.b(12)".toList =
      some [⟨4, 7, 9⟩, ⟨3, 7, 7⟩, ⟨2, 5, 6⟩, ⟨1, 3, 4⟩] :=
    find_of_stackTrace (by decide)
  have htext : (standard.format false "at a.b(12)".toList barFrame).text =
      "at com.example.Foo.bar(Foo.java5)".toList := by
    rw [format, slots?_of_find hfind, standard_placeholders]
    decide +kernel
  have hfind' : standard.plan.find "at com.example.Foo.bar(Foo.java5)".toList =
      some [⟨3, 23, 32⟩, ⟨2, 19, 22⟩, ⟨1, 3, 18⟩] :=
    find_of_stackTrace (by decide +kernel)
  have hparse : standard.parse? "at com.example.Foo.bar(Foo.java5)".toList =
      some ⟨"com.example.Foo", "Foo.java5", 0, "", "", "bar", ""⟩ := by
    rw [parse?, slots?_of_find hfind', standard_placeholders]
    decide +kernel
  rw [htext]
  exact ⟨_, _, hfind, by decide, isPath_barFrame, by decide, isFileName_barFrame, rfl, hparse,
    by decide, by decide⟩

end Deobfuscation.Template
