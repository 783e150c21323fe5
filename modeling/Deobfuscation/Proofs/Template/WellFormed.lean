import Deobfuscation.Proofs.Template.GroupNumbers
import Deobfuscation.Proofs.Template.ReadBack

/-!
# Well-formed frames

The standard template has twenty-two groups in nine alternatives, and a line goes through one of
them.  So the frame of a line has no component that its alternative does not tell, and it has those
that the alternative tells whenever it matches, which read as their fragments do.  Of each
alternative it can be decided that what it may tell and what it always tells make a well-formed
frame: a class, not both a field and a method, and nothing about a member without the member.

* `StackFrame.IsWellFormed` — what is told of a place hangs together;
* `Template.Coherent`, `Template.coherent_standard` — the same of the components that an
  alternative tells, and **proved**: so it is with every alternative;
* `exists_placeholder_of_captured` — **proved**: what a group has captured reads as the fragment of
  its placeholder;
* `ToldBy`, `exists_toldBy` — **proved**: the frame of a line is told by one alternative;
* `isWellFormed_of_matchesLine` — **proved**: every frame that the standard template finds is
  well-formed.
-/

namespace Deobfuscation

open Regex

/-- What is told of a place hangs together: there is a class, of characters that a path is made of,
not both a field and a method, a type or arguments with a member alone, and a source file or a line
with a method alone. -/
structure StackFrame.IsWellFormed (frame : StackFrame) : Prop where
  named : frame.className ≠ ""
  chars : ∀ c ∈ frame.className.toList,
    Text.isBlank c = false ∧ c ∉ ['\x22', ':', '/', '(', ')']
  single : frame.field = "" ∨ frame.method = ""
  signature : frame.type ≠ "" ∨ frame.arguments ≠ "" → frame.field ≠ "" ∨ frame.method ≠ ""
  place : frame.sourceFile ≠ "" ∨ frame.line ≠ 0 → frame.method ≠ ""

namespace Template

/-! ### Alternatives -/

/-- The components that may be told and those that always are make a well-formed frame. -/
structure Coherent (possible certain : List Placeholder) : Prop where
  named : .dottedClass ∈ certain
  single : .field ∉ possible ∨ .method ∉ possible
  signature : .type ∈ possible ∨ .arguments ∈ possible → .field ∈ certain ∨ .method ∈ certain
  place : .sourceFile ∈ possible ∨ .line ∈ possible → .method ∈ certain

instance (possible certain : List Placeholder) : Decidable (Coherent possible certain) :=
  decidable_of_iff (_ ∧ _ ∧ _ ∧ _)
    ⟨fun ⟨named, single, signature, place⟩ => ⟨named, single, signature, place⟩,
      fun ⟨named, single, signature, place⟩ => ⟨named, single, signature, place⟩⟩

/-- **Each alternative tells what hangs together.** -/
theorem coherent_standard : ∀ y ∈ (Expr.alt stackTraceExpr messageExpr).branches,
    Coherent (standard.components y.groups) (standard.components y.certain) := by
  simp only [components, standard_placeholders]
  decide

/-- The groups of the standard template are those of its placeholders. -/
theorem bodies_standardExpr : standardExpr.bodies =
    standard.placeholders.zipIdx.map fun entry => (entry.2 + 1, entry.1.expr) := by
  rw [standard_placeholders]
  rfl

/-- The standard template has classes in dotted form alone. -/
theorem component_of_mem_standard : ∀ placeholder ∈ standard.placeholders,
    placeholder.component = placeholder ∧ placeholder ≠ .slashedClass := by
  rw [standard_placeholders]
  decide

/-! ### Frames told by an alternative -/

/-- The frame has no component that the alternative does not tell, and those that it always tells
read as their fragments do.  A line number is told as it is, not as it was written. -/
structure ToldBy (y : Expr) (frame : StackFrame) : Prop where
  possible : ∀ placeholder : Placeholder,
    placeholder.write false frame ≠ placeholder.write false .unknown →
      placeholder.component ∈ standard.components y.groups
  certain : ∀ placeholder ∈ standard.components y.certain, placeholder ≠ .line →
    placeholder.write false frame ∈ placeholder.expr.language

section Lines

variable {line : List Char} {captures : List Capture} {y : Expr} {frame : StackFrame}

/-- **What a group has captured reads as the fragment of its placeholder.** -/
theorem exists_placeholder_of_captured (hfind : standard.plan.find line = some captures)
    {group : Nat} {span : Span} (hspan : captured? captures group = some span) :
    ∃ i placeholder, group = 1 + i ∧ standard.placeholders[i]? = some placeholder ∧
      span.text line ∈ placeholder.expr.language := by
  rw [standard_plan] at hfind
  obtain ⟨capture, hcapture, rfl⟩ := Option.map_eq_some_iff.1 hspan
  obtain ⟨x, hx, hmatches⟩ :=
    Expr.matchesAt_of_find hfind capture (List.mem_of_find?_eq_some hcapture)
  have hgroup : capture.group = group := by simpa using List.find?_some hcapture
  rw [bodies_standardExpr] at hx
  obtain ⟨⟨placeholder, i⟩, hentry, hbody⟩ := List.mem_map.1 hx
  obtain ⟨hnumber, rfl⟩ := Prod.mk.inj hbody
  refine ⟨i, placeholder, ?_, List.mk_mem_zipIdx_iff_getElem?.1 hentry, hmatches.mem_language⟩
  rw [← hgroup, ← hnumber, Nat.add_comm]

/-- **The frame of a line is told by one alternative.** -/
theorem exists_toldBy (h : standard.matchesLine line = true) :
    ∃ frame, standard.parse? line = some frame ∧
      ∃ y ∈ (Expr.alt stackTraceExpr messageExpr).branches, ToldBy y frame := by
  obtain ⟨captures, hfind⟩ := Option.isSome_iff_exists.1 h
  obtain ⟨y, hy, hgroups, hcertain⟩ :=
    exists_branch_of_find isProductive_standardExpr standard_plan hfind
  obtain ⟨frame, hparse, hwrite⟩ := exists_parse?_of_find hfind
  refine ⟨frame, hparse, y, hy, fun placeholder hknown => ?_, fun placeholder hmem hline => ?_⟩
  · -- a slot tells the component, and its group has captured something
    rw [parse?, slots?_of_find hfind, Option.map_some] at hparse
    obtain rfl := Option.some.inj hparse
    obtain ⟨slot, hslot, hcomponent, -⟩ :=
      (exists_slot_of_frameOfSlots placeholder line _).resolve_left hknown
    obtain ⟨i, hi, hspan⟩ := (mem_slotsFrom_iff standard.placeholders).1 hslot
    refine List.mem_map.2 ⟨1 + i, hgroups _ (by rw [hspan]; rfl), ?_⟩
    rw [Nat.add_sub_cancel_left, List.getD_eq_getElem?_getD, hi]
    exact hcomponent
  · -- the group has captured something, and the component is its text
    obtain ⟨group, hgroup, hcomponent⟩ := List.mem_map.1 hmem
    obtain ⟨span, hspan⟩ := Option.isSome_iff_exists.1 (hcertain group hgroup)
    obtain ⟨i, told, rfl, hi, htext⟩ := exists_placeholder_of_captured hfind hspan
    obtain ⟨hdotted, hslashed⟩ := component_of_mem_standard told (List.mem_of_getElem? hi)
    rw [Nat.add_sub_cancel_left, List.getD_eq_getElem?_getD, hi] at hcomponent
    obtain rfl : told = placeholder := hdotted.symm.trans hcomponent
    rw [hwrite i told hi hspan ⟨fun h => absurd h hline, fun h => absurd h hslashed⟩]
    exact htext

/-! ### Well-formed frames -/

/-- No character of a path is blank or one of those that end it; a dot is neither. -/
theorem IsPath.clear {path : List Char} (h : IsPath path) :
    ∀ c ∈ path, Text.isBlank c = false ∧ c ∉ ['\x22', ':', '/', '(', ')'] := by
  intro c hc
  rcases h.chars c hc with hchar | rfl
  · simp only [isSegmentChar, Bool.not_eq_true', Bool.or_eq_false_iff] at hchar
    obtain ⟨hblank, hmarks⟩ := hchar
    refine ⟨hblank, fun hmem => ?_⟩
    have hmark : ['\x22', ':', '.', '/', '(', ')'].contains c = true :=
      List.contains_iff_mem.2 (List.Sublist.subset (by decide) hmem)
    exact Bool.false_ne_true (hmarks.symm.trans hmark)
  · decide

/-- A line that is known is not written as an unknown one. -/
theorem text_ne_of_ne_zero {n : LineNumber} (h : n ≠ 0) : n.text ≠ LineNumber.text 0 := by
  intro htext
  have hread := congrArg LineNumber.ofText? htext
  rw [LineNumber.ofText?_text, LineNumber.ofText?_text] at hread
  exact h (Option.some.inj hread)

/-- **A frame is well-formed if a coherent alternative tells it.** -/
theorem ToldBy.isWellFormed (htold : ToldBy y frame)
    (h : Coherent (standard.components y.groups) (standard.components y.certain)) :
    frame.IsWellFormed := by
  have hknown {s : String} (hs : s ≠ "") : s.toList ≠ "".toList := mt String.toList_inj.1 hs
  have hsegment {s : String} (hs : s.toList ∈ memberExpr.language) : s ≠ "" := by
    rintro rfl
    exact (isSegment_of_mem_member hs).ne_nil rfl
  have hfield (hmem : .field ∈ standard.components y.certain) : frame.field ≠ "" :=
    hsegment (htold.certain .field hmem nofun)
  have hmethod (hmem : .method ∈ standard.components y.certain) : frame.method ≠ "" :=
    hsegment (htold.certain .method hmem nofun)
  have hpath : IsPath frame.className.toList :=
    isPath_of_mem_language (htold.certain .dottedClass h.named nofun)
  refine ⟨?_, hpath.clear, ?_, fun hsignature => ?_, fun hplace => hmethod (h.place ?_)⟩
  · intro hnone
    rw [hnone] at hpath
    exact hpath.ne_nil rfl
  · refine h.single.imp (fun hnone => ?_) fun hnone => ?_
    · by_contra hsome
      exact hnone (htold.possible .field (hknown hsome))
    · by_contra hsome
      exact hnone (htold.possible .method (hknown hsome))
  · refine (h.signature ?_).imp hfield hmethod
    exact hsignature.imp (fun hsome => htold.possible .type (hknown hsome))
      fun hsome => htold.possible .arguments (hknown hsome)
  · exact hplace.imp (fun hsome => htold.possible .sourceFile (hknown hsome))
      fun hsome => htold.possible .line (text_ne_of_ne_zero hsome)

/-- **Every frame that the standard template finds is well-formed.** -/
theorem isWellFormed_of_matchesLine (h : standard.matchesLine line = true) :
    ∃ frame, standard.parse? line = some frame ∧ frame.IsWellFormed := by
  obtain ⟨frame, hparse, y, hy, htold⟩ := exists_toldBy h
  exact ⟨frame, hparse, htold.isWellFormed (coherent_standard y hy)⟩

/-- A frame of a stack trace with its source file and its line. -/
theorem isWellFormed_of_matchesLine_frame :
    standard.matchesLine "\tat a.b(C.java:12)".toList = true ∧
      StackFrame.IsWellFormed ⟨"a", "C.java", 12, "", "", "b", ""⟩ := by
  have hfind : standard.plan.find "\tat a.b(C.java:12)".toList =
      some [⟨4, 15, 17⟩, ⟨3, 8, 14⟩, ⟨2, 6, 7⟩, ⟨1, 4, 5⟩] :=
    find_of_stackTrace (by decide +kernel)
  have hmatches : standard.matchesLine "\tat a.b(C.java:12)".toList = true := by
    rw [matchesLine, hfind]
    rfl
  obtain ⟨frame, hparse, hframe⟩ := isWellFormed_of_matchesLine hmatches
  have hread : standard.parse? "\tat a.b(C.java:12)".toList =
      some ⟨"a", "C.java", 12, "", "", "b", ""⟩ := by
    rw [parse?, slots?_of_find hfind, standard_placeholders]
    decide +kernel
  obtain rfl := Option.some.inj (hparse.symm.trans hread)
  exact ⟨hmatches, hframe⟩

end Lines

end Template

end Deobfuscation
