import Deobfuscation.Proofs.Template.Filling

/-!
# Stretches that are carried along

Where slots of a line are replaced, everything else is moved but not changed.  So a stretch of the
line that is apart from all these slots has its place in the new line too, apart from all that is
written there, and a stretch of the new line that is apart from what is written has come from a
place in the old one.  Stretches keep their order on the way.

* `Span.Apart`, `InOrder`, `Carried` — stretches without a common character, stretches one after
  the other, and the places of stretches in another text;
* `carried_of_outside` — **proved**: between texts with the same pieces outside of some stretches,
  stretches apart from these are carried along;
* `Replaces.carried`, `Replaces.origins` — **proved**: so it is from a line into the line that is
  filled, and back.
-/

namespace Deobfuscation

namespace Regex.Span

/-- One of two stretches ends before the other begins. -/
def Apart (a b : Span) : Prop := a.stop ≤ b.start ∨ b.stop ≤ a.start

/-- Stretches that do not overlap are apart. -/
theorem overlaps_eq_false_iff {a b : Span} : a.overlaps b = false ↔ a.Apart b := by
  simp only [overlaps, Apart, Bool.and_eq_false_iff, decide_eq_false_iff_not]
  omega

/-- The stretch at the same distance from another position. -/
def moved (p q : Nat) (span : Span) : Span := ⟨q + (span.start - p), q + (span.stop - p)⟩

/-- A stretch of a piece is a stretch of the text. -/
theorem text_text (span piece : Span) (s : List Char) (hstart : piece.start ≤ span.start)
    (hstop : span.stop ≤ piece.stop) :
    Span.text ⟨span.start - piece.start, span.stop - piece.start⟩ (piece.text s) =
      span.text s := by
  have hcount : span.stop - piece.start - (span.start - piece.start) = span.stop - span.start := by
    omega
  have hleft : min (span.stop - span.start)
      (piece.stop - piece.start - (span.start - piece.start)) = span.stop - span.start := by
    omega
  simp only [text]
  rw [List.drop_take, List.drop_drop, List.take_take, Nat.add_sub_cancel' hstart, hcount, hleft]

theorem length_text {span : Span} {s : List Char} (h : span.Within s.length) :
    (span.text s).length = span.stop - span.start := by
  obtain ⟨hstart, hstop⟩ := h
  rw [text, List.length_take, List.length_drop]
  omega

end Regex.Span

open Regex (Span)

/-! ### Stretches in order -/

/-- Stretches of a text lie one after the other, from a position on. -/
structure InOrder (position : Nat) (s : List Char) (spans : List Span) : Prop where
  within : ∀ span ∈ spans, position ≤ span.start ∧ span.Within s.length
  ordered : spans.Pairwise fun a b => a.stop ≤ b.start

/-- The stretches `there` of a text hold, in the same order, what the stretches `here` of another
text hold. -/
structure Carried (s : List Char) (here : List Span) (t : List Char) (there : List Span) :
    Prop where
  inOrder : InOrder 0 t there
  same : there.map (·.text t) = here.map (·.text s)

section Order

variable {s t : List Char} {p q : Nat}

theorem InOrder.tail {span : Span} {spans : List Span} (h : InOrder p s (span :: spans)) :
    InOrder span.stop s spans where
  within other hmem :=
    ⟨List.rel_of_pairwise_cons h.ordered hmem, (h.within other (List.mem_cons_of_mem span hmem)).2⟩
  ordered := h.ordered.of_cons

/-- Stretches that are apart from another lie before it or after it. -/
theorem InOrder.exists_append {marks : List Span} (h : InOrder p s marks) {span : Span}
    (hapart : ∀ mark ∈ marks, mark.Apart span) :
    ∃ before after, marks = before ++ after ∧ (∀ mark ∈ before, mark.stop ≤ span.start) ∧
      ∀ mark ∈ after, span.stop ≤ mark.start := by
  induction marks generalizing p with
  | nil => exact ⟨[], [], rfl, by simp, by simp⟩
  | cons mark marks ih =>
    obtain ⟨-, hmark, -⟩ := h.within mark List.mem_cons_self
    rcases hapart mark List.mem_cons_self with hbefore | hafter
    · obtain ⟨before, after, rfl, hless, hmore⟩ :=
        ih h.tail fun other hmem => hapart other (List.mem_cons_of_mem mark hmem)
      refine ⟨mark :: before, after, rfl, ?_, hmore⟩
      exact List.forall_mem_cons.2 ⟨hbefore, hless⟩
    · -- the first stretch lies after it, and so do the others
      refine ⟨[], mark :: marks, rfl, by simp, List.forall_mem_cons.2 ⟨hafter, ?_⟩⟩
      intro other hmem
      have hlater := (h.tail.within other hmem).1
      omega

/-- Stretches of one piece are carried to an equal piece. -/
theorem InOrder.map_moved {marks : List Span} (h : InOrder p s marks) {e e' : Nat}
    (hs : Span.Within s.length ⟨p, e⟩) (ht : Span.Within t.length ⟨q, e'⟩)
    (hpiece : Span.text ⟨p, e⟩ s = Span.text ⟨q, e'⟩ t) (hend : ∀ mark ∈ marks, mark.stop ≤ e) :
    InOrder q t (marks.map (Span.moved p q)) ∧
      (marks.map (Span.moved p q)).map (·.text t) = marks.map (·.text s) ∧
      ∀ mark ∈ marks.map (Span.moved p q), mark.stop ≤ e' := by
  have hlength := congrArg List.length hpiece
  rw [Span.length_text hs, Span.length_text ht] at hlength
  dsimp only at hlength
  obtain ⟨hpe, -⟩ : p ≤ e ∧ e ≤ s.length := hs
  obtain ⟨hqe, he'⟩ : q ≤ e' ∧ e' ≤ t.length := ht
  have hstops : ∀ mark ∈ marks, (mark.moved p q).stop ≤ e' := by
    intro mark hmem
    have := hend mark hmem
    show q + (mark.stop - p) ≤ e'
    omega
  refine ⟨⟨?_, ?_⟩, ?_, by simpa using hstops⟩
  · intro span hspan
    obtain ⟨mark, hmem, rfl⟩ := List.mem_map.1 hspan
    obtain ⟨hstart, hmark, -⟩ := h.within mark hmem
    have hstop := hstops mark hmem
    refine ⟨Nat.le_add_right q _, ?_, Nat.le_trans hstop he'⟩
    show q + (mark.start - p) ≤ q + (mark.stop - p)
    omega
  · rw [List.pairwise_map]
    refine h.ordered.imp fun {a b} hab => ?_
    show q + (a.stop - p) ≤ q + (b.start - p)
    omega
  · rw [List.map_map]
    refine List.map_congr_left fun mark hmem => ?_
    have hthere : Span.text ⟨mark.start - p, mark.stop - p⟩ (Span.text ⟨q, e'⟩ t) =
        (mark.moved p q).text t := by
      have htext := Span.text_text (mark.moved p q) ⟨q, e'⟩ t
        (Nat.le_add_right q _) (hstops mark hmem)
      rw [← htext]
      simp only [Span.moved, Nat.add_sub_cancel_left]
    show (mark.moved p q).text t = mark.text s
    rw [← hthere, ← hpiece]
    exact Span.text_text mark ⟨p, e⟩ s (h.within mark hmem).1 (hend mark hmem)

end Order

/-! ### Carrying stretches along -/

/-- **Stretches apart from those that differ are carried from a text to another**, if the texts
have the same pieces outside of these. -/
theorem carried_of_outside {s t : List Char} {old new : List Span} {p q : Nat}
    (hlength : old.length = new.length) (hp : p ≤ s.length) (hq : q ≤ t.length)
    (hold : InOrder p s old) (hnew : InOrder q t new)
    (houtside : outside s p old = outside t q new) {marks : List Span} (hmarks : InOrder p s marks)
    (hapart : ∀ mark ∈ marks, ∀ span ∈ old, mark.Apart span) :
    ∃ there, InOrder q t there ∧ there.map (·.text t) = marks.map (·.text s) ∧
      ∀ mark ∈ there, ∀ span ∈ new, mark.Apart span := by
  induction old generalizing new p q marks with
  | nil =>
    obtain rfl : new = [] := List.length_eq_zero_iff.1 hlength.symm
    have hrest : s.drop p = t.drop q := by simpa [outside] using houtside
    -- the last piece reaches to the end of the text
    have hpiece : Span.text ⟨p, s.length⟩ s = Span.text ⟨q, t.length⟩ t := by
      have hall : ∀ (u : List Char) (k : Nat), Span.text ⟨k, u.length⟩ u = u.drop k :=
        fun u k => List.take_of_length_le (by
          show (u.drop k).length ≤ u.length - k
          exact Nat.le_of_eq List.length_drop)
      rw [hall, hall, hrest]
    obtain ⟨hthere, hsame, -⟩ := hmarks.map_moved ⟨hp, Nat.le_refl _⟩ ⟨hq, Nat.le_refl _⟩ hpiece
      fun mark hmem => (hmarks.within mark hmem).2.2
    exact ⟨_, hthere, hsame, by simp⟩
  | cons a old ih =>
    obtain ⟨b, new, rfl⟩ := List.exists_cons_of_length_pos (l := new) (by
      rw [← hlength]
      simp)
    rw [outside, outside] at houtside
    obtain ⟨hpiece, hrest⟩ := List.cons.inj houtside
    obtain ⟨ha, hawithin⟩ := hold.within a List.mem_cons_self
    obtain ⟨hb, hbwithin⟩ := hnew.within b List.mem_cons_self
    obtain ⟨before, after, rfl, hbefore, hafter⟩ :=
      hmarks.exists_append fun mark hmem => hapart mark hmem a List.mem_cons_self
    -- the stretches in front of the first pair are moved with the piece that they lie in
    have hfront : InOrder p s before :=
      ⟨fun mark hmem => hmarks.within mark (List.mem_append_left after hmem),
        (List.pairwise_append.1 hmarks.ordered).1⟩
    obtain ⟨hmoved, hmovedSame, hmovedStop⟩ := hfront.map_moved
      ⟨ha, Nat.le_trans hawithin.1 hawithin.2⟩ ⟨hb, Nat.le_trans hbwithin.1 hbwithin.2⟩ hpiece
      hbefore
    -- those behind it are left to the induction
    have hback : InOrder a.stop s after :=
      ⟨fun mark hmem => ⟨hafter mark hmem,
        (hmarks.within mark (List.mem_append_right before hmem)).2⟩,
        (List.pairwise_append.1 hmarks.ordered).2.1⟩
    obtain ⟨there, hthere, hsame, hthereApart⟩ := ih (Nat.succ.inj hlength) hawithin.2 hbwithin.2
      hold.tail hnew.tail hrest hback fun mark hmem span hspan =>
        hapart mark (List.mem_append_right before hmem) span (List.mem_cons_of_mem a hspan)
    refine ⟨before.map (Span.moved p q) ++ there, ⟨?_, ?_⟩, ?_, ?_⟩
    · intro mark hmem
      rcases List.mem_append.1 hmem with hmem | hmem
      · exact hmoved.within mark hmem
      · obtain ⟨hstart, hwithin⟩ := hthere.within mark hmem
        exact ⟨Nat.le_trans hb (Nat.le_trans hbwithin.1 hstart), hwithin⟩
    · refine List.pairwise_append.2 ⟨hmoved.ordered, hthere.ordered, fun m hm n hn => ?_⟩
      have hstop := hmovedStop m hm
      have hstart := (hthere.within n hn).1
      exact Nat.le_trans hstop (Nat.le_trans hbwithin.1 hstart)
    · rw [List.map_append, List.map_append, hmovedSame, hsame]
    · intro mark hmem span hspan
      rcases List.mem_append.1 hmem with hmem | hmem
      · have hstop := hmovedStop mark hmem
        rcases List.mem_cons.1 hspan with rfl | hspan
        · exact Or.inl hstop
        · have hlater := (hnew.tail.within span hspan).1
          exact Or.inl (Nat.le_trans hstop (Nat.le_trans hbwithin.1 hlater))
      · rcases List.mem_cons.1 hspan with rfl | hspan
        · exact Or.inr (hthere.within mark hmem).1
        · exact hthereApart mark hmem span hspan

namespace Replaces

variable {write : Placeholder → List Char} {line text : List Char} {slots used : List Slot}
  {spans : List Span} {position offset : Nat}

theorem inOrder_spans (h : Replaces write line slots used position text spans offset) :
    InOrder offset text spans :=
  ⟨h.spans_within, h.spans_ordered⟩

theorem inOrder_used (h : Replaces write line slots used position text spans offset) :
    InOrder position line (used.map Slot.span) where
  within := by
    simpa only [List.forall_mem_map] using h.used_within
  ordered := List.pairwise_map.2 h.used_ordered

/-- **Stretches apart from the slots that are replaced are carried into the filled line.** -/
theorem carried (h : Replaces write line slots used 0 text spans 0) {marks : List Span}
    (hmarks : InOrder 0 line marks) (hapart : ∀ mark ∈ marks, ∀ slot ∈ used, mark.Apart slot.span) :
    ∃ there, Carried line marks text there ∧ ∀ mark ∈ there, ∀ span ∈ spans, mark.Apart span := by
  have hlength : (used.map Slot.span).length = spans.length := by
    rw [List.length_map, h.length_spans]
  obtain ⟨there, hthere, hsame, hout⟩ := carried_of_outside hlength (Nat.zero_le _) (Nat.zero_le _)
    h.inOrder_used h.inOrder_spans h.kept.symm hmarks (by simpa using hapart)
  exact ⟨there, ⟨hthere, hsame⟩, hout⟩

/-- **Stretches apart from what is written come from the line**, from outside of the slots that
are replaced. -/
theorem origins (h : Replaces write line slots used 0 text spans 0) {marks : List Span}
    (hmarks : InOrder 0 text marks) (hapart : ∀ mark ∈ marks, ∀ span ∈ spans, mark.Apart span) :
    ∃ origins, Carried text marks line origins ∧
      ∀ mark ∈ origins, ∀ slot ∈ used, mark.Apart slot.span := by
  have hlength : spans.length = (used.map Slot.span).length := by
    rw [List.length_map, h.length_spans]
  obtain ⟨origins, horigins, hsame, hout⟩ := carried_of_outside hlength (Nat.zero_le _)
    (Nat.zero_le _) h.inOrder_spans h.inOrder_used h.kept hmarks hapart
  exact ⟨origins, ⟨horigins, hsame⟩, by simpa using hout⟩

end Replaces

end Deobfuscation
