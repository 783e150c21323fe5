import Deobfuscation.Proofs.Template.ExceptionLine
import Deobfuscation.Proofs.Template.FrameLine

/-!
# Lines without frames

Before all else the standard template looks for the frame of a stack trace, which begins at the word
`at` in front of a blank.  The letters may well end a name or stand in a message; only as a word of
their own they begin a frame.  Whether they do is told from the texts that a line is put together
from, and of each join only the last word in front of it matters.

* `EndsInWord` — a text ends in a word;
* `Frameless` — a text in which no frame begins;
* `Frameless.append_cons`, `Frameless.append_mark` — **proved**: texts put together at a character,
  which is a blank only where the first text does not end in `at`;
* `frameless_of_not_isBlank`, `frameless_of_not_hasWord` — **proved**: texts without blanks and
  texts without the word;
* `isOpening_of_frameless` — **proved**: behind a text without frames the word begins the first one.
-/

namespace Deobfuscation.Template

open Regex
open Text (suffix_of_suffix_append_cons)

/-- A text ends in a word, with no character of a word in front of it. -/
def EndsInWord (word s : List Char) : Prop :=
  ∃ before, s = before ++ word ∧ before.getLast?.any Text.isWord = false

/-- What does not end in the letters of a word does not end in the word. -/
theorem not_endsInWord_of_not_suffix {word s : List Char} (h : ¬word <:+ s) :
    ¬EndsInWord word s := by
  rintro ⟨before, rfl, -⟩
  exact h (List.suffix_append before word)

/-- What ends in `at` in front of a blank is a longer word. -/
def Frameless (s : List Char) : Prop :=
  ∀ before c after, s = before ++ "at".toList ++ c :: after → Text.isBlank c = true →
    before.getLast?.any Text.isWord = true

theorem isBlank_of_isSegmentChar {c : Char} (h : isSegmentChar c = true) :
    Text.isBlank c = false := by
  rw [isSegmentChar, Bool.not_eq_true', Bool.or_eq_false_iff] at h
  exact h.1

/-- Texts without blanks have no frame in them. -/
theorem frameless_of_not_isBlank {s : List Char} (h : ∀ c ∈ s, Text.isBlank c = false) :
    Frameless s := by
  rintro before c after rfl hblank
  exact absurd ((h c (by simp)).symm.trans hblank) Bool.false_ne_true

/-- Texts without the word have no frame in them. -/
theorem frameless_of_not_hasWord {s : List Char} (h : ¬HasWord "at".toList s) : Frameless s := by
  intro before c after hsplit hblank
  by_contra hbefore
  exact h ⟨before, c :: after, hsplit, Bool.eq_false_iff.2 hbefore, isWord_of_isBlank hblank⟩

theorem frameless_of_not_substring {s : List Char} (h : ¬"at".toList <:+: s) : Frameless s :=
  frameless_of_not_hasWord (not_hasWord_of_not_substring h)

/-- **Texts without frames are put together**: at a character that is none of the letters, and at a
blank only if the first text does not end in the word. -/
theorem Frameless.append_cons {s t : List Char} {d : Char} (hs : Frameless s) (ht : Frameless t)
    (hd : d ∉ "at".toList) (hend : Text.isBlank d = true → ¬EndsInWord "at".toList s) :
    Frameless (s ++ d :: t) := by
  intro before c after hsplit hblank
  -- where the letters end the first text, the character behind them is the one in between
  have hjoin : s = before ++ "at".toList → d = c → before.getLast?.any Text.isWord = true := by
    rintro hs rfl
    by_contra hbefore
    exact hend hblank ⟨before, hs, Bool.eq_false_iff.2 hbefore⟩
  rcases List.append_eq_append_iff.1 hsplit with ⟨between, hfront, hback⟩ | ⟨between, hfront, hback⟩
  · cases between with
    | nil => exact hjoin (by rw [hfront, List.append_nil]) (List.cons.inj hback).1
    | cons e between =>
      -- the letters stand in the second text
      obtain ⟨rfl, htail⟩ := List.cons.inj hback
      obtain ⟨start, rfl⟩ :=
        suffix_of_suffix_append_cons (hfront ▸ List.suffix_append before "at".toList) hd
      have hletters : before ++ "at".toList = s ++ d :: start ++ "at".toList := by
        rw [hfront, List.append_assoc, List.cons_append]
      have hbefore : before = s ++ d :: start := List.append_cancel_right hletters
      have hstart := ht start c after htail hblank
      cases hlast : start.getLast? with
      | none =>
        rw [hlast] at hstart
        exact absurd hstart Bool.false_ne_true
      | some last =>
        rw [hlast] at hstart
        rw [hbefore, List.getLast?_append, List.getLast?_cons, hlast]
        exact hstart
  · cases between with
    | nil => exact hjoin (by rw [hfront, List.append_nil]) (List.cons.inj hback).1.symm
    | cons e between =>
      obtain ⟨rfl, -⟩ := List.cons.inj hback
      exact hs before c between hfront hblank

/-- **At a mark, which is neither a letter of the word nor a blank, any texts without frames are put
together.** -/
theorem Frameless.append_mark {s t : List Char} {d : Char} (hs : Frameless s) (ht : Frameless t)
    (hd : d ∉ "at".toList) (hblank : Text.isBlank d = false) : Frameless (s ++ d :: t) :=
  hs.append_cons ht hd fun h => absurd (hblank.symm.trans h) Bool.false_ne_true

/-- A space in front brings no frame. -/
theorem Frameless.cons_space {s : List Char} (h : Frameless s) : Frameless (' ' :: s) := by
  have hnil : Frameless [] := frameless_of_not_substring (by decide)
  exact hnil.append_cons h (by decide) fun _ => not_endsInWord_of_not_suffix (by decide)

/-- No blank is in a path, so no frame is. -/
theorem IsPath.frameless {path : List Char} (h : IsPath path) : Frameless path := by
  refine frameless_of_not_isBlank fun c hc => ?_
  rcases h.chars c hc with hsegment | rfl
  · exact isBlank_of_isSegmentChar hsegment
  · decide

/-! ### The first frame -/

/-- **Where the word stands behind a text without frames, the first one begins.** -/
theorem isOpening_of_frameless {before blanks : List Char} (hline : '\n' ∉ before)
    (hword : before.getLast?.any Text.isWord = false) (hgap : IsGap blanks)
    (hframes : Frameless (before ++ "at".toList)) : IsOpening before blanks where
  line c hc := contains_lineSet.2 fun heq => hline (heq ▸ hc)
  word := by
    show WordPlace.boundary.holds (before.getLast?.any Text.isWord) _ = true
    rw [hword]
    decide
  gap := hgap
  first p q more hsplit hq := by
    rintro ⟨hstart, gap, path, member, tail, hgap', -, -, htext⟩
    obtain ⟨b, gap, rfl⟩ := List.exists_cons_of_ne_nil hgap'.1
    have hb : Text.isBlank b = true := hgap'.2 b List.mem_cons_self
    -- such a frame would have its first blank in front of the end of the word
    have hwhole : p ++ "at".toList ++ [b] <+: before ++ "at".toList ++ (blanks ++ more) := by
      refine ⟨gap ++ (path ++ '.' :: (member ++ tail)), ?_⟩
      rw [hsplit, List.append_assoc p q, List.append_assoc p (q ++ "at".toList),
        List.append_assoc q, htext]
      simp
    have hlength : (p ++ "at".toList ++ [b]).length ≤ (before ++ "at".toList).length := by
      have hpos := List.length_pos_iff.2 hq
      simp only [hsplit, List.length_append, List.length_cons, List.length_nil]
      omega
    obtain ⟨after, hafter⟩ :=
      List.prefix_of_prefix_length_le hwhole (List.prefix_append _ _) hlength
    have hinside := hframes p b after (by rw [← hafter]; simp) hb
    have hstarts : WordPlace.boundary.holds (p.getLast?.any Text.isWord) true = true := hstart
    rw [hinside] at hstarts
    exact absurd hstarts (by decide)

end Deobfuscation.Template
