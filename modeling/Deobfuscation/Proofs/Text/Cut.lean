import Mathlib.Data.List.Basic
import Mathlib.Data.List.TakeWhile
import Deobfuscation.SymbolMap.Grammar

/-!
# Where a text is cut

A text that is put together around a separator is cut there again, if the separator does not occur
before it; and what is put between blanks is what trimming leaves.

* `cut?_append`, `cut?_char`, `cut?_arrow` — **proved**: a leftmost cut at the first occurrence;
* `cut?_char_none`, `not_mem_of_cut?_none`, `cutLast?_none` — **proved**: no cut without an
  occurrence, and none only then;
* `cutLast?_append` — **proved**: a last cut at the last occurrence;
* `not_infix_of_cut?` — **proved**: no separator stands before the place of a cut;
* `splitOn_of_not_mem`, `splitOn_append`, `splitOn_intercalate` — **proved**: the parts between
  separators;
* `suffix_of_append_cons`, `infix_or_infix_of_append_cons`, `sides_of_infix_append_cons` —
  **proved**: on which side of a character the parts of a text lie;
* `Trimmed`, `trim_surround` — **proved**: what has no blanks at its ends is left by trimming;
* `exists_eq_trim`, `trimmed_trim` — **proved**: trimming takes away blanks, all those at the ends.
-/

namespace Deobfuscation.Text

/-! ### Cuts -/

/-- A text is cut at the first occurrence of the separator. -/
theorem cut?_append {separator : List Char} (before after : List Char) (hne : separator ≠ [])
    (h : ∀ p q, before = p ++ q → q ≠ [] → ¬ separator <+: q ++ separator ++ after) :
    cut? separator (before ++ separator ++ after) = some (before, after) := by
  induction before with
  | nil =>
    obtain ⟨c, rest, rfl⟩ := List.exists_cons_of_ne_nil hne
    have hhead : (c :: rest).isPrefixOf (c :: (rest ++ after)) = true :=
      List.isPrefixOf_iff_prefix.2 ⟨after, rfl⟩
    rw [List.nil_append, List.cons_append, cut?, if_pos hhead]
    congr 2
    show ((c :: rest) ++ after).drop (c :: rest).length = after
    exact List.drop_left
  | cons c before ih =>
    have hnot : ¬ separator.isPrefixOf (c :: (before ++ separator ++ after)) = true :=
      fun hhead => h [] (c :: before) rfl (by simp) (List.isPrefixOf_iff_prefix.1 hhead)
    have hrest := ih fun p q hsplit hq => h (c :: p) q (by rw [hsplit]; rfl) hq
    rw [List.cons_append, List.cons_append, cut?, if_neg hnot, hrest]
    rfl

theorem cut?_char {c : Char} {before : List Char} (h : c ∉ before) (after : List Char) :
    cut? [c] (before ++ c :: after) = some (before, after) := by
  have hcut := cut?_append before after (List.cons_ne_nil c []) ?_
  · rwa [List.append_assoc] at hcut
  · rintro p q rfl hq ⟨t, ht⟩
    obtain ⟨d, q, rfl⟩ := List.exists_cons_of_ne_nil hq
    have hd : c = d := (List.cons.inj ht).1
    exact h (by simp [hd])

theorem cut?_char_none {c : Char} {s : List Char} (h : c ∉ s) : cut? [c] s = none := by
  induction s with
  | nil => rfl
  | cons d s ih =>
    rw [List.mem_cons, not_or] at h
    have hnot : ¬ [c].isPrefixOf (d :: s) = true := by
      rw [List.isPrefixOf_iff_prefix, List.cons_prefix_cons]
      exact fun hhead => h.1 hhead.1
    rw [cut?, if_neg hnot, ih h.2]
    rfl

theorem not_mem_of_cut?_none {c : Char} {s : List Char} (h : cut? [c] s = none) : c ∉ s := by
  intro hmem
  obtain ⟨front, back, rfl, hfront⟩ := List.eq_append_cons_of_mem hmem
  rw [cut?_char hfront] at h
  exact absurd h (by simp)

/-- An arrow after a space is where a text without arrows is cut. -/
theorem cut?_arrow {before : List Char} (h : ¬ SymbolMap.arrow <:+: before) (after : List Char) :
    cut? SymbolMap.arrow (before ++ [' '] ++ SymbolMap.arrow ++ after) =
      some (before ++ [' '], after) := by
  refine cut?_append _ after (by decide) fun p q hsplit hq hprefix => ?_
  rcases List.append_eq_append_iff.1 hsplit with ⟨t, rfl, hq'⟩ | ⟨t, hbefore, rfl⟩
  · -- the suffix begins with the space at the latest
    cases t with
    | nil =>
      rw [List.nil_append] at hq'
      subst hq'
      simp [SymbolMap.arrow] at hprefix
    | cons d t =>
      obtain ⟨rfl, hnil⟩ := List.cons.inj hq'
      rw [List.append_eq_nil_iff.1 hnil.symm |>.2] at hq
      exact hq rfl
  · match t with
    | [] => simp [SymbolMap.arrow] at hprefix
    | [d] => simp [SymbolMap.arrow] at hprefix
    | d :: e :: t =>
      have hd : '-' = d ∧ '>' = e := by simpa [SymbolMap.arrow] using hprefix
      exact h ⟨p, t, by rw [hbefore, ← hd.1, ← hd.2, SymbolMap.arrow]; simp⟩

theorem cutLast?_none {c : Char} {s : List Char} (h : c ∉ s) : cutLast? c s = none := by
  induction s with
  | nil => rfl
  | cons d s ih =>
    rw [List.mem_cons, not_or] at h
    rw [cutLast?, ih h.2]
    exact if_neg fun heq => h.1 heq.symm

theorem not_mem_of_cutLast?_none {c : Char} {s : List Char} (h : cutLast? c s = none) :
    c ∉ s := by
  induction s with
  | nil => exact List.not_mem_nil
  | cons d s ih =>
    rw [cutLast?] at h
    split at h
    · exact absurd h (by simp)
    · rename_i hrest
      rw [List.mem_cons, not_or]
      refine ⟨?_, ih hrest⟩
      rintro rfl
      exact absurd h (by simp)

/-- A text is cut at the last occurrence of a character. -/
theorem cutLast?_append {c : Char} {after : List Char} (h : c ∉ after) (before : List Char) :
    cutLast? c (before ++ c :: after) = some (before, after) := by
  induction before with
  | nil =>
    rw [List.nil_append, cutLast?, cutLast?_none h]
    exact if_pos rfl
  | cons d before ih => rw [List.cons_append, cutLast?, ih]

/-- **There is no separator before the place where a text is cut.** -/
theorem not_infix_of_cut? {separator s before after : List Char} (hne : separator ≠ [])
    (h : cut? separator s = some (before, after)) : ¬ separator <:+: before := by
  induction s generalizing before with
  | nil =>
    rw [cut?, if_neg (by simp [hne])] at h
    exact absurd h (by simp)
  | cons c s ih =>
    rw [cut?] at h
    split at h
    · simp only [Option.some.injEq, Prod.mk.injEq] at h
      rw [← h.1]
      exact fun hinside => hne (List.infix_nil.1 hinside)
    · rename_i hhead
      obtain ⟨⟨b, a⟩, hcut, hsides⟩ := Option.map_eq_some_iff.1 h
      simp only [Prod.mk.injEq] at hsides
      obtain ⟨rfl, rfl⟩ := hsides
      rw [List.infix_cons_iff, not_or]
      refine ⟨fun hprefix => hhead (List.isPrefixOf_iff_prefix.2 ?_), ih hcut⟩
      rw [eq_of_cut? hcut, List.append_assoc, ← List.cons_append]
      exact hprefix.trans (List.prefix_append _ _)

theorem not_mem_of_cut? {c : Char} {s before after : List Char}
    (h : cut? [c] s = some (before, after)) : c ∉ before := by
  intro hmem
  obtain ⟨front, back, rfl⟩ := List.append_of_mem hmem
  exact not_infix_of_cut? (List.cons_ne_nil c []) h ⟨front, back, by simp⟩

/-- A text without separators is a single part. -/
theorem splitOn_of_not_mem {c : Char} {s : List Char} (h : c ∉ s) : splitOn c s = [s] := by
  induction s with
  | nil => rfl
  | cons d s ih =>
    rw [List.mem_cons, not_or] at h
    rw [splitOn, if_neg (Ne.symm h.1), ih h.2]

/-- What stands in front of the first separator is the first part. -/
theorem splitOn_append {c : Char} {s : List Char} (h : c ∉ s) (rest : List Char) :
    splitOn c (s ++ c :: rest) = s :: splitOn c rest := by
  induction s with
  | nil => rw [List.nil_append, splitOn, if_pos rfl]
  | cons d s ih =>
    rw [List.mem_cons, not_or] at h
    rw [List.cons_append, splitOn, if_neg (Ne.symm h.1), ih h.2]

/-- Texts without separators that are joined by them are the parts. -/
theorem splitOn_intercalate {c : Char} {parts : List (List Char)} (hne : parts ≠ [])
    (h : ∀ part ∈ parts, c ∉ part) : splitOn c (List.intercalate [c] parts) = parts := by
  induction parts with
  | nil => exact absurd rfl hne
  | cons part parts ih =>
    obtain ⟨hpart, hparts⟩ := List.forall_mem_cons.1 h
    cases parts with
    | nil => rw [List.intercalate_singleton, splitOn_of_not_mem hpart]
    | cons next parts =>
      rw [List.intercalate_cons_cons, List.append_assoc, List.singleton_append,
        splitOn_append hpart, ih (List.cons_ne_nil next parts) hparts]

/-! ### Parts of texts -/

/-- What begins with a character lies behind all that lacks it. -/
theorem suffix_of_append_cons {c : Char} {p u w v : List Char} (h : p ++ c :: u = w ++ v)
    (hc : c ∉ w) : c :: u <:+ v := by
  rcases List.append_eq_append_iff.1 h with ⟨between, rfl, hv⟩ | ⟨between, rfl, rfl⟩
  · cases between with
    | nil => exact hv ▸ List.suffix_rfl
    | cons d between =>
      -- the character would be in front
      have hd : c = d := (List.cons.inj hv).1
      exact absurd (by simp [hd]) hc
  · exact List.suffix_append between (c :: u)

/-- What lacks a character lies behind it, if it reaches to the end. -/
theorem suffix_of_suffix_append_cons {c : Char} {w l m : List Char} (h : w <:+ l ++ c :: m)
    (hc : c ∉ w) : w <:+ m := by
  rcases List.suffix_or_suffix_of_suffix h (List.suffix_append l (c :: m)) with hw | hm
  · rcases List.suffix_cons_iff.1 hw with rfl | hw
    · exact absurd List.mem_cons_self hc
    · exact hw
  · exact absurd (hm.subset List.mem_cons_self) hc

/-- What lacks a character lies on one side of it. -/
theorem infix_or_infix_of_append_cons {c : Char} {w l m : List Char} (h : w <:+: l ++ c :: m)
    (hc : c ∉ w) : w <:+: l ∨ w <:+: m := by
  obtain ⟨p, q, h⟩ := h
  rcases List.append_eq_append_iff.1 h with ⟨between, rfl, -⟩ | ⟨between, hfront, hm⟩
  · exact Or.inl ⟨p, between, rfl⟩
  · cases between with
    | nil => exact Or.inl ((List.append_nil l ▸ hfront) ▸ List.suffix_append p w).isInfix
    | cons d between =>
      obtain ⟨rfl, rfl⟩ := List.cons.inj hm
      have hbehind := suffix_of_suffix_append_cons (hfront ▸ List.suffix_append p w) hc
      exact Or.inr (hbehind.isInfix.trans (List.prefix_append between q).isInfix)

/-- What contains the only occurrence of a character has its sides in the sides of the text. -/
theorem sides_of_infix_append_cons {c : Char} {w v l m : List Char}
    (h : w ++ c :: v <:+: l ++ c :: m) (hl : c ∉ l) (hm : c ∉ m) : w <:+ l ∧ v <+: m := by
  obtain ⟨p, q, h⟩ := h
  have hsplit : l ++ c :: m = (p ++ w) ++ c :: (v ++ q) := by
    rw [← h]
    simp
  obtain ⟨rfl, -, rfl⟩ := (List.append_cons_inj_of_notMem hl hm).1 hsplit
  exact ⟨List.suffix_append p w, List.prefix_append v q⟩

/-! ### Trimming -/

/-- There is no blank at the ends of the text. -/
structure Trimmed (s : List Char) : Prop where
  head : ∀ c, s.head? = some c → isBlank c = false
  last : ∀ c, s.getLast? = some c → isBlank c = false

theorem dropWhile_of_head {s : List Char} (h : ∀ c, s.head? = some c → isBlank c = false) :
    s.dropWhile isBlank = s := by
  cases s with
  | nil => rfl
  | cons c s =>
    have hc : isBlank c = false := h c rfl
    rw [List.dropWhile_cons, hc]
    rfl

theorem Trimmed.trim {s : List Char} (h : Trimmed s) : trim s = s := by
  have hlast : ∀ c, s.reverse.head? = some c → isBlank c = false := by
    intro c hc
    rw [List.head?_reverse] at hc
    exact h.last c hc
  rw [Text.trim, trimStart, dropWhile_of_head h.head, trimEnd, dropWhile_of_head hlast,
    List.reverse_reverse]

theorem trimStart_append {lead : List Char} (h : ∀ c ∈ lead, isBlank c = true) (s : List Char) :
    trimStart (lead ++ s) = trimStart s := by
  rw [trimStart, List.dropWhile_append_of_pos h]
  rfl

theorem trimEnd_append {trail : List Char} (h : ∀ c ∈ trail, isBlank c = true) (s : List Char) :
    trimEnd (s ++ trail) = trimEnd s := by
  rw [trimEnd, List.reverse_append, List.dropWhile_append_of_pos fun c hc =>
    h c (List.mem_reverse.1 hc)]
  rfl

/-- **What is put between blanks is what trimming leaves**, if it is not empty. -/
theorem trim_surround {lead s trail : List Char} (hlead : ∀ c ∈ lead, isBlank c = true)
    (htrail : ∀ c ∈ trail, isBlank c = true) (hs : Trimmed s) (hne : s ≠ []) :
    Text.trim (lead ++ s ++ trail) = s := by
  have hhead : trimStart (s ++ trail) = s ++ trail := by
    obtain ⟨d, t, rfl⟩ := List.exists_cons_of_ne_nil hne
    exact dropWhile_of_head fun c hc => hs.head c hc
  have htrim := hs.trim
  rw [Text.trim, trimStart, dropWhile_of_head hs.head] at htrim
  rw [Text.trim, List.append_assoc, trimStart_append hlead, hhead, trimEnd_append htrail, htrim]

/-- Blanks behind a trimmed text go. -/
theorem trim_append {s trail : List Char} (htrail : ∀ c ∈ trail, isBlank c = true)
    (hs : Trimmed s) (hne : s ≠ []) : trim (s ++ trail) = s := by
  have hnone : ∀ c ∈ ([] : List Char), isBlank c = true := by simp
  exact trim_surround hnone htrail hs hne

/-- A text without blanks has none at its ends. -/
theorem trimmed_of_forall {s : List Char} (h : ∀ c ∈ s, isBlank c = false) : Trimmed s where
  head c hc := h c (List.mem_of_mem_head? hc)
  last c hc := h c (List.mem_of_getLast? hc)

/-- What trimming takes away is blank. -/
theorem exists_eq_trim (s : List Char) :
    ∃ lead trail, (∀ c ∈ lead, isBlank c = true) ∧ (∀ c ∈ trail, isBlank c = true) ∧
      s = lead ++ trim s ++ trail := by
  have hstart : s = s.takeWhile isBlank ++ trimStart s := List.takeWhile_append_dropWhile.symm
  have hend : trimStart s =
      trim s ++ ((trimStart s).reverse.takeWhile isBlank).reverse := by
    rw [trim, trimEnd, ← List.reverse_append, List.takeWhile_append_dropWhile,
      List.reverse_reverse]
  refine ⟨s.takeWhile isBlank, ((trimStart s).reverse.takeWhile isBlank).reverse,
    fun c hc => List.mem_takeWhile_imp hc,
    fun c hc => List.mem_takeWhile_imp (List.mem_reverse.1 hc), ?_⟩
  rw [List.append_assoc, ← hend, ← hstart]

theorem isInfix_trim (s : List Char) : trim s <:+: s := by
  obtain ⟨lead, trail, -, -, hs⟩ := exists_eq_trim s
  exact ⟨lead, trail, hs.symm⟩

theorem isBlank_of_head?_dropWhile {s : List Char} {c : Char}
    (h : (s.dropWhile isBlank).head? = some c) : isBlank c = false := by
  have hnot := List.head?_dropWhile_not isBlank s
  rw [h] at hnot
  exact hnot

/-- What trimming leaves is trimmed. -/
theorem trimmed_trim (s : List Char) : Trimmed (trim s) where
  head c hc := by
    obtain ⟨trail, htrail⟩ : trim s <+: trimStart s := by
      rw [trim, trimEnd, ← List.reverse_suffix, List.reverse_reverse]
      exact List.dropWhile_suffix isBlank
    refine isBlank_of_head?_dropWhile (s := s) ?_
    show (trimStart s).head? = some c
    rw [← htrail, List.head?_append, hc]
    rfl
  last c hc := by
    rw [trim, trimEnd, List.getLast?_reverse] at hc
    exact isBlank_of_head?_dropWhile hc

/-- The front of a trimmed text has no blanks in front of it. -/
theorem Trimmed.head?_trim {front back : List Char} (h : Trimmed (front ++ back))
    (hne : Text.trim front ≠ []) : (Text.trim front).head? = (front ++ back).head? := by
  obtain ⟨lead, trail, hlead, -, hfront⟩ := exists_eq_trim front
  cases lead with
  | nil =>
    obtain ⟨c, s, htrim⟩ := List.exists_cons_of_ne_nil hne
    rw [htrim] at hfront ⊢
    rw [hfront]
    rfl
  | cons c lead =>
    have hblank := hlead c List.mem_cons_self
    rw [h.head c (by rw [hfront]; rfl)] at hblank
    exact absurd hblank Bool.false_ne_true

/-- The back of a trimmed text has no blanks behind it. -/
theorem Trimmed.getLast?_trim {front back : List Char} (h : Trimmed (front ++ back))
    (hne : Text.trim back ≠ []) : (Text.trim back).getLast? = (front ++ back).getLast? := by
  obtain ⟨lead, trail, -, htrail, hback⟩ := exists_eq_trim back
  rcases List.eq_nil_or_concat trail with rfl | ⟨trail, c, rfl⟩
  · rw [List.append_nil] at hback
    rw [hback, ← List.append_assoc, List.getLast?_append_of_ne_nil _ hne, ← hback]
  · have hblank := htrail c (by simp)
    rw [h.last c (by rw [hback]; simp)] at hblank
    exact absurd hblank Bool.false_ne_true
end Deobfuscation.Text
