/-!
# Cutting a text at a separator

A line of a symbol map is taken apart by cuts: the text before a separator and the text after
it.  The leftmost occurrence counts, except where a name is parted from its qualifier at its
last dot.

* `cut?` — both sides of the leftmost occurrence of a separator;
* `cutLast?` — both sides of the last occurrence of a character;
* `splitOn` — all the parts between the occurrences of a character;
* `eq_of_cut?`, `eq_of_cutLast?` — **proved**: the two sides and the separator are the text.
-/

namespace Deobfuscation.Text

/-- The texts before and after the leftmost occurrence of `separator`. -/
def cut? (separator : List Char) : List Char → Option (List Char × List Char)
  | [] => if separator.isEmpty then some ([], []) else none
  | c :: s =>
    if separator.isPrefixOf (c :: s) then some ([], (c :: s).drop separator.length)
    else (cut? separator s).map fun sides => (c :: sides.1, sides.2)

/-- The texts before and after the last occurrence of the character `separator`. -/
def cutLast? (separator : Char) : List Char → Option (List Char × List Char)
  | [] => none
  | c :: s =>
    match cutLast? separator s with
    | some (before, after) => some (c :: before, after)
    | none => if c = separator then some ([], s) else none

/-- The parts between the occurrences of `separator`, one more than there are occurrences. -/
def splitOn (separator : Char) : List Char → List (List Char)
  | [] => [[]]
  | c :: s =>
    if c = separator then [] :: splitOn separator s
    else
      match splitOn separator s with
      | [] => [[c]]
      | part :: parts => (c :: part) :: parts

/-! ### The sides of a cut -/

/-- **The sides of a leftmost cut and the separator between them are the text.** -/
theorem eq_of_cut? {separator s before after : List Char}
    (h : cut? separator s = some (before, after)) : s = before ++ separator ++ after := by
  induction s generalizing before with
  | nil =>
    cases separator with
    | nil => simp [cut?] at h; simp [h]
    | cons c t => simp [cut?] at h
  | cons c s ih =>
    rw [cut?] at h
    split at h
    · rename_i hhead
      obtain ⟨rest, hrest⟩ := List.isPrefixOf_iff_prefix.1 hhead
      simp only [Option.some.injEq, Prod.mk.injEq] at h
      obtain ⟨rfl, rfl⟩ := h
      simp [← hrest]
    · simp only [Option.map_eq_some_iff, Prod.mk.injEq] at h
      obtain ⟨⟨b, a⟩, hcut, rfl, rfl⟩ := h
      simp [ih hcut]

/-- **The sides of a last cut and the separator between them are the text, and the separator
does not occur after it.** -/
theorem eq_of_cutLast? {separator : Char} {s before after : List Char}
    (h : cutLast? separator s = some (before, after)) :
    s = before ++ separator :: after ∧ separator ∉ after := by
  have absent : ∀ t : List Char, cutLast? separator t = none → separator ∉ t := by
    intro t
    induction t with
    | nil => simp
    | cons c t ih =>
      intro ht
      rw [cutLast?] at ht
      split at ht
      · simp at ht
      · rename_i hnone
        split at ht
        · simp at ht
        · rename_i hc
          simp only [List.mem_cons, not_or]
          exact ⟨fun heq => hc heq.symm, ih hnone⟩
  induction s generalizing before with
  | nil => simp [cutLast?] at h
  | cons c s ih =>
    rw [cutLast?] at h
    split at h
    · rename_i b a hcut
      simp only [Option.some.injEq, Prod.mk.injEq] at h
      obtain ⟨rfl, rfl⟩ := h
      obtain ⟨hs, hnot⟩ := ih hcut
      exact ⟨by simp [hs], hnot⟩
    · rename_i hnone
      split at h
      · rename_i hc
        simp only [Option.some.injEq, Prod.mk.injEq] at h
        obtain ⟨rfl, rfl⟩ := h
        exact ⟨by simp [hc], absent _ hnone⟩
      · simp at h

end Deobfuscation.Text
