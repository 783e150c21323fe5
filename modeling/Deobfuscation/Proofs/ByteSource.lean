import Deobfuscation.ByteSource
import Deobfuscation.Proofs.Text.Cut
import Deobfuscation.Proofs.Utf8

/-!
# The lines of a text as bytes

The byte that closes a line is the newline of UTF-8, so a text and its bytes have the same lines.

* `closedLines` — lines, each with the newline that closes it;
* `splitAfter_append_cons` — **proved**: a line that is closed is split off;
* `lines_encode` — **proved**: the bytes of closed lines are split into the bytes of each;
* `exists_body_of_mem_splitAfter` — **proved**: a line has its end mark at its end, if anywhere;
* `newline_not_mem_trim` — **proved**: so a trimmed line has no newline.
-/

namespace Deobfuscation.ByteSource

/-- Lines, each with the newline that closes it. -/
def closedLines (lines : List (List Char)) : List Char := lines.flatMap (· ++ ['\n'])

/-- A line that is closed is split off. -/
theorem splitAfter_append_cons {α : Type} [BEq α] [LawfulBEq α] {mark : α} {line : List α}
    (h : mark ∉ line) (rest : List α) :
    Text.splitAfter mark (line ++ mark :: rest) =
      (line ++ [mark]) :: Text.splitAfter mark rest := by
  induction line with
  | nil =>
    rw [List.nil_append, Text.splitAfter_cons, if_pos (beq_self_eq_true mark)]
    rfl
  | cons c line ih =>
    rw [List.mem_cons, not_or] at h
    have hc : ¬(c == mark) = true := fun heq => h.1 (beq_iff_eq.1 heq).symm
    rw [List.cons_append, Text.splitAfter_cons, if_neg hc, ih h.2]
    rfl

/-- **The bytes of closed lines are split into the bytes of each.** -/
theorem lines_encode {lines : List (List Char)} (h : ∀ line ∈ lines, '\n' ∉ line) :
    (ofBytes (Utf8.encode (closedLines lines))).lines =
      lines.map fun line => Utf8.encode (line ++ ['\n']) := by
  have hnewline : Utf8.encode ['\n'] = [lineFeed] := by decide
  rw [lines_ofBytes]
  induction lines with
  | nil => rfl
  | cons line lines ih =>
    have hline : lineFeed ∉ Utf8.encode line := by
      rw [lineFeed, Utf8.newline_mem_encode_iff]
      exact h line List.mem_cons_self
    have hrest := ih fun other hmem => h other (List.mem_cons_of_mem line hmem)
    have hsplit : Utf8.encode (closedLines (line :: lines)) =
        Utf8.encode line ++ lineFeed :: Utf8.encode (closedLines lines) := by
      rw [closedLines, List.flatMap_cons, Utf8.encode_append, Utf8.encode_append, hnewline,
        List.append_assoc]
      rfl
    rw [hsplit, splitAfter_append_cons hline, hrest, List.map_cons, Utf8.encode_append, hnewline]

/-! ### The bytes of a line -/

/-- A line that is split off has its end mark at the end, if anywhere. -/
theorem exists_body_of_mem_splitAfter {α : Type} [BEq α] [LawfulBEq α] {mark : α} (s : List α) :
    ∀ line ∈ Text.splitAfter mark s,
      ∃ body, mark ∉ body ∧ (line = body ∨ line = body ++ [mark]) := by
  induction s with
  | nil => exact fun line h => absurd h List.not_mem_nil
  | cons c s ih =>
    intro line h
    rw [Text.splitAfter_cons] at h
    by_cases hc : c = mark
    · rw [if_pos (beq_iff_eq.2 hc), List.mem_cons] at h
      rcases h with rfl | hlater
      · exact ⟨[], List.not_mem_nil, Or.inr (by rw [hc]; rfl)⟩
      · exact ih line hlater
    · rw [if_neg (mt beq_iff_eq.1 hc)] at h
      have hmark : ∀ {body : List α}, mark ∉ body → mark ∉ c :: body := by
        intro body hbody
        rw [List.mem_cons, not_or]
        exact ⟨Ne.symm hc, hbody⟩
      cases hlines : Text.splitAfter mark s with
      | nil =>
        rw [hlines] at h
        obtain rfl := List.mem_singleton.1 h
        exact ⟨[c], hmark List.not_mem_nil, Or.inl rfl⟩
      | cons first lines =>
        rw [hlines] at h ih
        rcases List.mem_cons.1 h with rfl | hlater
        · -- the character joins the first line
          obtain ⟨body, hbody, rfl | rfl⟩ := ih first List.mem_cons_self
          · exact ⟨c :: first, hmark hbody, Or.inl rfl⟩
          · exact ⟨c :: body, hmark hbody, Or.inr rfl⟩
        · exact ih line (List.mem_cons_of_mem first hlater)

theorem mem_splitAfter_of_mem_lines {source : ByteSource} {line : List UInt8}
    (h : line ∈ source.lines) : line ∈ Text.splitAfter lineFeed source.bytes := by
  unfold lines at h
  dsimp only at h
  split at h
  · exact h
  · exact (List.mem_filter.1 h).1

/-- **What is left of a line by trimming has no newline.** -/
theorem newline_not_mem_trim {source : ByteSource} {line : List UInt8} {s : List Char}
    (hline : line ∈ source.lines) (h : Utf8.decode line = .ok s) : '\n' ∉ Text.trim s := by
  intro hmem
  obtain ⟨body, hbody, rfl | rfl⟩ :=
    exists_body_of_mem_splitAfter source.bytes line (mem_splitAfter_of_mem_lines hline)
  · exact hbody (Utf8.newline_mem_of_decode h ((Text.isInfix_trim s).subset hmem))
  · obtain ⟨t, ht, rfl⟩ := Utf8.exists_append_newline_of_decode h
    have hnone : '\n' ∉ t := fun hin => hbody (Utf8.newline_mem_of_decode ht hin)
    -- the only newline is at the end of the text, where trimming leaves no blank
    obtain ⟨front, back, hsplit⟩ := List.append_of_mem hmem
    obtain ⟨lead, trail, hall⟩ := Text.isInfix_trim (t ++ ['\n'])
    have htext : t ++ ['\n'] = (lead ++ front) ++ '\n' :: (back ++ trail) := by
      rw [← hall, hsplit]
      simp
    have hend := ((List.append_cons_inj_of_notMem hnone List.not_mem_nil).1 htext).2.2
    obtain rfl : back = [] := (List.append_eq_nil_iff.1 hend.symm).1
    have hblank := (Text.trimmed_trim (t ++ ['\n'])).last '\n' (by rw [hsplit]; simp)
    revert hblank
    decide

end Deobfuscation.ByteSource
