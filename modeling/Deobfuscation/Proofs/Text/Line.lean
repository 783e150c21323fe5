import Deobfuscation.Proofs.ByteSource

/-!
# A text as its lines

The lines of a text are told by the text alone: it is the bodies of its lines, each followed by its
terminator.  A body has no newline, a carriage return in front of a newline belongs to the
terminator, and only the last line may be without one.

* `lines_induction` — induction over a sequence line by line;
* `InLines` — a text as bodies and their terminators;
* `splitAfter_append` — **proved**: a sequence that ends in an end mark is split on its own;
* `withoutLine`, `splitAfter_withoutLine` — a sequence without one of its lines, and **proved**: its
  lines are the others;
* `inLines_splitAfter`, `InLines.eq_splitAfter` — **proved**: every text is in lines, in one way.
-/

namespace Deobfuscation.Text

/-! ### Line by line -/

/-- What follows an end mark is empty or ends in one just if the whole does. -/
theorem closed_append_cons {α : Type} {mark : α} {body rest : List α} :
    (body ++ mark :: rest = [] ∨ (body ++ mark :: rest).getLast? = some mark) ↔
      (rest = [] ∨ rest.getLast? = some mark) := by
  rw [List.getLast?_append, List.getLast?_cons]
  cases hlast : rest.getLast? with
  | none => simp [List.getLast?_eq_none_iff.1 hlast]
  | some c =>
    have hne : rest ≠ [] := fun h => by simp [h] at hlast
    simp [hne]

section Sequences

variable {α : Type} [BEq α] [LawfulBEq α] {mark : α}

/-- Induction over a sequence line by line: the last line may be open. -/
theorem lines_induction {motive : List α → Prop} (mark : α) (nil : motive [])
    (opened : ∀ body, body ≠ [] → mark ∉ body → motive body)
    (closed : ∀ body rest, mark ∉ body → motive rest → motive (body ++ mark :: rest))
    (s : List α) : motive s := by
  induction hlength : s.length using Nat.strongRecOn generalizing s with
  | ind n ih =>
    by_cases hmem : mark ∈ s
    · obtain ⟨body, rest, rfl, hbody⟩ := List.eq_append_cons_of_mem hmem
      refine closed body rest hbody (ih rest.length ?_ rest rfl)
      rw [← hlength, List.length_append, List.length_cons]
      omega
    · by_cases hempty : s = []
      · exact hempty ▸ nil
      · exact opened s hempty hmem

/-- What has no end mark is one open line. -/
theorem splitAfter_of_not_mem {s : List α} (hne : s ≠ []) (h : mark ∉ s) :
    splitAfter mark s = [s] := by
  induction s with
  | nil => exact absurd rfl hne
  | cons c s ih =>
    rw [List.mem_cons, not_or] at h
    have hc : ¬(c == mark) = true := fun heq => h.1 (beq_iff_eq.1 heq).symm
    rw [splitAfter_cons, if_neg hc]
    by_cases hs : s = []
    · rw [hs]
      rfl
    · rw [ih hs h.2]
      rfl

/-- **A sequence that ends in an end mark is split on its own**, whatever follows it. -/
theorem splitAfter_append {s : List α} (h : s = [] ∨ s.getLast? = some mark) (rest : List α) :
    splitAfter mark (s ++ rest) = splitAfter mark s ++ splitAfter mark rest := by
  induction s using lines_induction mark with
  | nil => rfl
  | opened body hne hbody =>
    rcases h with h | h
    · exact absurd h hne
    · exact absurd (List.mem_of_getLast? h) hbody
  | closed body tail hbody ih =>
    rw [List.append_assoc, List.cons_append, ByteSource.splitAfter_append_cons hbody,
      ih (closed_append_cons.1 h), ByteSource.splitAfter_append_cons hbody, List.cons_append]

/-- A sequence without one of its lines. -/
def withoutLine (mark : α) (i : Nat) (s : List α) : List α := ((splitAfter mark s).eraseIdx i).flatten

/-- **The lines of a sequence without one of its lines are the others.** -/
theorem splitAfter_withoutLine (i : Nat) (s : List α) :
    splitAfter mark (withoutLine mark i s) = (splitAfter mark s).eraseIdx i := by
  induction s using lines_induction mark generalizing i with
  | nil => rfl
  | opened body hne hbody =>
    rw [withoutLine, splitAfter_of_not_mem hne hbody]
    cases i with
    | zero => rfl
    | succ i => simp [splitAfter_of_not_mem hne hbody]
  | closed body rest hbody ih =>
    rw [withoutLine, ByteSource.splitAfter_append_cons hbody]
    cases i with
    | zero => rw [List.eraseIdx_cons_zero, flatten_splitAfter]
    | succ i =>
      have hflat : ((body ++ [mark]) :: (splitAfter mark rest).eraseIdx i).flatten =
          body ++ mark :: withoutLine mark i rest := by
        rw [List.flatten_cons, List.append_assoc]
        rfl
      rw [List.eraseIdx_cons_succ, hflat, ByteSource.splitAfter_append_cons hbody, ih]

end Sequences

/-! ### Bodies and terminators -/

/-- A text as the bodies of its lines, each with its terminator. -/
inductive InLines : List Char → List (List Char × Terminator) → Prop
  /-- The empty text has no line. -/
  | nil : InLines [] []
  /-- The last line may end with the text; then it is not empty. -/
  | opened {body : List Char} : body ≠ [] → '\n' ∉ body → InLines body [(body, .none)]
  /-- A line that is closed: a carriage return in front of its newline is part of the terminator. -/
  | closed {body rest : List Char} {terminator : Terminator}
      {lines : List (List Char × Terminator)} : '\n' ∉ body → terminator ≠ .none →
      (terminator = .newline → body.getLast? ≠ some '\r') → InLines rest lines →
      InLines (body ++ terminator.mark ++ rest) ((body, terminator) :: lines)

/-- A line without a newline is all body. -/
theorem bodyAndTerminator_of_not_mem {body : List Char} (h : '\n' ∉ body) :
    bodyAndTerminator body = (body, .none) := by
  have hreverse : '\n' ∉ body.reverse := mt List.mem_reverse.1 h
  unfold bodyAndTerminator
  split
  · rename_i hbody
    exact absurd (hbody ▸ List.mem_cons_self) hreverse
  · rename_i hbody
    exact absurd (hbody ▸ List.mem_cons_self) hreverse
  · rfl

/-- A body is parted from the terminator that follows it. -/
theorem bodyAndTerminator_append_mark {body : List Char} {terminator : Terminator}
    (hclosed : terminator ≠ .none)
    (hreturn : terminator = .newline → body.getLast? ≠ some '\r') :
    bodyAndTerminator (body ++ terminator.mark) = (body, terminator) := by
  cases terminator with
  | none => exact absurd rfl hclosed
  | returnNewline => simp [bodyAndTerminator, Terminator.mark]
  | newline =>
    have hlast := hreturn rfl
    rw [← List.head?_reverse] at hlast
    have hline : (body ++ Terminator.newline.mark).reverse = '\n' :: body.reverse := by
      simp [Terminator.mark]
    rw [bodyAndTerminator, hline]
    split
    · rename_i before heq
      rw [(List.cons.inj heq).2] at hlast
      exact absurd rfl hlast
    · rename_i before _ heq
      rw [← (List.cons.inj heq).2, List.reverse_reverse]
    · rename_i hnone
      exact absurd rfl (hnone body.reverse)

/-- A closed line as its body and its terminator. -/
theorem exists_body_mark {line : List Char} (h : '\n' ∉ line) :
    ∃ body terminator, line ++ ['\n'] = body ++ Terminator.mark terminator ∧ '\n' ∉ body ∧
      terminator ≠ .none ∧ (terminator = .newline → body.getLast? ≠ some '\r') := by
  by_cases hreturn : line.getLast? = some '\r'
  · obtain ⟨body, rfl⟩ := List.getLast?_eq_some_iff.1 hreturn
    refine ⟨body, .returnNewline, by simp [Terminator.mark], ?_, by simp, by simp⟩
    exact fun hmem => h (List.mem_append_left _ hmem)
  · exact ⟨line, .newline, rfl, h, by simp, fun _ => hreturn⟩

/-- **A text is in lines in one way**: those that it is split into. -/
theorem InLines.eq_splitAfter {s : List Char} {lines : List (List Char × Terminator)}
    (h : InLines s lines) : lines = (splitAfter '\n' s).map bodyAndTerminator := by
  induction h with
  | nil => rfl
  | opened hne hbody =>
    rw [splitAfter_of_not_mem hne hbody, List.map_singleton, bodyAndTerminator_of_not_mem hbody]
  | @closed body rest terminator lines hbody hclosed hreturn _ ih =>
    have hparted := bodyAndTerminator_append_mark hclosed hreturn
    have hsplit : splitAfter '\n' (body ++ terminator.mark ++ rest) =
        (body ++ terminator.mark) :: splitAfter '\n' rest := by
      cases terminator with
      | none => exact absurd rfl hclosed
      | newline =>
        have hcut := ByteSource.splitAfter_append_cons hbody rest
        simpa [Terminator.mark] using hcut
      | returnNewline =>
        have hfront : '\n' ∉ body ++ ['\r'] := by simp [hbody]
        have hcut := ByteSource.splitAfter_append_cons hfront rest
        simpa [Terminator.mark] using hcut
    rw [hsplit, List.map_cons, hparted, ih]

/-- **Every text is in lines.** -/
theorem inLines_splitAfter (s : List Char) :
    InLines s ((splitAfter '\n' s).map bodyAndTerminator) := by
  suffices h : ∃ lines, InLines s lines by
    obtain ⟨lines, hlines⟩ := h
    exact hlines.eq_splitAfter ▸ hlines
  induction s using lines_induction '\n' with
  | nil => exact ⟨[], .nil⟩
  | opened body hne hbody => exact ⟨[(body, .none)], .opened hne hbody⟩
  | closed line rest hline ih =>
    obtain ⟨lines, hlines⟩ := ih
    obtain ⟨body, terminator, hmark, hbody, hclosed, hreturn⟩ := exists_body_mark hline
    refine ⟨(body, terminator) :: lines, ?_⟩
    have hall : line ++ '\n' :: rest = body ++ terminator.mark ++ rest := by
      rw [← hmark]
      simp
    rw [hall]
    exact .closed hbody hclosed hreturn hlines

/-- No body has a newline. -/
theorem InLines.newline_not_mem {s : List Char} {lines : List (List Char × Terminator)}
    (h : InLines s lines) : ∀ line ∈ lines, '\n' ∉ line.1 := by
  induction h with
  | nil => exact fun line hmem => absurd hmem List.not_mem_nil
  | opened _ hbody => exact List.forall_mem_singleton.2 hbody
  | closed hbody _ _ _ ih => exact List.forall_mem_cons.2 ⟨hbody, ih⟩

end Deobfuscation.Text
