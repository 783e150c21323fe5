import Deobfuscation.Proofs.Text.Line

/-!
# What a source delivers

A reader asks a source for one line after the other.  It is given the bytes up to the next end mark,
or up to the end of the source; where the source fails instead of ending, the bytes since the last
end mark are lost.  So a failing source delivers just what a source would deliver that ended with
its last end mark.

* `Answer`, `ask` — what a source gives when it is asked for a line;
* `Delivers`, `delivers_iff` — the answers until the source ends or fails, and **proved**: they are
  its lines and its failure;
* `InWholeLines`, `IsClosedPart` — bytes that are empty or end in an end mark, and the longest
  beginning of bytes that is so;
* `isClosedPart_append`, `exists_append_opened` — **proved**: it reaches to the last end mark, and
  all bytes are such a part and an open rest;
* `lines_failing` — **proved**: a source that fails completes the lines of the closed part of its
  bytes.
-/

namespace Deobfuscation.ByteSource

/-! ### One line at a time -/

/-- What a source gives when it is asked for a line. -/
inductive Answer where
  /-- A line, and the source behind it. -/
  | line (raw : List UInt8) (rest : ByteSource)
  /-- The source has ended. -/
  | ended
  /-- The source has failed. -/
  | failed (cause : String)
  deriving DecidableEq, Repr

/-- Asks for a line: the bytes up to the next end mark and with it, or what is left of a source that
just ends. -/
def ask (source : ByteSource) : Answer :=
  match source.bytes.dropWhile (· != lineFeed), source.failure with
  | mark :: rest, failure =>
    .line (source.bytes.takeWhile (· != lineFeed) ++ [mark]) ⟨rest, failure⟩
  | [], some cause => .failed cause
  | [], none => if source.bytes.isEmpty then .ended else .line source.bytes ⟨[], none⟩

/-- The lines that a source gives when it is asked until it ends or fails, and its failure. -/
inductive Delivers : ByteSource → List (List UInt8) → Option String → Prop
  | ended {source : ByteSource} : source.ask = .ended → Delivers source [] none
  | failed {source : ByteSource} {cause : String} : source.ask = .failed cause →
      Delivers source [] (some cause)
  | line {source rest : ByteSource} {raw : List UInt8} {lines : List (List UInt8)}
      {failure : Option String} : source.ask = .line raw rest → Delivers rest lines failure →
      Delivers source (raw :: lines) failure

section Lines

variable {body : List UInt8}

theorem takeWhile_of_lineFeed_not_mem (h : lineFeed ∉ body) (rest : List UInt8) :
    (body ++ lineFeed :: rest).takeWhile (· != lineFeed) = body ∧
      (body ++ lineFeed :: rest).dropWhile (· != lineFeed) = lineFeed :: rest := by
  have hbody : ∀ b ∈ body, (b != lineFeed) = true := fun b hb =>
    bne_iff_ne.2 fun heq => h (heq ▸ hb)
  constructor
  · rw [List.takeWhile_append_of_pos hbody]
    simp
  · rw [List.dropWhile_append_of_pos hbody]
    simp

/-- A closed line is given, whether the source fails behind it or not. -/
theorem ask_closed (h : lineFeed ∉ body) (rest : List UInt8) (failure : Option String) :
    ask ⟨body ++ lineFeed :: rest, failure⟩ = .line (body ++ [lineFeed]) ⟨rest, failure⟩ := by
  obtain ⟨htake, hdrop⟩ := takeWhile_of_lineFeed_not_mem h rest
  rw [ask]
  simp only [hdrop, htake]

theorem dropWhile_of_lineFeed_not_mem (h : lineFeed ∉ body) :
    body.dropWhile (· != lineFeed) = [] := by
  rw [List.dropWhile_eq_nil_iff]
  exact fun b hb => bne_iff_ne.2 fun heq => h (heq ▸ hb)

theorem lines_closed (h : lineFeed ∉ body) (rest : List UInt8) (failure : Option String) :
    lines ⟨body ++ lineFeed :: rest, failure⟩ = (body ++ [lineFeed]) :: lines ⟨rest, failure⟩ := by
  rw [lines, lines]
  dsimp only
  rw [splitAfter_append_cons h]
  split
  · rfl
  · rw [List.filter_cons_of_pos (by simp [isClosed])]

theorem lines_opened (h : lineFeed ∉ body) (cause : String) : lines ⟨body, some cause⟩ = [] := by
  rw [lines]
  dsimp only
  rw [if_neg (by simp)]
  by_cases hne : body = []
  · rw [hne]
    rfl
  · have hopen : ¬isClosed body = true := fun hclosed =>
      h (List.mem_of_getLast? (beq_iff_eq.1 hclosed))
    rw [Text.splitAfter_of_not_mem hne h, List.filter_cons_of_neg hopen, List.filter_nil]

end Lines

theorem delivers_lines (bytes : List UInt8) (failure : Option String) :
    Delivers ⟨bytes, failure⟩ (lines ⟨bytes, failure⟩) failure := by
  have hend : Delivers ⟨[], none⟩ [] none := .ended rfl
  induction bytes using Text.lines_induction lineFeed with
  | nil =>
    cases failure with
    | none => exact hend
    | some cause => exact .failed rfl
  | opened body hne hbody =>
    have hdrop := dropWhile_of_lineFeed_not_mem hbody
    cases failure with
    | none =>
      have hask : ask ⟨body, none⟩ = .line body ⟨[], none⟩ := by simp [ask, hdrop, hne]
      have hlines : lines ⟨body, none⟩ = [body] := Text.splitAfter_of_not_mem hne hbody
      rw [hlines]
      exact .line hask hend
    | some cause =>
      rw [lines_opened hbody]
      exact .failed (by simp [ask, hdrop])
  | closed body rest hbody ih =>
    rw [lines_closed hbody]
    exact .line (ask_closed hbody rest failure) ih

/-- What a source delivers is determined. -/
theorem Delivers.unique {source : ByteSource} {lines others : List (List UInt8)}
    {failure other : Option String} (h : Delivers source lines failure)
    (hother : Delivers source others other) : lines = others ∧ failure = other := by
  induction h generalizing others other with
  | ended hask =>
    cases hother with
    | ended _ => exact ⟨rfl, rfl⟩
    | failed hask' => simp [hask] at hask'
    | line hask' _ => simp [hask] at hask'
  | failed hask =>
    cases hother with
    | ended hask' => simp [hask] at hask'
    | failed hask' => exact ⟨rfl, congrArg some (Answer.failed.inj (hask.symm.trans hask'))⟩
    | line hask' _ => simp [hask] at hask'
  | line hask _ ih =>
    cases hother with
    | ended hask' => simp [hask] at hask'
    | failed hask' => simp [hask] at hask'
    | line hask' hrest =>
      obtain ⟨rfl, rfl⟩ := Answer.line.inj (hask.symm.trans hask')
      obtain ⟨rfl, rfl⟩ := ih hrest
      exact ⟨rfl, rfl⟩

/-- **Asked until it ends or fails, a source gives its lines and its failure.** -/
theorem delivers_iff {source : ByteSource} {lines : List (List UInt8)} {failure : Option String} :
    Delivers source lines failure ↔ lines = source.lines ∧ failure = source.failure := by
  have hlines := delivers_lines source.bytes source.failure
  constructor
  · exact fun h => h.unique hlines
  · rintro ⟨rfl, rfl⟩
    exact hlines

/-! ### Up to the last end mark -/

/-- The bytes are empty or end in an end mark. -/
def InWholeLines (bytes : List UInt8) : Prop := bytes = [] ∨ bytes.getLast? = some lineFeed

instance (bytes : List UInt8) : Decidable (InWholeLines bytes) :=
  inferInstanceAs (Decidable (_ ∨ _))

/-- The longest beginning of bytes that is empty or ends in an end mark. -/
structure IsClosedPart (front bytes : List UInt8) : Prop where
  begins : front <+: bytes
  whole : InWholeLines front
  longest : ∀ other, other <+: bytes → InWholeLines other → other.length ≤ front.length

/-- **The closed part reaches to the last end mark.** -/
theorem isClosedPart_append {front opened : List UInt8} (hfront : InWholeLines front)
    (hopened : lineFeed ∉ opened) : IsClosedPart front (front ++ opened) where
  begins := List.prefix_append front opened
  whole := hfront
  longest other hother hwhole := by
    by_contra hlong
    -- what is longer ends inside the open rest
    obtain ⟨more, rfl⟩ := List.prefix_of_prefix_length_le (List.prefix_append front opened) hother
      (by omega)
    have hne : more ≠ [] := fun h => hlong (by simp [h])
    have hlast : more.getLast? = some lineFeed := by
      rcases hwhole with h | h
      · exact absurd (List.append_eq_nil_iff.1 h).2 hne
      · rwa [List.getLast?_append_of_ne_nil _ hne] at h
    exact hopened (((List.prefix_append_right_inj front).1 hother).subset
      (List.mem_of_getLast? hlast))

/-- Bytes are whole lines and an open rest. -/
theorem exists_append_opened (bytes : List UInt8) :
    ∃ front opened, bytes = front ++ opened ∧ InWholeLines front ∧ lineFeed ∉ opened := by
  induction bytes using Text.lines_induction lineFeed with
  | nil => exact ⟨[], [], rfl, .inl rfl, List.not_mem_nil⟩
  | opened body _ hbody => exact ⟨[], body, rfl, .inl rfl, hbody⟩
  | closed body rest _ ih =>
    obtain ⟨front, opened, rfl, hfront, hopened⟩ := ih
    exact ⟨body ++ lineFeed :: front, opened, by simp, Text.closed_append_cons.2 hfront, hopened⟩

/-- **A source that fails completes the lines of the closed part of its bytes.** -/
theorem lines_failing {front opened : List UInt8} (hfront : InWholeLines front)
    (hopened : lineFeed ∉ opened) (cause : String) :
    lines ⟨front ++ opened, some cause⟩ = (ofBytes front).lines := by
  induction front using Text.lines_induction lineFeed with
  | nil => exact lines_opened hopened cause
  | opened body hne hbody =>
    rcases hfront with h | h
    · exact absurd h hne
    · exact absurd (List.mem_of_getLast? h) hbody
  | closed body rest hbody ih =>
    have hrest : InWholeLines rest := Text.closed_append_cons.1 hfront
    rw [List.append_assoc, List.cons_append, lines_closed hbody, ih hrest, ofBytes, ofBytes,
      lines_closed hbody]

end Deobfuscation.ByteSource
