import Mathlib.Tactic.IntervalCases
import Deobfuscation.Utf8

/-!
# Encoding and decoding

What is encoded is decoded to itself.  The decoder reads the bytes of a character one after the
other: the first byte tells how many follow and in which bounds the second must lie, and the bytes
of a character keep to them, since a character is neither a surrogate nor beyond the last code
point.

* `encode_eq` — the bytes of a text are those of its characters;
* `start_two`, `start_three`, `start_four`, `feed_more`, `feed_last` — what the decoder awaits
  after each byte;
* `segmentsFrom_encodeChar` — **proved**: the bytes of a character are read as the character;
* `decode_encode` — **proved**: what is encoded is decoded to itself;
* `newline_mem_encode_iff` — **proved**: the byte of a newline stands for newlines alone;
* `newline_mem_of_decode`, `exists_append_newline_of_decode` — **proved**: newlines are decoded from
  this byte alone, and one at the end of the bytes is one at the end of the text;
* `decodeLossy_append_newline` — **proved**: a newline parts the decoding with replacements, also
  where it cuts off a character.
-/

namespace Deobfuscation.Utf8

/-- The bytes of a text are those of its characters. -/
theorem encode_eq (s : List Char) : encode s = s.flatMap String.utf8EncodeChar := by
  rw [encode, String.toUTF8_eq_toByteArray, String.toByteArray_ofList]
  simp [List.utf8Encode]

theorem encode_append (s t : List Char) : encode (s ++ t) = encode s ++ encode t := by
  rw [encode_eq, encode_eq, encode_eq, List.flatMap_append]

/-! ### What the decoder awaits -/

/-- The first byte of a character of one byte is the character. -/
theorem start_one {b : UInt8} (h : b.toNat < 0x80) :
    start b = ([.scalar (Char.ofNat b.toNat)], none) := by
  have hb : b < 0x80 := UInt8.lt_iff_toNat_lt.2 h
  rw [start, if_pos hb]

/-- The first byte of a character of two bytes. -/
theorem start_two {b : UInt8} (hlow : 0xC2 ≤ b.toNat) (hhigh : b.toNat ≤ 0xDF) :
    ∃ p, start b = ([], some p) ∧ p.value = b.toNat - 0xC0 ∧ p.missing = 1 ∧
      p.low.toNat = 0x80 ∧ p.high.toNat = 0xBF := by
  have hascii : ¬ b < 0x80 := fun hlt => by
    have : b.toNat < 0x80 := UInt8.lt_iff_toNat_lt.1 hlt
    omega
  have hrange : (decide (0xC2 ≤ b) && decide (b ≤ 0xDF)) = true := by
    rw [Bool.and_eq_true, decide_eq_true_eq, decide_eq_true_eq, UInt8.le_iff_toNat_le,
      UInt8.le_iff_toNat_le]
    exact ⟨hlow, hhigh⟩
  rw [start, if_neg hascii, if_pos hrange]
  exact ⟨_, rfl, rfl, rfl, rfl, rfl⟩

/-- The first byte of a character of three bytes. -/
theorem start_three {b : UInt8} (hlow : 0xE0 ≤ b.toNat) (hhigh : b.toNat ≤ 0xEF) :
    ∃ p, start b = ([], some p) ∧ p.value = b.toNat - 0xE0 ∧ p.missing = 2 ∧
      p.low.toNat = (if b.toNat = 0xE0 then 0xA0 else 0x80) ∧
      p.high.toNat = (if b.toNat = 0xED then 0x9F else 0xBF) := by
  obtain ⟨n, hn⟩ : ∃ n, n = b.toNat := ⟨_, rfl⟩
  have hb : b = UInt8.ofNat n := by rw [hn, UInt8.ofNat_toNat]
  rw [← hn] at hlow hhigh
  subst hb
  interval_cases n <;> exact ⟨_, rfl, rfl, rfl, rfl, rfl⟩

/-- The first byte of a character of four bytes. -/
theorem start_four {b : UInt8} (hlow : 0xF0 ≤ b.toNat) (hhigh : b.toNat ≤ 0xF4) :
    ∃ p, start b = ([], some p) ∧ p.value = b.toNat - 0xF0 ∧ p.missing = 3 ∧
      p.low.toNat = (if b.toNat = 0xF0 then 0x90 else 0x80) ∧
      p.high.toNat = (if b.toNat = 0xF4 then 0x8F else 0xBF) := by
  obtain ⟨n, hn⟩ : ∃ n, n = b.toNat := ⟨_, rfl⟩
  have hb : b = UInt8.ofNat n := by rw [hn, UInt8.ofNat_toNat]
  rw [← hn] at hlow hhigh
  subst hb
  interval_cases n <;> exact ⟨_, rfl, rfl, rfl, rfl, rfl⟩

/-- A byte within the bounds, with more to come. -/
theorem feed_more {p : Pending} {b : UInt8} (hlow : p.low.toNat ≤ b.toNat)
    (hhigh : b.toNat ≤ p.high.toNat) (hmissing : 2 ≤ p.missing) :
    ∃ q, feed (some p) b = ([], some q) ∧ q.value = 64 * p.value + (b.toNat - 0x80) ∧
      q.missing = p.missing - 1 ∧ q.low.toNat = 0x80 ∧ q.high.toNat = 0xBF := by
  have hwithin : (decide (p.low ≤ b) && decide (b ≤ p.high)) = true := by
    rw [Bool.and_eq_true, decide_eq_true_eq, decide_eq_true_eq, UInt8.le_iff_toNat_le,
      UInt8.le_iff_toNat_le]
    exact ⟨hlow, hhigh⟩
  have hmore : ¬ p.missing ≤ 1 := by omega
  rw [feed]
  dsimp only
  rw [if_pos hwithin, if_neg hmore]
  exact ⟨_, rfl, rfl, rfl, rfl, rfl⟩

/-- The last byte, within the bounds. -/
theorem feed_last {p : Pending} {b : UInt8} (hlow : p.low.toNat ≤ b.toNat)
    (hhigh : b.toNat ≤ p.high.toNat) (hmissing : p.missing = 1) :
    feed (some p) b = ([.scalar (Char.ofNat (64 * p.value + (b.toNat - 0x80)))], none) := by
  have hwithin : (decide (p.low ≤ b) && decide (b ≤ p.high)) = true := by
    rw [Bool.and_eq_true, decide_eq_true_eq, decide_eq_true_eq, UInt8.le_iff_toNat_le,
      UInt8.le_iff_toNat_le]
    exact ⟨hlow, hhigh⟩
  have hlast : p.missing ≤ 1 := by omega
  rw [feed]
  dsimp only
  rw [if_pos hwithin, if_pos hlast]

/-! ### Characters -/

/-- A small number is the value of its byte. -/
theorem toNat_ofNat {n : Nat} (h : n < 256) : (UInt8.ofNat n).toNat = n := by
  rw [UInt8.toNat_ofNat', Nat.mod_eq_of_lt h]

/-- Two bytes are read as one character. -/
theorem segmentsFrom_two {v : Nat} (hlow : 0x80 ≤ v) (hhigh : v < 0x800) (bytes : List UInt8) :
    segmentsFrom none (UInt8.ofNat (v / 64 % 0x20 + 0xC0) :: UInt8.ofNat (v % 0x40 + 0x80) ::
      bytes) = .scalar (Char.ofNat v) :: segmentsFrom none bytes := by
  have hb₁ := toNat_ofNat (n := v / 64 % 0x20 + 0xC0) (by omega)
  have hb₂ := toNat_ofNat (n := v % 0x40 + 0x80) (by omega)
  obtain ⟨p, hp, hvalue, hmissing, hplow, hphigh⟩ :=
    start_two (b := UInt8.ofNat (v / 64 % 0x20 + 0xC0)) (by omega) (by omega)
  have hlast := feed_last (p := p) (b := UInt8.ofNat (v % 0x40 + 0x80)) (by omega) (by omega)
    hmissing
  have hsum : 64 * p.value + ((UInt8.ofNat (v % 0x40 + 0x80)).toNat - 0x80) = v := by omega
  rw [hsum] at hlast
  rw [segmentsFrom_cons, feed, hp, segmentsFrom_cons, hlast]
  rfl

/-- Three bytes are read as one character, unless it is a surrogate. -/
theorem segmentsFrom_three {v : Nat} (hlow : 0x800 ≤ v) (hhigh : v < 0x10000)
    (hvalid : v < 0xD800 ∨ 0xDFFF < v) (bytes : List UInt8) :
    segmentsFrom none (UInt8.ofNat (v / 4096 % 0x10 + 0xE0) ::
      UInt8.ofNat (v / 64 % 0x40 + 0x80) :: UInt8.ofNat (v % 0x40 + 0x80) :: bytes) =
      .scalar (Char.ofNat v) :: segmentsFrom none bytes := by
  have hb₁ := toNat_ofNat (n := v / 4096 % 0x10 + 0xE0) (by omega)
  have hb₂ := toNat_ofNat (n := v / 64 % 0x40 + 0x80) (by omega)
  have hb₃ := toNat_ofNat (n := v % 0x40 + 0x80) (by omega)
  obtain ⟨p, hp, hvalue, hmissing, hplow, hphigh⟩ :=
    start_three (b := UInt8.ofNat (v / 4096 % 0x10 + 0xE0)) (by omega) (by omega)
  -- the second byte tells overlong forms and surrogates apart
  have hlow₂ : p.low.toNat ≤ v / 64 % 0x40 + 0x80 := by
    rw [hplow]
    split
    · omega
    · omega
  have hhigh₂ : v / 64 % 0x40 + 0x80 ≤ p.high.toNat := by
    rw [hphigh]
    split
    · omega
    · omega
  obtain ⟨q, hq, hvalue', hmissing', hqlow, hqhigh⟩ :=
    feed_more (p := p) (b := UInt8.ofNat (v / 64 % 0x40 + 0x80)) (by omega) (by omega) (by omega)
  have hlast := feed_last (p := q) (b := UInt8.ofNat (v % 0x40 + 0x80)) (by omega) (by omega)
    (by omega)
  have hsum : 64 * q.value + ((UInt8.ofNat (v % 0x40 + 0x80)).toNat - 0x80) = v := by omega
  rw [hsum] at hlast
  rw [segmentsFrom_cons, feed, hp, segmentsFrom_cons, hq, segmentsFrom_cons, hlast]
  rfl

/-- Four bytes are read as one character, up to the last code point. -/
theorem segmentsFrom_four {v : Nat} (hlow : 0x10000 ≤ v) (hhigh : v < 0x110000)
    (bytes : List UInt8) :
    segmentsFrom none (UInt8.ofNat (v / 262144 % 0x08 + 0xF0) ::
      UInt8.ofNat (v / 4096 % 0x40 + 0x80) :: UInt8.ofNat (v / 64 % 0x40 + 0x80) ::
      UInt8.ofNat (v % 0x40 + 0x80) :: bytes) =
      .scalar (Char.ofNat v) :: segmentsFrom none bytes := by
  have hb₁ := toNat_ofNat (n := v / 262144 % 0x08 + 0xF0) (by omega)
  have hb₂ := toNat_ofNat (n := v / 4096 % 0x40 + 0x80) (by omega)
  have hb₃ := toNat_ofNat (n := v / 64 % 0x40 + 0x80) (by omega)
  have hb₄ := toNat_ofNat (n := v % 0x40 + 0x80) (by omega)
  obtain ⟨p, hp, hvalue, hmissing, hplow, hphigh⟩ :=
    start_four (b := UInt8.ofNat (v / 262144 % 0x08 + 0xF0)) (by omega) (by omega)
  -- the second byte tells overlong forms and numbers beyond the last code point apart
  have hlow₂ : p.low.toNat ≤ v / 4096 % 0x40 + 0x80 := by
    rw [hplow]
    split
    · omega
    · omega
  have hhigh₂ : v / 4096 % 0x40 + 0x80 ≤ p.high.toNat := by
    rw [hphigh]
    split
    · omega
    · omega
  obtain ⟨q, hq, hvalue', hmissing', hqlow, hqhigh⟩ :=
    feed_more (p := p) (b := UInt8.ofNat (v / 4096 % 0x40 + 0x80)) (by omega) (by omega) (by omega)
  obtain ⟨q', hq', hvalue'', hmissing'', hqlow', hqhigh'⟩ :=
    feed_more (p := q) (b := UInt8.ofNat (v / 64 % 0x40 + 0x80)) (by omega) (by omega) (by omega)
  have hlast := feed_last (p := q') (b := UInt8.ofNat (v % 0x40 + 0x80)) (by omega) (by omega)
    (by omega)
  have hsum : 64 * q'.value + ((UInt8.ofNat (v % 0x40 + 0x80)).toNat - 0x80) = v := by omega
  rw [hsum] at hlast
  rw [segmentsFrom_cons, feed, hp, segmentsFrom_cons, hq, segmentsFrom_cons, hq',
    segmentsFrom_cons, hlast]
  rfl

/-- **The bytes of a character are read as the character.** -/
theorem segmentsFrom_encodeChar (c : Char) (bytes : List UInt8) :
    segmentsFrom none (String.utf8EncodeChar c ++ bytes) =
      .scalar c :: segmentsFrom none bytes := by
  obtain ⟨v, hv⟩ : ∃ v, v = c.toNat := ⟨_, rfl⟩
  have hchar : Char.ofNat v = c := by rw [hv, Char.ofNat_toNat]
  have hvalid : v < 0xD800 ∨ (0xDFFF < v ∧ v < 0x110000) := hv ▸ c.valid
  rw [String.utf8EncodeChar, show c.val.toNat = v from hv.symm]
  split
  · have hb : (UInt8.ofNat v).toNat = v := toNat_ofNat (by omega)
    rw [List.cons_append, List.nil_append, segmentsFrom_cons, feed, start_one (by omega), hb, hchar]
    rfl
  · split
    · rw [← hchar]
      exact segmentsFrom_two (by omega) (by omega) bytes
    · split
      · rw [← hchar]
        exact segmentsFrom_three (by omega) (by omega) (by omega) bytes
      · rw [← hchar]
        exact segmentsFrom_four (by omega) (by omega) bytes

/-! ### Texts -/

/-- The bytes of a text are read as its characters. -/
theorem segments_encode (s : List Char) : segments (encode s) = s.map Segment.scalar := by
  rw [segments, encode_eq]
  induction s with
  | nil => rfl
  | cons c s ih =>
    rw [List.flatMap_cons, segmentsFrom_encodeChar, ih]
    rfl

theorem charactersFrom_scalars (s : List Char) :
    ∀ index done, charactersFrom index (s.map Segment.scalar) done = .ok (done.reverse ++ s) := by
  induction s with
  | nil =>
    intro index done
    rw [List.append_nil]
    rfl
  | cons c s ih =>
    intro index done
    rw [List.map_cons, charactersFrom, ih, List.reverse_cons, List.append_assoc]
    rfl

/-- **What is encoded is decoded to itself.** -/
theorem decode_encode (s : List Char) : decode (encode s) = .ok s := by
  rw [decode, segments_encode, charactersFrom_scalars]
  rfl

/-! ### Newlines -/

/-- The byte of a newline is no byte of another character. -/
theorem eq_newline_of_mem {c : Char} (h : (10 : UInt8) ∈ String.utf8EncodeChar c) : c = '\n' := by
  have hbyte : ∀ {n : Nat}, n < 256 → (10 : UInt8) = UInt8.ofNat n → n = 10 := by
    intro n hn heq
    have := congrArg UInt8.toNat heq
    rw [toNat_ofNat hn] at this
    exact this.symm
  rw [String.utf8EncodeChar] at h
  split at h
  · rename_i hle
    have hten := hbyte (by omega) (List.mem_singleton.1 h)
    rw [← Char.ofNat_toNat c, show c.toNat = 10 from hten]
  · -- all other bytes are beyond the first half
    exfalso
    split at h
    · rcases List.mem_cons.1 h with h | h
      · have := hbyte (by omega) h
        omega
      · have := hbyte (by omega) (List.mem_singleton.1 h)
        omega
    · split at h
      · simp only [List.mem_cons, List.not_mem_nil, or_false] at h
        rcases h with h | h | h
        all_goals
          have := hbyte (by omega) h
          omega
      · simp only [List.mem_cons, List.not_mem_nil, or_false] at h
        rcases h with h | h | h | h
        all_goals
          have := hbyte (by omega) h
          omega

/-- **The byte of a newline stands for newlines alone.** -/
theorem newline_mem_encode_iff (s : List Char) : 10 ∈ encode s ↔ '\n' ∈ s := by
  rw [encode_eq, List.mem_flatMap]
  constructor
  · rintro ⟨c, hc, h⟩
    exact eq_newline_of_mem h ▸ hc
  · exact fun h => ⟨'\n', h, by decide⟩

/-! ### Newlines that are read -/

/-- What is pending makes no ASCII character, however it goes on. -/
def Pending.isBeyondAscii (p : Pending) : Bool :=
  if p.missing ≤ 1 then 2 ≤ p.value else 2 ≤ 64 * p.value + (p.low.toNat - 0x80)

theorem eq_of_ofNat_eq_newline {n : Nat} (h : Char.ofNat n = '\n') : n = 10 := by
  by_cases hvalid : n.isValidChar
  · rw [Char.ofNat, dif_pos hvalid] at h
    exact congrArg Char.toNat h
  · rw [Char.ofNat, dif_neg hvalid] at h
    exact absurd h (by decide)

/-- A byte that makes a newline is the newline, and what it leaves pending will make none. -/
def PartsNewlines (b : UInt8) (read : List Segment × Option Pending) : Prop :=
  (.scalar '\n' ∈ read.1 → b = 10) ∧ read.2.all Pending.isBeyondAscii = true

theorem partsNewlines_start (b : UInt8) : PartsNewlines b (start b) := by
  -- the bytes are few, so they are tried
  have hall : ∀ n < 256, (.scalar '\n' ∈ (start (UInt8.ofNat n)).1 → n = 10) ∧
      (start (UInt8.ofNat n)).2.all Pending.isBeyondAscii = true := by
    decide +kernel
  obtain ⟨hnewline, hpending⟩ := hall b.toNat b.toNat_lt
  rw [UInt8.ofNat_toNat] at hnewline hpending
  exact ⟨fun h => UInt8.toNat_inj.1 (hnewline h), hpending⟩

/-- **Only the byte of a newline is read as a newline.** -/
theorem partsNewlines_feed {pending : Option Pending}
    (hpending : pending.all Pending.isBeyondAscii = true) (b : UInt8) :
    PartsNewlines b (feed pending b) := by
  cases pending with
  | none => exact partsNewlines_start b
  | some p =>
    rw [Option.all_some, Pending.isBeyondAscii] at hpending
    rw [feed]
    by_cases hwithin : (p.low ≤ b && b ≤ p.high) = true
    · rw [if_pos hwithin]
      rw [Bool.and_eq_true, decide_eq_true_eq, UInt8.le_iff_toNat_le] at hwithin
      by_cases hlast : p.missing ≤ 1
      · rw [if_pos hlast, decide_eq_true_eq] at hpending
        rw [if_pos hlast]
        refine ⟨fun h => ?_, rfl⟩
        have hten := eq_of_ofNat_eq_newline (Segment.scalar.inj (List.mem_singleton.1 h)).symm
        omega
      · rw [if_neg hlast, decide_eq_true_eq] at hpending
        rw [if_neg hlast]
        refine ⟨fun h => absurd h List.not_mem_nil, ?_⟩
        rw [Option.all_some, Pending.isBeyondAscii]
        have hlow : p.low.toNat - 0x80 ≤ b.toNat - 0x80 := Nat.sub_le_sub_right hwithin.1 _
        split
        · rw [decide_eq_true_eq]
          show 2 ≤ 64 * p.value + (b.toNat - 0x80)
          omega
        · rw [decide_eq_true_eq]
          show 2 ≤ 64 * (64 * p.value + (b.toNat - 0x80)) + ((0x80 : UInt8).toNat - 0x80)
          omega
    · rw [if_neg hwithin]
      obtain ⟨hnewline, hbeyond⟩ := partsNewlines_start b
      refine ⟨fun h => hnewline ?_, hbeyond⟩
      simpa using h

/-- A newline is read from the bytes before the end only where its byte is. -/
theorem newline_mem_of_mem_readOnto (bytes : List UInt8) :
    ∀ {pending : Option Pending}, pending.all Pending.isBeyondAscii = true →
      .scalar '\n' ∈ (readOnto bytes pending []).1 → 10 ∈ bytes := by
  induction bytes with
  | nil => exact fun _ h => absurd h List.not_mem_nil
  | cons b bytes ih =>
    intro pending hpending h
    obtain ⟨hnewline, hbeyond⟩ := partsNewlines_feed hpending b
    rw [readOnto, readOnto_eq, List.append_nil, List.mem_append, List.mem_reverse] at h
    rcases h with hlater | hhere
    · exact List.mem_cons_of_mem b (ih hbeyond hlater)
    · exact hnewline hhere ▸ List.mem_cons_self

theorem charactersFrom_eq_ok (segments : List Segment) :
    ∀ {index : Nat} {done s : List Char}, charactersFrom index segments done = .ok s →
      ∃ t, segments = t.map Segment.scalar ∧ s = done.reverse ++ t := by
  induction segments with
  | nil =>
    intro index done s h
    exact ⟨[], rfl, by rw [List.append_nil]; exact (Except.ok.inj h).symm⟩
  | cons segment segments ih =>
    intro index done s h
    cases segment with
    | scalar c =>
      obtain ⟨t, rfl, rfl⟩ := ih h
      exact ⟨c :: t, rfl, by simp⟩
    | malformed length => simp [charactersFrom] at h
    | truncated length => simp [charactersFrom] at h

/-- What is decoded is a character for each stretch. -/
theorem segments_of_decode {bytes : List UInt8} {s : List Char} (h : decode bytes = .ok s) :
    segments bytes = s.map Segment.scalar := by
  obtain ⟨t, ht, rfl⟩ := charactersFrom_eq_ok _ h
  exact ht

/-- What is decoded needs no replacements. -/
theorem decodeLossy_of_decode {bytes : List UInt8} {s : List Char} (h : decode bytes = .ok s) :
    decodeLossy bytes = s := by
  have hreplaced : Segment.replaced ∘ Segment.scalar = id := rfl
  rw [decodeLossy, segments_of_decode h, List.map_map, hreplaced, List.map_id]

/-- A newline is read only where its byte is. -/
theorem newline_mem_of_mem_segments {bytes : List UInt8}
    (h : Segment.scalar '\n' ∈ segments bytes) : 10 ∈ bytes := by
  rw [segments, segmentsFrom, List.mem_append, List.mem_reverse] at h
  rcases h with hread | hend
  · exact newline_mem_of_mem_readOnto bytes rfl hread
  · cases hlast : (readOnto bytes none []).2 with
    | none => simp [hlast, finish] at hend
    | some p => simp [hlast, finish] at hend

/-- **A text that is decoded from bytes without the byte of a newline has no newline.** -/
theorem newline_mem_of_decode {bytes : List UInt8} {s : List Char} (h : decode bytes = .ok s)
    (hmem : '\n' ∈ s) : 10 ∈ bytes := by
  refine newline_mem_of_mem_segments ?_
  rw [segments_of_decode h]
  exact List.mem_map_of_mem hmem

/-- **A newline at the end of the bytes is one at the end of the text.** -/
theorem exists_append_newline_of_decode {bytes : List UInt8} {s : List Char}
    (h : decode (bytes ++ [10]) = .ok s) : ∃ t, decode bytes = .ok t ∧ s = t ++ ['\n'] := by
  have hsegments := segments_of_decode h
  rw [segments, segmentsFrom_append, segmentsFrom_cons, feed_newline, segmentsFrom_nil] at hsegments
  cases hpending : pendingAfter none bytes with
  | none =>
    rw [hpending] at hsegments
    have hread : segments bytes = (readOnto bytes none []).1.reverse := by
      rw [segments, segmentsFrom, show (readOnto bytes none []).2 = none from hpending]
      exact List.append_nil _
    obtain ⟨t, u, rfl, ht, hu⟩ := List.map_eq_append_iff.1 hsegments.symm
    obtain ⟨c, rfl, hc⟩ := List.map_eq_singleton_iff.1 hu
    refine ⟨t, ?_, by rw [Segment.scalar.inj hc]⟩
    rw [decode, hread, ← ht, charactersFrom_scalars]
    rfl
  | some p =>
    -- the newline would cut off what is pending
    have hmalformed : Segment.malformed p.length ∈ s.map Segment.scalar := by
      rw [← hsegments, hpending]
      simp [abandon]
    simp at hmalformed

/-! ### Decoding with replacements -/

/-- Only a newline is shown as a newline. -/
theorem eq_of_replaced_eq_newline {segment : Segment} (h : segment.replaced = '\n') :
    segment = .scalar '\n' := by
  have hreplacement : Char.ofNat 0xFFFD ≠ '\n' := by decide
  cases segment with
  | scalar c => exact congrArg Segment.scalar h
  | malformed length => exact absurd h hreplacement
  | truncated length => exact absurd h hreplacement

/-- **Bytes without the byte of a newline show no newline.** -/
theorem newline_mem_of_decodeLossy {bytes : List UInt8} (h : '\n' ∈ decodeLossy bytes) :
    10 ∈ bytes := by
  obtain ⟨segment, hsegment, hreplaced⟩ := List.mem_map.1 h
  rw [eq_of_replaced_eq_newline hreplaced] at hsegment
  exact newline_mem_of_mem_segments hsegment

/-- What is pending is shown, however it goes on. -/
theorem segmentsFrom_some_ne_nil (bytes : List UInt8) :
    ∀ p, segmentsFrom (some p) bytes ≠ [] := by
  induction bytes with
  | nil => exact fun p => by simp [finish]
  | cons b bytes ih =>
    intro p h
    rw [segmentsFrom_cons, feed] at h
    split at h
    · dsimp only at h
      split at h
      · exact absurd h (List.cons_ne_nil _ _)
      · exact ih _ h
    · exact absurd h (List.cons_ne_nil _ _)

/-- **Where there are bytes, something is shown.** -/
theorem decodeLossy_ne_nil {bytes : List UInt8} (h : bytes ≠ []) : decodeLossy bytes ≠ [] := by
  obtain ⟨b, rest, rfl⟩ := List.exists_cons_of_ne_nil h
  have hsegments : segments (b :: rest) ≠ [] := by
    rw [segments, segmentsFrom_cons]
    cases hpending : (feed none b).2 with
    | none =>
      have hread : (feed none b).1 ≠ [] := by
        intro hnone
        rw [feed] at hpending hnone
        unfold start at hpending hnone
        grind
      simp [hread]
    | some p => simp [segmentsFrom_some_ne_nil]
  rw [decodeLossy]
  simpa using hsegments

/-- **A newline parts the decoding**: a character that it cuts off is shown as one that the end of
the bytes cuts off. -/
theorem decodeLossy_append_newline (bytes rest : List UInt8) :
    decodeLossy (bytes ++ 10 :: rest) = decodeLossy bytes ++ '\n' :: decodeLossy rest := by
  have hcut : ∀ pending,
      (abandon pending).map Segment.replaced = (finish pending).map Segment.replaced := by
    intro pending
    cases pending with
    | none => rfl
    | some p => rfl
  have hbytes : segments bytes =
      (readOnto bytes none []).1.reverse ++ finish (pendingAfter none bytes) := rfl
  have hall : segments (bytes ++ 10 :: rest) = (readOnto bytes none []).1.reverse ++
      ((abandon (pendingAfter none bytes) ++ [.scalar '\n']) ++ segments rest) := by
    rw [segments, segmentsFrom_append, segmentsFrom_cons, feed_newline, segments]
  rw [decodeLossy, decodeLossy, decodeLossy, hall, hbytes]
  simp only [List.map_append, hcut, List.append_assoc]
  rfl

end Deobfuscation.Utf8
