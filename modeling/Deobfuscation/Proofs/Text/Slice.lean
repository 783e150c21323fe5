import Mathlib.Data.String.Basic
import Deobfuscation.Proofs.Text.Cut

/-!
# Slices of a text

A place in a text can be told by its **offset**, the number of bytes in front of it.  Not every
number is the offset of a place: it may lie behind the end, or inside a character.  A **slice** is
what stands between two offsets, and there is none unless both of them are places and the first is
not behind the second.  So a text that is taken apart by searching for offsets and slicing between
them can fail where one that is cut cannot.

* `partAt?`, `slice?` — a text parted at an offset, and a slice of it;
* `offset?`, `offsetFrom?`, `lastOffset?` — the offset of the leftmost occurrence of a separator, in
  the whole text or from an offset on, and of the last occurrence of a character;
* `IsBoundary`, `isBoundary_iff` — an offset between two characters, and **proved**: the bytes in
  front of it are those of a beginning of the text;
* `IsSlice`, `isSome_slice?_iff` — **proved**: there is a slice exactly between two such offsets in
  their order;
* `slice?_append`, `offsetFrom?_append`, `filter_offset?_append` — **proved**: slices and offsets in
  a text that is put together.
-/

namespace Deobfuscation.Text

open String (utf8Len)

/-! ### Parting and slicing -/

/-- The parts of a text in front of an offset and behind it. -/
def partAt? : List Char → Nat → Option (List Char × List Char)
  | s, 0 => some ([], s)
  | [], _ + 1 => none
  | c :: s, offset + 1 =>
    if c.utf8Size ≤ offset + 1 then
      (partAt? s (offset + 1 - c.utf8Size)).map fun sides => (c :: sides.1, sides.2)
    else none

/-- The slice of a text between two offsets. -/
def slice? (s : List Char) (start stop : Nat) : Option (List Char) :=
  if start ≤ stop then
    (partAt? s stop).bind fun sides => (partAt? sides.1 start).map Prod.snd
  else none

/-- An offset between two characters of a text, or at one of its ends. -/
def IsBoundary (s : List Char) (offset : Nat) : Prop :=
  String.Pos.Raw.IsValid (String.ofList s) ⟨offset⟩

/-- Two offsets between which there is a slice. -/
structure IsSlice (s : List Char) (start stop : Nat) : Prop where
  start_le_stop : start ≤ stop
  stop_le : stop ≤ utf8Len s
  start_boundary : IsBoundary s start
  stop_boundary : IsBoundary s stop

theorem isBoundary_iff {s : List Char} {offset : Nat} :
    IsBoundary s offset ↔ ∃ front back, s = front ++ back ∧ offset = utf8Len front := by
  rw [IsBoundary, String.Pos.Raw.isValid_iff_exists_append]
  constructor
  · rintro ⟨front, back, hs, hoffset⟩
    refine ⟨front.toList, back.toList, ?_, ?_⟩
    · rw [← String.toList_append, ← hs, String.toList_ofList]
    · rw [← String.utf8ByteSize_ofList, String.ofList_toList]
      exact congrArg String.Pos.Raw.byteIdx hoffset
  · rintro ⟨front, back, rfl, rfl⟩
    refine ⟨String.ofList front, String.ofList back, String.ofList_append, ?_⟩
    rw [← String.utf8ByteSize_ofList]
    rfl

theorem utf8Len_eq_zero {s : List Char} (h : utf8Len s = 0) : s = [] := by
  cases s with
  | nil => rfl
  | cons c s =>
    rw [String.utf8Len_cons] at h
    have := c.utf8Size_pos
    omega

theorem partAt?_append (front back : List Char) :
    partAt? (front ++ back) (utf8Len front) = some (front, back) := by
  induction front with
  | nil => rw [List.nil_append, String.utf8Len_nil, partAt?]
  | cons c front ih =>
    have hpos := c.utf8Size_pos
    obtain ⟨n, hn⟩ : ∃ n, utf8Len front + c.utf8Size = n + 1 :=
      ⟨utf8Len front + c.utf8Size - 1, by omega⟩
    have hle : c.utf8Size ≤ n + 1 := by omega
    have hrest : n + 1 - c.utf8Size = utf8Len front := by omega
    rw [List.cons_append, String.utf8Len_cons, hn, partAt?, if_pos hle, hrest, ih]
    rfl

theorem eq_of_partAt? {s front back : List Char} {offset : Nat}
    (h : partAt? s offset = some (front, back)) : s = front ++ back ∧ offset = utf8Len front := by
  induction s generalizing offset front with
  | nil =>
    cases offset with
    | zero =>
      obtain ⟨rfl, rfl⟩ := Prod.mk.inj (Option.some.inj h)
      exact ⟨rfl, rfl⟩
    | succ offset => exact absurd h (by simp [partAt?])
  | cons c s ih =>
    cases offset with
    | zero =>
      obtain ⟨rfl, rfl⟩ := Prod.mk.inj (Option.some.inj h)
      exact ⟨rfl, rfl⟩
    | succ offset =>
      rw [partAt?] at h
      split at h
      · rename_i hle
        obtain ⟨⟨rest, behind⟩, hrest, hsides⟩ := Option.map_eq_some_iff.1 h
        obtain ⟨rfl, rfl⟩ := Prod.mk.inj hsides
        obtain ⟨hs, hoffset⟩ := ih hrest
        refine ⟨by rw [hs, List.cons_append], ?_⟩
        rw [String.utf8Len_cons, ← hoffset]
        omega
      · exact absurd h (by simp)

/-- **What stands between two texts is the slice between their offsets.** -/
theorem slice?_append {s front middle back : List Char} {start stop : Nat}
    (hs : s = front ++ middle ++ back) (hstart : start = utf8Len front)
    (hstop : stop = utf8Len front + utf8Len middle) : slice? s start stop = some middle := by
  have hle : start ≤ stop := by omega
  have hfront : partAt? s stop = some (front ++ middle, back) := by
    rw [hs, hstop, ← String.utf8Len_append, partAt?_append]
  rw [slice?, if_pos hle, hfront, Option.bind_some, hstart, partAt?_append]
  rfl

/-- What a text begins with is the slice up to its end. -/
theorem slice?_front {s middle back : List Char} (hs : s = middle ++ back) :
    slice? s 0 (utf8Len middle) = some middle := by
  have hsplit : s = [] ++ middle ++ back := hs
  exact slice?_append hsplit rfl (Nat.zero_add _).symm

/-- What a text ends with is the slice from its beginning on. -/
theorem slice?_back {s front middle : List Char} {start : Nat} (hs : s = front ++ middle)
    (hstart : start = utf8Len front) : slice? s start (utf8Len s) = some middle := by
  have hsplit : s = front ++ middle ++ [] := by rw [hs, List.append_nil]
  exact slice?_append hsplit hstart (by rw [hs, String.utf8Len_append])

/-- **There is a slice exactly between two boundaries in their order.** -/
theorem isSome_slice?_iff {s : List Char} {start stop : Nat} :
    (slice? s start stop).isSome = true ↔ IsSlice s start stop := by
  constructor
  · intro h
    rw [slice?] at h
    split at h
    · rename_i hle
      obtain ⟨t, ht⟩ := Option.isSome_iff_exists.1 h
      obtain ⟨⟨front, back⟩, hstop, hslice⟩ := Option.bind_eq_some_iff.1 ht
      obtain ⟨⟨lead, middle⟩, hstart, rfl⟩ := Option.map_eq_some_iff.1 hslice
      obtain ⟨rfl, rfl⟩ := eq_of_partAt? hstop
      obtain ⟨rfl, rfl⟩ := eq_of_partAt? hstart
      refine ⟨hle, by rw [String.utf8Len_append _ back]; omega, ?_, ?_⟩
      · exact isBoundary_iff.2 ⟨lead, middle ++ back, List.append_assoc _ _ _, rfl⟩
      · exact isBoundary_iff.2 ⟨lead ++ middle, back, rfl, rfl⟩
    · exact absurd h (by simp)
  · rintro ⟨hle, -, hstart, hstop⟩
    obtain ⟨lead, rest, hlead, rfl⟩ := isBoundary_iff.1 hstart
    obtain ⟨front, back, hfront, rfl⟩ := isBoundary_iff.1 hstop
    -- the text in front of the first offset begins the text in front of the second
    obtain ⟨middle, rfl⟩ : ∃ middle, front = lead ++ middle := by
      rcases List.append_eq_append_iff.1 (hlead.symm.trans hfront) with
        ⟨middle, hmiddle, -⟩ | ⟨more, hmore, -⟩
      · exact ⟨middle, hmiddle⟩
      · rw [hmore, String.utf8Len_append] at hle
        have hnone : more = [] := utf8Len_eq_zero (by omega)
        exact ⟨[], by rw [hmore, hnone, List.append_nil, List.append_nil]⟩
    rw [slice?_append hfront rfl (String.utf8Len_append lead middle)]
    rfl

instance (s : List Char) (start stop : Nat) : Decidable (IsSlice s start stop) :=
  decidable_of_iff _ isSome_slice?_iff

/-- An offset inside a character is none of a slice. -/
example : ¬ IsSlice ['é', 'a'] 1 3 := by decide

/-- Between the offsets of a slice there is one. -/
theorem isSlice_of_slice? {s t : List Char} {start stop : Nat} (h : slice? s start stop = some t) :
    IsSlice s start stop :=
  isSome_slice?_iff.1 (by rw [h]; rfl)

/-! ### Searching -/

/-- The offset of the leftmost occurrence of a separator. -/
def offset? (separator s : List Char) : Option Nat :=
  (cut? separator s).map fun sides => utf8Len sides.1

/-- The offset of the leftmost occurrence of a separator that does not begin in front of an offset;
where the offset is none of a place, nothing is found. -/
def offsetFrom? (separator s : List Char) (start : Nat) : Option Nat :=
  (partAt? s start).bind fun sides => (offset? separator sides.2).map (start + ·)

/-- The offset of the last occurrence of a character. -/
def lastOffset? (c : Char) (s : List Char) : Option Nat :=
  (cutLast? c s).map fun sides => utf8Len sides.1

/-- **What is found behind a text is found in the rest.** -/
theorem offsetFrom?_append {separator s front back : List Char} {start : Nat}
    (hs : s = front ++ back) (hstart : start = utf8Len front) :
    offsetFrom? separator s start = (offset? separator back).map (start + ·) := by
  rw [offsetFrom?, hs, hstart, partAt?_append]
  rfl

theorem offset?_of_cut? {separator s before after : List Char}
    (h : cut? separator s = some (before, after)) : offset? separator s = some (utf8Len before) := by
  rw [offset?, h]
  rfl

theorem offset?_of_not_mem {c : Char} {s : List Char} (h : c ∉ s) : offset? [c] s = none := by
  rw [offset?, cut?_char_none h]
  rfl

/-- A character that does not occur is not found from any offset on. -/
theorem offsetFrom?_of_not_mem {c : Char} {s : List Char} (h : c ∉ s) (start : Nat) :
    offsetFrom? [c] s start = none := by
  rw [offsetFrom?]
  cases hpart : partAt? s start with
  | none => rfl
  | some sides =>
    have hback : c ∉ sides.2 := fun hmem =>
      h (by rw [(eq_of_partAt? hpart).1]; exact List.mem_append_right _ hmem)
    rw [Option.bind_some, offset?_of_not_mem hback]
    rfl

/-- **What is found in front of the end of a text is found in the text itself.** -/
theorem filter_offset?_append (c : Char) (start : Nat) (s rest : List Char) :
    ((offset? [c] (s ++ rest)).map (start + ·)).filter
        (fun offset => decide (offset < start + utf8Len s)) =
      (offset? [c] s).map (start + ·) := by
  by_cases hmem : c ∈ s
  · obtain ⟨before, after, rfl, hbefore⟩ := List.eq_append_cons_of_mem hmem
    have hlong : cut? [c] (before ++ c :: after ++ rest) = some (before, after ++ rest) := by
      rw [List.append_assoc, List.cons_append, cut?_char hbefore]
    have hless : start + utf8Len before < start + utf8Len (before ++ c :: after) := by
      have hpos := c.utf8Size_pos
      rw [String.utf8Len_append, String.utf8Len_cons]
      omega
    rw [offset?_of_cut? hlong, offset?_of_cut? (cut?_char hbefore after), Option.map_some,
      Option.filter_some, if_pos (decide_eq_true hless)]
  · rw [offset?_of_not_mem hmem, Option.map_none]
    cases hcut : cut? [c] (s ++ rest) with
    | none =>
      rw [offset?, hcut]
      rfl
    | some sides =>
      obtain ⟨before, after⟩ := sides
      -- the first occurrence lies behind the text
      have hsplit : before ++ c :: after = s ++ rest := by
        rw [eq_of_cut? hcut, List.append_assoc]
        rfl
      obtain ⟨between, rfl⟩ : ∃ between, before = s ++ between := by
        rcases List.append_eq_append_iff.1 hsplit with ⟨between, rfl, hbetween⟩ | ⟨between, hs, -⟩
        · cases between with
          | nil => exact ⟨[], by rw [List.append_nil, List.append_nil]⟩
          | cons d between =>
            obtain ⟨rfl, -⟩ := List.cons.inj hbetween
            exact absurd (by simp) hmem
        · exact ⟨between, hs⟩
      have hle : ¬ start + utf8Len (s ++ between) < start + utf8Len s := by
        rw [String.utf8Len_append]
        omega
      rw [offset?_of_cut? hcut, Option.map_some, Option.filter_some,
        if_neg (mt decide_eq_true_iff.1 hle)]

end Deobfuscation.Text
