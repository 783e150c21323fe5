import Deobfuscation.Regex.Reader
import Mathlib.Data.List.TakeWhile

/-!
# How far an escape reaches

While no flags are set, an escape ends before the first **mark**: what follows its first character
in it is no parenthesis, no opening bracket, no backslash and no percent sign.  Apart from
assertions, an escape does not look at what comes after it, so another text there makes no
difference.

* `Unmarked`, `UpTo` — a text without marks, and one without marks up to a rest;
* `Takes` — a text is read up to a rest, and so it is in front of any other rest;
* `unmarked_of_query` — **proved**: a query that asks for a known set holds no marks;
* `ofEscape_cases` — **proved**: an escape takes an unmarked text, or is an assertion.
-/

namespace Deobfuscation.Regex

/-! ### Marks -/

/-- The characters that a text between two pieces of a template is searched for. -/
def marks : List Char := ['%', '(', ')', '[', '\\']

/-- A text without marks. -/
def Unmarked (s : List Char) : Prop := ∀ c ∈ s, c ∉ marks

instance (s : List Char) : Decidable (Unmarked s) :=
  List.decidableBAll (· ∉ marks) s

/-- What holds of every mark, mark by mark. -/
theorem forall_marks {p : Char → Prop} :
    (∀ c ∈ marks, p c) ↔ p '%' ∧ p '(' ∧ p ')' ∧ p '[' ∧ p '\\' := by
  simp [marks]

namespace Unmarked

variable {s t : List Char} {c : Char}

theorem nil : Unmarked [] := by simp [Unmarked]

theorem cons (hc : c ∉ marks) (hs : Unmarked s) : Unmarked (c :: s) :=
  List.forall_mem_cons.2 ⟨hc, hs⟩

theorem append (hs : Unmarked s) (ht : Unmarked t) : Unmarked (s ++ t) :=
  List.forall_mem_append.2 ⟨hs, ht⟩

end Unmarked

/-- A text is unmarked up to a rest. -/
def UpTo (s rest : List Char) : Prop := ∃ w, Unmarked w ∧ s = w ++ rest

namespace UpTo

variable {s t rest : List Char}

theorem refl (s : List Char) : UpTo s s := ⟨[], .nil, rfl⟩

theorem trans (hst : UpTo s t) (ht : UpTo t rest) : UpTo s rest := by
  obtain ⟨v, hv, rfl⟩ := hst
  obtain ⟨w, hw, rfl⟩ := ht
  exact ⟨v ++ w, hv.append hw, (List.append_assoc _ _ _).symm⟩

theorem cons {c : Char} (hc : c ∉ marks) (h : UpTo s rest) : UpTo (c :: s) rest := by
  obtain ⟨w, hw, rfl⟩ := h
  exact ⟨c :: w, .cons hc hw, rfl⟩

/-- The characters that pass a test which no mark passes. -/
theorem dropWhile {test : Char → Bool} (h : ∀ c ∈ marks, test c = false) (s : List Char) :
    UpTo s (s.dropWhile test) := by
  refine ⟨s.takeWhile test, fun c hmem hc => ?_, List.takeWhile_append_dropWhile.symm⟩
  have := List.mem_takeWhile_imp hmem
  simp [h c hc] at this

end UpTo

/-- A text is read up to a rest; what is read holds no marks and is read so in front of any rest. -/
def Takes {α : Type} (read : List Char → Option (α × List Char)) (s : List Char) (a : α)
    (rest : List Char) : Prop :=
  ∃ w, Unmarked w ∧ s = w ++ rest ∧ ∀ tail, read (w ++ tail) = some (a, tail)

theorem Takes.upTo {α : Type} {read : List Char → Option (α × List Char)} {s rest : List Char}
    {a : α} (h : Takes read s a rest) : UpTo s rest := by
  obtain ⟨w, hw, hs, -⟩ := h
  exact ⟨w, hw, hs⟩

/-! ### Flags -/

/-- Nothing is left out while no flags are set. -/
@[simp]
theorem skip_none (s : List Char) : Flags.none.skip s = s := rfl

theorem span_none (test : Char → Bool) (s : List Char) :
    Flags.none.span test s = (s.takeWhile test, s.dropWhile test) := by
  have hwithin : ∀ {bound : Nat} {s : List Char}, s.length ≤ bound →
      Flags.span.within .none test bound s = (s.takeWhile test, s.dropWhile test) := by
    intro bound s
    induction s generalizing bound with
    | nil => intro _; cases bound <;> rfl
    | cons c s ih =>
      intro hbound
      cases bound with
      | zero => simp at hbound
      | succ bound =>
        rw [Flags.span.within, skip_none, ih (Nat.le_of_succ_le_succ hbound)]
        cases hc : test c <;> simp [hc]
  exact hwithin (Nat.le_refl _)

/-! ### Code points -/

theorem not_mark_of_hexDigit? {c : Char} {n : Nat} (h : Text.hexDigit? c = some n) : c ∉ marks := by
  intro hc
  have hnone : ∀ d ∈ marks, Text.hexDigit? d = none := forall_marks.2 (by decide)
  simp [hnone c hc] at h

theorem takes_hexDigits (number count : Nat) {s rest : List Char} {n : Nat}
    (h : readHexDigits .none number count s = some (n, rest)) :
    Takes (readHexDigits .none number count) s n rest := by
  induction count generalizing number s with
  | zero =>
    obtain ⟨rfl, rfl⟩ := Prod.mk.inj (Option.some.inj h)
    exact ⟨[], .nil, rfl, fun tail => rfl⟩
  | succ count ih =>
    cases s with
    | nil => simp [readHexDigits] at h
    | cons c s =>
      rw [readHexDigits, Option.bind_eq_some_iff] at h
      obtain ⟨digit, hdigit, h⟩ := h
      obtain ⟨w, hw, rfl, hread⟩ := ih _ h
      refine ⟨c :: w, .cons (not_mark_of_hexDigit? hdigit) hw, rfl, fun tail => ?_⟩
      rw [List.cons_append, readHexDigits, hdigit]
      exact hread tail

/-- Hexadecimal digits hold no marks. -/
theorem unmarked_of_hexNumberAfter {digits : List Char} {number n : Nat}
    (h : Text.hexNumberAfter number digits = some n) : Unmarked digits := by
  induction digits generalizing number with
  | nil => exact .nil
  | cons c digits ih =>
    rw [Text.hexNumberAfter, Option.bind_eq_some_iff] at h
    obtain ⟨digit, hdigit, h⟩ := h
    exact .cons (not_mark_of_hexDigit? hdigit) (ih h)

/-- What stands in braces ends at the first closing one. -/
theorem readBraced_iff {s content rest : List Char} :
    readBraced .none s = some (content, rest) ↔
      s = content ++ '\x7d' :: rest ∧ '\x7d' ∉ content := by
  rw [readBraced, skip_none, span_none]
  constructor
  · intro h
    split at h
    · rename_i hspan
      obtain ⟨rfl, rfl⟩ := Prod.mk.inj (Option.some.inj h)
      obtain ⟨rfl, hdrop⟩ := Prod.mk.inj hspan
      refine ⟨by rw [← hdrop, List.takeWhile_append_dropWhile], fun hmem => ?_⟩
      simpa using List.mem_takeWhile_imp hmem
    · simp at h
  · rintro ⟨rfl, hcontent⟩
    have hpass : ∀ c ∈ content, (c != '\x7d') = true := by
      intro c hc
      simp only [bne_iff_ne, ne_eq]
      rintro rfl
      exact hcontent hc
    rw [List.takeWhile_append_of_pos hpass, List.dropWhile_append_of_pos hpass]
    simp

/-- A code point takes hexadecimal digits, with braces perhaps. -/
theorem takes_hex {count : Nat} (hcount : 0 < count) {s rest : List Char} {c : Char}
    (h : readHex .none count s = some (c, rest)) : Takes (readHex .none count) s c rest := by
  rw [readHex, skip_none] at h
  split at h
  · rename_i s
    simp only [Option.bind_eq_bind, Option.bind_eq_some_iff, Prod.exists] at h
    obtain ⟨digits, after, hbraced, d, hd, hrest⟩ := h
    obtain ⟨rfl, rfl⟩ := Prod.mk.inj (Option.some.inj hrest)
    obtain ⟨rfl, hdigits⟩ := readBraced_iff.1 hbraced
    obtain ⟨n, hn, hchar⟩ := hd
    have hunmarked : Unmarked digits := by
      unfold Text.hexNumber? at hn
      split at hn
      · simp at hn
      · exact unmarked_of_hexNumberAfter hn
    refine ⟨'\x7b' :: (digits ++ ['\x7d']), .cons (by decide) (hunmarked.append (by decide)),
      by simp, fun tail => ?_⟩
    have hagain : readBraced .none (digits ++ '\x7d' :: tail) = some (digits, tail) :=
      readBraced_iff.2 ⟨rfl, hdigits⟩
    simp only [readHex, skip_none, List.cons_append, List.append_assoc, List.nil_append, hagain,
      Option.bind_eq_bind, Option.bind_some, hn, hchar]
    rfl
  · rename_i hbrace
    simp only [Option.bind_eq_bind, Option.bind_eq_some_iff, Prod.exists] at h
    obtain ⟨number, after, hnumber, d, hd, h⟩ := h
    obtain ⟨rfl, rfl⟩ := Prod.mk.inj (Option.some.inj h)
    obtain ⟨w, hw, rfl, hread⟩ := takes_hexDigits 0 count hnumber
    -- at least one digit is read, and it is no brace
    obtain ⟨e, w, rfl⟩ : ∃ e v, w = e :: v := by
      cases w with
      | nil =>
        obtain ⟨count, rfl⟩ := Nat.exists_eq_add_of_lt hcount
        have := hread []
        simp [readHexDigits] at this
      | cons e v => exact ⟨e, v, rfl⟩
    refine ⟨e :: w, hw, rfl, fun tail => ?_⟩
    have he : e ≠ '\x7b' := fun h => hbrace (w ++ after) (by rw [h]; rfl)
    have hagain := hread tail
    rw [readHex, skip_none]
    split
    · rename_i t ht
      exact absurd (List.cons.inj ht).1 he
    · simp only [Option.bind_eq_bind, hagain, Option.bind_some, hd]
      rfl

/-! ### Queries -/

open Unicode (plainName looseName findNamed? NamedSet)

/-- A mark stays in a name as it is. -/
theorem mem_plainName {name : List Char} {c : Char} (hc : c ∈ marks) (hmem : c ∈ name) :
    c ∈ plainName name := by
  have hstays : ∀ d ∈ marks, (decide (d.toNat < 0x80) && d != ' ' && d != '_' && d != '-') = true ∧
      d.toLower = d := forall_marks.2 (by decide)
  obtain ⟨hkept, hlower⟩ := hstays c hc
  exact List.mem_map.2 ⟨c, List.mem_filter.2 ⟨hmem, hkept⟩, hlower⟩

theorem unmarked_of_looseName {name : List Char} (h : Unmarked (looseName name)) :
    Unmarked name := by
  intro c hmem hc
  refine h c ?_ hc
  rw [looseName]
  split
  · rename_i his
    match name, his with
    | d :: e :: name, his =>
      -- the word in front has no marks
      simp only [Unicode.beginsWithIs, Bool.and_eq_true, beq_iff_eq] at his
      have hno : ∀ f ∈ marks, f.toLower ≠ 'i' ∧ f.toLower ≠ 's' := forall_marks.2 (by decide)
      obtain rfl | rfl | hmem := by simpa using hmem
      · exact absurd his.1.1 (hno c hc).1
      · exact absurd his.1.2 (hno c hc).2
      · exact mem_plainName hc hmem
  · exact mem_plainName hc hmem

/-- What is a mark in lower case is that mark. -/
theorem mem_marks_of_toLower {c : Char} (h : c.toLower ∈ marks) : c ∈ marks := by
  unfold Char.toLower at h
  split at h
  · rename_i hupper
    exfalso
    have hlow : 97 ≤ (c.val + ('a'.val - 'A'.val)).toNat := by
      have hfirst : 65 ≤ c.val.toNat := hupper.1
      have hlast : c.val.toNat ≤ 90 := hupper.2
      rw [UInt32.toNat_add, show ('a'.val - 'A'.val).toNat = 32 from rfl]
      omega
    have hmarks : ∀ d ∈ marks, d.val.toNat < 97 := forall_marks.2 (by decide)
    exact absurd (hmarks _ h) (Nat.not_lt.2 hlow)
  · exact h

/-- A loose name has no other marks than the name. -/
theorem unmarked_looseName {name : List Char} (h : Unmarked name) : Unmarked (looseName name) := by
  have hplain : ∀ {t : List Char}, Unmarked t → Unmarked (plainName t) := by
    intro t ht c hmem hc
    obtain ⟨d, hd, rfl⟩ := List.mem_map.1 hmem
    exact ht d (List.mem_filter.1 hd).1 (mem_marks_of_toLower hc)
  rw [looseName]
  split
  · exact hplain fun c hc => h c (List.mem_of_mem_drop hc)
  · exact hplain h

/-- A mark of a string is one of its bytes. -/
theorem toUInt8_mem_bytes {s : String} {c : Char} (hc : c ∈ marks) (hmem : c ∈ s.toList) :
    c.toUInt8 ∈ s.toByteArray.data.toList := by
  have hencoded : ∀ d ∈ marks, String.utf8EncodeChar d = [d.toUInt8] :=
    forall_marks.2 (by decide)
  rw [← String.ofList_toList (s := s), String.toByteArray_ofList]
  simp only [List.utf8Encode, List.data_toByteArray, List.mem_flatMap]
  exact ⟨c, hmem, by rw [hencoded c hc]; exact List.mem_singleton_self _⟩

/-- The sets go by names without marks.  The bytes of the names tell it. -/
def namesUnmarked (sets : List NamedSet) : Bool :=
  sets.all fun s => s.names.all fun known =>
    known.toByteArray.data.toList.all fun b => !(marks.map Char.toUInt8).contains b

theorem unmarked_of_find {sets : List NamedSet} (hsets : namesUnmarked sets = true)
    {name : List Char} {s : NamedSet} (h : sets.find? (fun s => s.hasName name) = some s) :
    Unmarked name := by
  have hs := List.all_eq_true.1 hsets s (List.mem_of_find?_eq_some h)
  have hname : s.hasName name = true := by simpa using List.find?_some h
  obtain ⟨known, hknown, hequal⟩ := List.any_eq_true.1 hname
  have hbytes := List.all_eq_true.1 (List.all_eq_true.1 hs known hknown)
  refine beq_iff_eq.1 hequal ▸ unmarked_looseName fun c hmem hc => ?_
  have hbyte := hbytes _ (toUInt8_mem_bytes hc hmem)
  simp only [Bool.not_eq_true', List.contains_eq_mem, decide_eq_false_iff_not] at hbyte
  exact hbyte (List.mem_map_of_mem hc)

theorem unmarked_of_findNamed? {sets : List NamedSet} (hsets : namesUnmarked sets = true)
    {name : List Char} {members : Unicode.Repertoire} (h : findNamed? sets name = some members) :
    Unmarked name := by
  obtain ⟨s, hs, -⟩ := Option.map_eq_some_iff.1 h
  exact unmarked_of_find hsets hs

/-- The tables of named sets. -/
def tables : List (List NamedSet) :=
  [Unicode.properties, Unicode.categories, Unicode.scripts, Unicode.ages, Unicode.graphemeBreaks,
    Unicode.wordBreaks, Unicode.sentenceBreaks]

theorem namesUnmarked_tables : tables.all namesUnmarked = true := by decide +kernel

theorem namesUnmarked_of_mem {sets : List NamedSet} (h : sets ∈ tables) :
    namesUnmarked sets = true :=
  List.all_eq_true.1 namesUnmarked_tables sets h

/-- What goes by a name of its own has a name without marks. -/
theorem unmarked_of_named? {name : List Char} {members : Unicode.Repertoire}
    (h : Unicode.Query.named? name = some members) : Unmarked name := by
  refine unmarked_of_looseName ?_
  simp only [Unicode.Query.named?, Option.orElse_eq_orElse, Option.orElse_eq_or,
    Option.or_eq_some_iff] at h
  rcases h with hproperty | ⟨-, hcategory | ⟨-, hscript⟩⟩
  · exact unmarked_of_findNamed? (namesUnmarked_of_mem (by simp [tables])) hproperty
  · exact unmarked_of_findNamed? (namesUnmarked_of_mem (by simp [tables])) hcategory
  · exact unmarked_of_findNamed? (namesUnmarked_of_mem (by simp [tables])) hscript

/-- What a property and a value ask for has names without marks. -/
theorem unmarked_of_valued? {property value : List Char} {members : Unicode.Repertoire}
    (h : Unicode.Query.valued? property value = some members) :
    Unmarked property ∧ Unmarked value := by
  have hproperty : ∀ {known : String}, String.ofList (looseName property) = known →
      Unmarked known.toList → Unmarked property := by
    rintro known rfl hknown
    rw [String.toList_ofList] at hknown
    exact unmarked_of_looseName hknown
  have hvalue : ∀ {sets : List NamedSet}, sets ∈ tables →
      findNamed? sets (looseName value) = some members → Unmarked value := fun hsets hfound =>
    unmarked_of_looseName (unmarked_of_findNamed? (namesUnmarked_of_mem hsets) hfound)
  unfold Unicode.Query.valued? at h
  dsimp only at h
  split at h
  case h_5 hname | h_6 hname =>
    obtain ⟨script, hscript, -⟩ := Option.map_eq_some_iff.1 h
    exact ⟨hproperty hname (by decide),
      unmarked_of_looseName (unmarked_of_find (namesUnmarked_of_mem (by simp [tables])) hscript)⟩
  case h_14 => simp at h
  all_goals
    rename_i hname
    exact ⟨hproperty hname (by decide), hvalue (by simp [tables]) h⟩

/-- A query that asks for a known set holds no marks. -/
theorem unmarked_of_query {s : List Char} {query : Unicode.Query}
    (h : Unicode.Query.ofText? s = some query) : Unmarked s := by
  -- a property and a value, parted by a separator
  have hparted : ∀ {separator property value : List Char} {members : Unicode.Repertoire},
      Text.cut? separator s = some (property, value) → Unmarked separator →
      Unicode.Query.valued? property value = some members → Unmarked s := by
    intro separator property value members hcut hseparator hvalued
    obtain ⟨hproperty, hvalue⟩ := unmarked_of_valued? hvalued
    rw [Text.eq_of_cut? hcut]
    exact (hproperty.append hseparator).append hvalue
  unfold Unicode.Query.ofText? at h
  split at h
  · rename_i property value hcut
    obtain ⟨members, hvalued, -⟩ := Option.map_eq_some_iff.1 h
    exact hparted hcut (by decide) hvalued
  · split at h
    · rename_i property value hcut
      obtain ⟨members, hvalued, -⟩ := Option.map_eq_some_iff.1 h
      rcases Option.or_eq_some_iff.1 hcut with hcolon | ⟨-, hequals⟩
      · exact hparted hcolon (by decide) hvalued
      · exact hparted hequals (by decide) hvalued
    · obtain ⟨members, hnamed, -⟩ := Option.map_eq_some_iff.1 h
      exact unmarked_of_named? hnamed

theorem unmarked_of_querySet {negated : Bool} {query : List Char} {set : CharSet}
    (h : querySet .none negated query = some set) : Unmarked query := by
  obtain ⟨asked, hasked, -⟩ := Option.map_eq_some_iff.1 h
  exact unmarked_of_query hasked

/-- A query takes a letter or a text in braces. -/
theorem takes_query {negated : Bool} {s rest : List Char} {set : CharSet}
    (h : readQuery .none negated s = some (set, rest)) :
    Takes (readQuery .none negated) s set rest := by
  rw [readQuery, if_neg (by decide), skip_none] at h
  split at h
  · simp at h
  · simp at h
  · rename_i s
    simp only [Option.bind_eq_bind, Option.bind_eq_some_iff, Prod.exists] at h
    obtain ⟨query, after, hbraced, asked, hasked, h⟩ := h
    obtain ⟨rfl, rfl⟩ := Prod.mk.inj (Option.some.inj h)
    obtain ⟨rfl, hquery⟩ := readBraced_iff.1 hbraced
    refine ⟨'\x7b' :: (query ++ ['\x7d']),
      .cons (by decide) ((unmarked_of_querySet hasked).append (by decide)), by simp, fun tail => ?_⟩
    have hagain : readBraced .none (query ++ '\x7d' :: tail) = some (query, tail) :=
      readBraced_iff.2 ⟨rfl, hquery⟩
    rw [readQuery, if_neg (by decide)]
    simp only [skip_none, List.cons_append, List.append_assoc, List.nil_append, hagain,
      Option.bind_eq_bind, Option.bind_some, hasked]
    rfl
  · rename_i c s hbackslash hbrace
    obtain ⟨asked, hasked, h⟩ := Option.map_eq_some_iff.1 h
    obtain ⟨rfl, rfl⟩ := Prod.mk.inj h
    refine ⟨[c], unmarked_of_querySet hasked, rfl, fun tail => ?_⟩
    rw [readQuery, if_neg (by decide), skip_none, List.singleton_append]
    split
    · simp_all
    · simp_all
    · simp_all
    · simp_all

/-! ### Escapes -/

/-- What follows the escape of a word boundary is unmarked. -/
theorem upTo_of_readWordPlace {s rest : List Char} {place : WordPlace}
    (h : readWordPlace .none s = some (place, rest)) : UpTo s rest := by
  unfold readWordPlace at h
  split at h
  · rename_i s
    rw [skip_none] at h
    split at h
    · simp at h
    · rename_i c t
      split at h
      · rw [span_none] at h
        split at h
        · rename_i name after hspan
          obtain ⟨known, -, hknown⟩ := Option.map_eq_some_iff.1 h
          obtain ⟨rfl, rfl⟩ := Prod.mk.inj hknown
          obtain ⟨-, hdrop⟩ := Prod.mk.inj hspan
          have hletter : ∀ c ∈ marks, isNameLetter c = false := forall_marks.2 (by decide)
          have hname := UpTo.dropWhile hletter (c :: t)
          rw [hdrop] at hname
          exact .cons (by decide) (hname.trans (.cons (by decide) (.refl after)))
        · simp at h
      · obtain ⟨-, rfl⟩ := Prod.mk.inj (Option.some.inj h)
        exact .refl _
  · obtain ⟨-, rfl⟩ := Prod.mk.inj (Option.some.inj h)
    exact .refl _

/-- What is read is made into something else. -/
theorem Takes.map {α β : Type} {read : List Char → Option (α × List Char)} {s rest : List Char}
    {a : α} (h : Takes read s a rest) (f : α → β) :
    Takes (fun s => (read s).map fun (a, rest) => (f a, rest)) s (f a) rest := by
  obtain ⟨w, hw, hs, hread⟩ := h
  exact ⟨w, hw, hs, fun tail => congrArg (Option.map _) (hread tail)⟩

/-- Two ways to read that agree take the same. -/
theorem Takes.congr {α : Type} {read read' : List Char → Option (α × List Char)}
    {s rest : List Char} {a : α} (h : Takes read s a rest) (hread : ∀ t, read' t = read t) :
    Takes read' s a rest :=
  (funext hread : read' = read) ▸ h

/-- Nothing is taken after a character that is read by itself. -/
theorem takes_nil {α : Type} {read : List Char → Option (α × List Char)} {a : α}
    (h : ∀ tail, read tail = some (a, tail)) (s : List Char) : Takes read s a s :=
  ⟨[], .nil, rfl, h⟩

theorem hexCount?_pos {c : Char} {count : Nat} (h : hexCount? c = some count) : 0 < count := by
  unfold hexCount? at h
  split at h
  · exact Option.some.inj h ▸ (by decide : 0 < 2)
  · exact Option.some.inj h ▸ (by decide : 0 < 4)
  · exact Option.some.inj h ▸ (by decide : 0 < 8)
  · simp at h

/-- What the letter of an escape tells, where it is neither a character by itself nor a word
boundary nor a query: a class and a control character take nothing more, and a code point takes its
digits. -/
theorem ofEscape_letter {c : Char} (hself : ¬isEscapable c = true) (hboundary : c ≠ 'b')
    (hquery : ¬(c = 'p' ∨ c = 'P')) {s rest : List Char} {a : Atom}
    (h : Atom.ofEscape .none (c :: s) = some (a, rest)) :
    (∃ p, a = .assertion p ∧ UpTo s rest) ∨
      Takes (fun s => Atom.ofEscape .none (c :: s)) s a rest := by
  rw [Atom.ofEscape, if_neg hself, if_neg hboundary, if_neg hquery] at h
  -- the first of the four tables that has the letter decides
  cases hclass : classOfLetter? .none c
  case some set =>
    simp only [hclass, Option.map_eq_some_iff, Prod.mk.injEq] at h
    obtain ⟨negated, hnegated, rfl, rfl⟩ := h
    refine .inr (takes_nil (fun tail => ?_) s)
    simp [Atom.ofEscape, hself, hboundary, hquery, hclass, hnegated]
  cases hcontrol : controlOfLetter? c
  case some control =>
    simp only [hclass, hcontrol, Option.some.injEq, Prod.mk.injEq] at h
    obtain ⟨rfl, rfl⟩ := h
    refine .inr (takes_nil (fun tail => ?_) s)
    simp [Atom.ofEscape, hself, hboundary, hquery, hclass, hcontrol]
  cases hhex : hexCount? c
  case some count =>
    simp only [hclass, hcontrol, hhex, Option.map_eq_some_iff, Prod.mk.injEq] at h
    obtain ⟨⟨d, after⟩, hd, rfl, rfl⟩ := h
    refine .inr (((takes_hex (hexCount?_pos hhex) hd).map Atom.char).congr fun t => ?_)
    simp [Atom.ofEscape, hself, hboundary, hquery, hclass, hcontrol, hhex]
  cases hplace : assertionOf? .none c
  case some place =>
    simp only [hclass, hcontrol, hhex, hplace, Option.some.injEq, Prod.mk.injEq] at h
    obtain ⟨rfl, rfl⟩ := h
    exact .inl ⟨place, rfl, .refl s⟩
  simp [hclass, hcontrol, hhex, hplace] at h

/-- **An escape takes an unmarked text, or is an assertion that has one behind it.** -/
theorem ofEscape_cases {c : Char} {s rest : List Char} {a : Atom}
    (h : Atom.ofEscape .none (c :: s) = some (a, rest)) :
    (∃ p, a = .assertion p ∧ UpTo s rest) ∨
      Takes (fun s => Atom.ofEscape .none (c :: s)) s a rest := by
  by_cases hself : isEscapable c = true
  · rw [Atom.ofEscape, if_pos hself] at h
    obtain ⟨rfl, rfl⟩ := Prod.mk.inj (Option.some.inj h)
    exact .inr (takes_nil (fun tail => by rw [Atom.ofEscape, if_pos hself]) s)
  by_cases hboundary : c = 'b'
  · rw [Atom.ofEscape, if_neg hself, if_pos hboundary] at h
    obtain ⟨⟨place, after⟩, hplace, h⟩ := Option.map_eq_some_iff.1 h
    obtain ⟨rfl, rfl⟩ := Prod.mk.inj h
    exact .inl ⟨_, rfl, upTo_of_readWordPlace hplace⟩
  by_cases hquery : c = 'p' ∨ c = 'P'
  · rw [Atom.ofEscape, if_neg hself, if_neg hboundary, if_pos hquery] at h
    obtain ⟨⟨set, after⟩, hset, h⟩ := Option.map_eq_some_iff.1 h
    obtain ⟨rfl, rfl⟩ := Prod.mk.inj h
    exact .inr (((takes_query hset).map Atom.class).congr fun t => by
      rw [Atom.ofEscape, if_neg hself, if_neg hboundary, if_pos hquery])
  exact ofEscape_letter hself hboundary hquery h

end Deobfuscation.Regex
