import Deobfuscation.Proofs.Regex.Inversion
import Deobfuscation.Proofs.Template.Names

/-!
# What follows the method of a frame

Behind the method of a frame there may be an offset, empty parentheses, and the place of the frame:
a source file and a line between parentheses.  All of it is optional, so whatever follows a method
can be read, and every part is read where it can be.

* `IsLead`, `IsLater` — what stands in front of the place, and a further line number behind a colon;
* `afterPlaceExpr`, `exists_first_afterPlace` — what may follow the place;
* `first_place`, `first_source_of_place` — **proved**: a source file and a line between parentheses
  are captured, wherever the place stands;
* `exists_first_place` — **proved**: so is a source file alone;
* `cases_of_first_place`, `cases_of_first_source` — **proved**: what was there if a place was read,
  and that nothing is captured otherwise;
* `exists_first_source` — **proved**: whatever follows a method can be read.
-/

namespace Deobfuscation.Template

open Regex Expr

/-! ### Parts -/

/-- An offset, or nothing. -/
def IsOffset (s : List Char) : Prop :=
  s = [] ∨ ∃ gap digits, s = '+' :: (gap ++ digits) ∧
    (gap ≠ [] ∧ ∀ c ∈ gap, CharSet.blank.contains c = true) ∧
    digits ≠ [] ∧ ∀ c ∈ digits, (CharSet.range '0' '9').contains c = true

/-- What stands between a method and its place: blanks, an offset and empty parentheses. -/
def IsLead (s : List Char) : Prop :=
  ∃ blanks offset parens, s = blanks ++ (offset ++ parens) ∧
    (∀ c ∈ blanks, CharSet.blank.contains c = true) ∧ IsOffset offset ∧
    (parens = [] ∨ parens = ['(', ')'])

/-- A further line number behind a colon, or nothing. -/
def IsLater (s : List Char) : Prop :=
  s = [] ∨ ∃ digits, s = ':' :: digits ∧ digits ≠ [] ∧
    ∀ c ∈ digits, CharSet.decimal.contains c = true

/-- What follows the source file of a place. -/
def afterFileExpr : Expr :=
  seq (optionalExpr (seq (optionalExpr (char ':')) (.group 4 lineExpr)))
    (seq (optionalExpr laterLineExpr) (char ')'))

theorem placeExpr_eq :
    placeExpr = seq (char '(') (seq (optionalExpr (.group 3 sourceFileExpr)) afterFileExpr) := rfl

/-- What may follow the place of a frame. -/
def afterPlaceExpr : Expr := seq (repeatedExpr (set .blank)) (optionalExpr archiveExpr)

theorem sourceExpr_eq :
    sourceExpr = seq (repeatedExpr (set .blank)) (seq (optionalExpr offsetExpr)
      (seq (optionalExpr (textExpr "()")) (seq (optionalExpr placeExpr) afterPlaceExpr))) := rfl

/-- The stretch of a source file behind a parenthesis. -/
def fileSpan (read file : List Char) : Span :=
  ⟨(read ++ ['(']).length, (read ++ ['('] ++ file).length⟩

/-- The stretch of a line number behind a source file. -/
def numberSpan (read file colon number : List Char) : Span :=
  ⟨(read ++ ['('] ++ file ++ colon).length, (read ++ ['('] ++ file ++ colon ++ number).length⟩

/-- A line number stands right behind the source file if there is no colon between them. -/
theorem start_numberSpan_eq {read file colon number : List Char} :
    (numberSpan read file colon number).start = (fileSpan read file).stop ↔ colon = [] := by
  simp [numberSpan, fileSpan]

theorem isOffset_of_mem_language {s : List Char} (h : s ∈ (optionalExpr offsetExpr).language) :
    IsOffset s := by
  refine (nil_or_mem_of_mem_optional h).imp_right fun hoffset => ?_
  obtain ⟨plus, hplus, rest, hrest, rfl⟩ := Language.mem_mul.1 hoffset
  obtain ⟨gap, hgap, digits, hdigits, rfl⟩ := Language.mem_mul.1 hrest
  obtain rfl : plus = ['+'] := hplus
  exact ⟨gap, digits, rfl, contains_of_mem_several hgap, contains_of_mem_several hdigits⟩

theorem isLater_of_mem_language {s : List Char} (h : s ∈ (optionalExpr laterLineExpr).language) :
    IsLater s := by
  refine (nil_or_mem_of_mem_optional h).imp_right fun hlater => ?_
  obtain ⟨colon, hcolon, digits, hdigits, rfl⟩ := Language.mem_mul.1 hlater
  obtain rfl : colon = [':'] := hcolon
  exact ⟨digits, rfl, contains_of_mem_several hdigits⟩

theorem parens_of_mem_language {s : List Char} (h : s ∈ (optionalExpr (textExpr "()")).language) :
    s = [] ∨ s = ['(', ')'] := nil_or_mem_of_mem_optional h

/-- A character stops a run if it is none of the set. -/
theorem stops_cons {s : CharSet} {c : Char} (h : s.contains c = false) (rest : List Char) :
    Stops s (c :: rest) := by
  intro d hd
  rw [← Option.some.inj hd]
  exact h

section Reading

variable {next : Attempt → Option Attempt} {read rest tail : List Char} {captures : List Capture}
  {r : Attempt}

/-! ### Behind the place -/

/-- **What follows the place of a frame can be read, and nothing is captured in it.** -/
theorem exists_first_afterPlace (a : Attempt) :
    ∃ r, afterPlaceExpr.first some a = some r ∧ r.captures = a.captures := by
  have hself : a ∈ afterPlaceExpr.ways a := by
    rw [afterPlaceExpr, ways, List.mem_flatMap]
    exact ⟨a, mem_ways_repeated .blank a, mem_ways_optional archiveExpr a⟩
  obtain ⟨r, hr, new, hnew, hgroups⟩ := exists_first_some hself
  obtain rfl : new = [] := List.eq_nil_iff_forall_not_mem.2 fun capture hmem =>
    absurd (hgroups capture hmem) List.not_mem_nil
  exact ⟨r, hr, hnew⟩

/-! ### Line numbers between colons -/

/-- A further line number and the closing parenthesis are read. -/
theorem first_later {later : List Char} (hlater : IsLater later)
    (hnext : next (.between (read ++ later ++ [')']) tail captures) = some r) :
    (seq (optionalExpr laterLineExpr) (char ')')).first next
      (.between read (later ++ ')' :: tail) captures) = some r := by
  rw [first_seq, optionalExpr]
  rcases hlater with rfl | ⟨digits, rfl, hne, hdigits⟩
  · rw [first_optional_none]
    · rw [List.nil_append, first_char]
      rwa [List.append_nil] at hnext
    · rw [laterLineExpr, first_seq]
      exact first_char_of_head_ne (by simp)
  · refine first_optional_some ?_
    rw [laterLineExpr, first_seq, List.cons_append, first_char, severalExpr]
    refine first_run rfl hne hdigits (stops_cons (by decide) tail) ?_
    rw [Attempt.eat_between, first_char, List.append_assoc read [':'] digits]
    exact hnext

/-- A further line number stops a source file. -/
theorem IsLater.stops {later : List Char} (h : IsLater later) :
    Stops (setWithout [':', '(', ')']) (later ++ ')' :: tail) := by
  rcases h with rfl | ⟨digits, rfl, -, -⟩
  · exact stops_cons (by rw [contains_setWithout]; decide) tail
  · exact stops_cons (by rw [contains_setWithout]; decide) _

/-- A further line number does not go on with the digits in front of it, nor with a word. -/
theorem IsLater.exists_head {later : List Char} (h : IsLater later) (tail : List Char) :
    ∃ c s, later ++ ')' :: tail = c :: s ∧ (c = ':' ∨ c = ')') := by
  rcases h with rfl | ⟨digits, rfl, -, -⟩
  · exact ⟨')', tail, rfl, Or.inr rfl⟩
  · exact ⟨':', _, rfl, Or.inl rfl⟩

/-! ### The place -/

/-- **A source file and a line are captured between parentheses.** -/
theorem first_place {file later : List Char} {n : LineNumber} (hfile : IsFileName file)
    (hlater : IsLater later)
    (hnext : next (.between (read ++ ['('] ++ file ++ [':'] ++ n.text ++ later ++ [')']) tail
      (⟨4, numberSpan read file [':'] n.text⟩ :: ⟨3, fileSpan read file⟩ :: captures)) = some r) :
    placeExpr.first next
      (.between read ('(' :: (file ++ ':' :: (n.text ++ (later ++ ')' :: tail)))) captures) =
        some r := by
  obtain ⟨c, s, hhead, hc⟩ := hlater.exists_head tail
  have hword : (later ++ ')' :: tail).head?.any Text.isWord = false := by
    rw [hhead, List.head?_cons]
    rcases hc with rfl | rfl <;> decide
  have hdecimal : Stops .decimal (later ++ ')' :: tail) := by
    rw [hhead]
    rcases hc with rfl | rfl <;> exact stops_cons (by decide) s
  have hcolon : Stops (setWithout [':', '(', ')']) (':' :: (n.text ++ (later ++ ')' :: tail))) :=
    stops_cons (by rw [contains_setWithout]; decide) _
  rw [placeExpr, first_seq, first_char, first_seq]
  refine first_optional_some ?_
  rw [first_group]
  refine first_sourceFile hfile hcolon ?_
  rw [Attempt.position_between, Attempt.capture_between, first_seq]
  refine first_optional_some ?_
  rw [first_seq]
  refine first_optional_some ?_
  rw [first_char, first_group]
  refine first_line n (by rw [List.getLast?_concat]; decide) hword hdecimal ?_
  rw [Attempt.position_between, Attempt.capture_between]
  exact first_later hlater hnext

/-- **A source file is captured between parentheses**, whatever is made of a line number behind
it. -/
theorem exists_first_place {file later : List Char} (hfile : IsFileName file)
    (hlater : IsLater later) (hnext : ∀ b, ∃ r, next b = some r ∧ r.captures = b.captures) :
    ∃ r, placeExpr.first next
        (.between read ('(' :: (file ++ (later ++ ')' :: tail))) captures) = some r ∧
      captured? r.captures 3 = some (fileSpan read file) ∧
      ∀ group, group ≠ 3 → group ≠ 4 → captured? r.captures group = captured? captures group := by
  -- the line number may be read or left out, and then the further one is read
  set behind : Attempt := .between (read ++ ['('] ++ file) (later ++ ')' :: tail)
    (⟨3, fileSpan read file⟩ :: captures) with hbehind
  obtain ⟨left, hleft, -⟩ :=
    hnext (.between (read ++ ['('] ++ file ++ later ++ [')']) tail behind.captures)
  have hsome : (afterFileExpr.first next behind).isSome = true := by
    rw [afterFileExpr, first_seq]
    exact isSome_first (mem_ways_optional _ _)
      (Option.isSome_iff_exists.2 ⟨left, first_later hlater hleft⟩)
  obtain ⟨r, hr⟩ := Option.isSome_iff_exists.1 hsome
  refine ⟨r, ?_, ?_⟩
  · rw [placeExpr_eq, first_seq, first_char, first_seq]
    refine first_optional_some ?_
    rw [first_group]
    refine first_sourceFile hfile hlater.stops ?_
    rw [Attempt.position_between, Attempt.capture_between]
    exact hr
  · obtain ⟨b, hb, hbnext⟩ := exists_way_of_first hr
    obtain ⟨r', hr', hcaptures⟩ := hnext b
    obtain rfl : r' = r := Option.some.inj (hr'.symm.trans hbnext)
    have hadds : behind.Adds [4] b := afterFileExpr.adds_ways (List.Subset.refl _) behind b hb
    rw [hcaptures]
    refine ⟨(hadds.captured?_eq (by decide)).trans rfl, fun group hthree hfour => ?_⟩
    rw [hadds.captured?_eq (by simpa using hfour)]
    simp [hbehind, Attempt.between, captured?, Ne.symm hthree]

/-- The further line number and the parenthesis were there, and what follows captured nothing. -/
theorem exists_later_of_first
    (h : (seq (optionalExpr laterLineExpr) (char ')')).first (afterPlaceExpr.first some)
      (.between read rest captures) = some r) :
    ∃ later tail, IsLater later ∧ rest = later ++ ')' :: tail ∧ r.captures = captures := by
  rw [first_seq] at h
  obtain ⟨later, hlater, rest', rfl, hclose⟩ := exists_text_of_first rfl h
  obtain ⟨tail, rfl, hafter⟩ := exists_of_first_literal hclose
  obtain ⟨found, hfound, hcaptures⟩ := exists_first_afterPlace
    (.between (read ++ later ++ [')']) tail captures)
  rw [← Option.some.inj (hfound.symm.trans hafter)]
  exact ⟨later, tail, isLater_of_mem_language hlater, rfl, hcaptures⟩

/-- **What was there if a place was read**: a source file, a line number perhaps, and a further
one. -/
theorem cases_of_first_place
    (h : placeExpr.first (afterPlaceExpr.first some) (.between read rest captures) = some r) :
    ∃ file later tail, IsLater later ∧
      (rest = '(' :: (file ++ (later ++ ')' :: tail)) ∧
          r.captures = ⟨3, fileSpan read file⟩ :: captures ∨
        ∃ colon number, (colon = [] ∨ colon = [':']) ∧
          rest = '(' :: (file ++ (colon ++ (number ++ (later ++ ')' :: tail)))) ∧
          r.captures =
            ⟨4, numberSpan read file colon number⟩ :: ⟨3, fileSpan read file⟩ :: captures) := by
  have hafter : afterFileExpr.first (afterPlaceExpr.first some) =
      (seq afterFileExpr afterPlaceExpr).first some := by
    funext a
    rw [first_seq]
  rw [placeExpr_eq, first_seq] at h
  obtain ⟨inside, rfl, hinside⟩ := exists_of_first_literal h
  rw [first_seq, hafter] at hinside
  -- the source file may be empty, so it was not left out
  have hgroup := first_of_optional_group (by decide) (mem_ways_optional _ _) hinside
  rw [first_group] at hgroup
  obtain ⟨file, -, rest', rfl, hfile⟩ := exists_text_of_first rfl hgroup
  rw [Attempt.position_between, Attempt.capture_between, first_seq, afterFileExpr, first_seq,
    optionalExpr, first_optional] at hfile
  rcases Option.or_eq_some_iff.1 hfile with hnumber | ⟨-, hskipped⟩
  · rw [first_seq] at hnumber
    obtain ⟨colon, hcolon, rest'', rfl, hline⟩ := exists_text_of_first rfl hnumber
    rw [first_group] at hline
    obtain ⟨number, -, behind, rfl, hclose⟩ := exists_text_of_first rfl hline
    rw [Attempt.position_between, Attempt.capture_between] at hclose
    obtain ⟨later, tail, hlater, rfl, hcaptures⟩ := exists_later_of_first hclose
    exact ⟨file, later, tail, hlater, Or.inr ⟨colon, number, nil_or_mem_of_mem_optional hcolon,
      rfl, hcaptures⟩⟩
  · obtain ⟨later, tail, hlater, rfl, hcaptures⟩ := exists_later_of_first hskipped
    exact ⟨file, later, tail, hlater, Or.inl ⟨rfl, hcaptures⟩⟩

/-! ### All that follows a method -/

/-- A digit is no blank. -/
theorem blank_of_range {c : Char} (h : (CharSet.range '0' '9').contains c = true) :
    CharSet.blank.contains c = false := by
  have hrange : 48 ≤ c.toNat ∧ c.toNat ≤ 57 := by
    simpa [CharSet.contains, Char.le_def, UInt32.le_iff_toNat_le] using h
  simp only [CharSet.contains, Text.isBlank, Text.inRanges, Unicode.Ranges.contains,
    Text.blankRanges, List.any_cons, List.any_nil, Bool.or_eq_false_iff, Bool.and_eq_false_iff,
    decide_eq_false_iff_not, and_true]
  omega

/-- **A place is read behind what may stand in front of it.** -/
theorem first_source_of_place {lead inside : List Char} (hlead : IsLead lead)
    (hinside : inside.head? ≠ some ')')
    (hnext : placeExpr.first (afterPlaceExpr.first next)
      (.between (read ++ lead) ('(' :: inside) captures) = some r) :
    sourceExpr.first next (.between read (lead ++ '(' :: inside) captures) = some r := by
  obtain ⟨blanks, offset, parens, rfl, hblanks, hmayOffset, hmayParens⟩ := hlead
  rw [← List.append_assoc, ← List.append_assoc] at hnext
  rw [List.append_assoc, List.append_assoc]
  -- what follows the blanks and the offset begins with a plus sign or a parenthesis
  have hparens : ∀ {s : CharSet}, s.contains '(' = false → Stops s (parens ++ '(' :: inside) := by
    intro s hs
    rcases hmayParens with h | h
    · rw [h]
      exact stops_cons hs inside
    · rw [h]
      exact stops_cons hs _
  have hoffset : Stops .blank (offset ++ (parens ++ '(' :: inside)) := by
    rcases hmayOffset with h | ⟨gap, digits, h, -⟩
    · rw [h]
      exact hparens (by decide)
    · rw [h]
      exact stops_cons (by decide) _
  have hplace : (optionalExpr (textExpr "()")).first
      ((seq (optionalExpr placeExpr) afterPlaceExpr).first next)
      (.between (read ++ blanks ++ offset) (parens ++ '(' :: inside) captures) = some r := by
    rcases hmayParens with h | h
    · rw [h, List.append_nil] at hnext
      rw [h, List.nil_append, optionalExpr, first_optional_none]
      · rw [first_seq]
        exact first_optional_some hnext
      · refine first_literal_of_not_prefix fun hprefix => hinside ?_
        obtain ⟨t, ht⟩ := hprefix
        rw [← (List.cons.inj ht).2]
        rfl
    · rw [h] at hnext
      rw [h]
      refine first_optional_some ?_
      show (textExpr "()").first _ (.between _ ("()".toList ++ '(' :: inside) captures) = some r
      rw [first_text, first_seq]
      exact first_optional_some hnext
  rw [sourceExpr_eq, first_seq]
  refine first_span rfl hblanks hoffset ?_
  rw [Attempt.eat_between, first_seq, optionalExpr]
  rcases hmayOffset with h | ⟨gap, digits, h, ⟨hgap, hgapBlanks⟩, hdigits, hrange⟩
  · rw [h, List.append_nil] at hplace
    rw [h, List.nil_append, first_optional_none]
    · rw [first_seq]
      exact hplace
    · rw [offsetExpr, first_seq]
      refine first_char_of_head_ne fun hhead => ?_
      exact absurd (hparens (s := .only '+') (by decide) '+' hhead) (by decide)
  · rw [h] at hplace
    rw [h]
    refine first_optional_some ?_
    rw [offsetExpr, first_seq, List.cons_append, first_char, first_seq, List.append_assoc gap,
      severalExpr]
    have hstop : Stops .blank (digits ++ (parens ++ '(' :: inside)) := by
      obtain ⟨d, ds, rfl⟩ := List.exists_cons_of_ne_nil hdigits
      exact stops_cons (blank_of_range (hrange d List.mem_cons_self)) _
    refine first_run rfl hgap hgapBlanks hstop ?_
    rw [Attempt.eat_between, severalExpr]
    refine first_run rfl hdigits hrange (hparens (by decide)) ?_
    rw [Attempt.eat_between, first_seq]
    simpa using hplace

/-- **If something was captured behind a method, it was a place.** -/
theorem cases_of_first_source (h : sourceExpr.first some (.between read rest captures) = some r) :
    r.captures = captures ∨ ∃ lead behind, IsLead lead ∧ rest = lead ++ behind ∧
      placeExpr.first (afterPlaceExpr.first some) (.between (read ++ lead) behind captures) =
        some r := by
  rw [sourceExpr_eq, first_seq] at h
  obtain ⟨blanks, hblanks, rest', rfl, hoffset⟩ := exists_text_of_first rfl h
  rw [first_seq] at hoffset
  obtain ⟨offset, hmem, rest'', rfl, hparens⟩ := exists_text_of_first rfl hoffset
  rw [first_seq] at hparens
  obtain ⟨parens, hmem', behind, rfl, hplace⟩ := exists_text_of_first rfl hparens
  rw [first_seq, optionalExpr, first_optional] at hplace
  rcases Option.or_eq_some_iff.1 hplace with hread | ⟨-, hskipped⟩
  · refine Or.inr ⟨blanks ++ (offset ++ parens), behind, ⟨blanks, offset, parens, rfl,
      contains_of_mem_repeated hblanks, isOffset_of_mem_language hmem,
      parens_of_mem_language hmem'⟩, by simp, ?_⟩
    rwa [← List.append_assoc, ← List.append_assoc]
  · obtain ⟨found, hfound, hcaptures⟩ := exists_first_afterPlace
      (.between (read ++ blanks ++ offset ++ parens) behind captures)
    rw [← Option.some.inj (hfound.symm.trans hskipped)]
    exact Or.inl hcaptures

/-- **Whatever follows a method can be read**, and no more than a source file and a line are
captured. -/
theorem exists_first_source (a : Attempt) :
    ∃ r, sourceExpr.first some a = some r ∧ a.Adds [3, 4] r := by
  have hself : a ∈ sourceExpr.ways a := by
    simp only [sourceExpr, ways, List.mem_flatMap]
    exact ⟨a, mem_ways_repeated .blank a, a, mem_ways_optional _ a, a, mem_ways_optional _ a, a,
      mem_ways_optional _ a, a, mem_ways_repeated .blank a, mem_ways_optional _ a⟩
  exact exists_first_some hself

end Reading

end Deobfuscation.Template
