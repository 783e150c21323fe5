import Deobfuscation.Proofs.Regex.Extent

/-!
# How far a bracketed class reaches

A bracketed class ends at the bracket that closes it, and what comes after that makes no difference
to it.  Inside, an item is read up to what follows it, and it may look at one or two characters
more; since a closing bracket is still to come, they are there whatever comes after the class.

* `readAtom_takes`, `readRange_takes`, `readAsciiClass_closing`, `ofText_takes` — **proved**: the
  items of a class, with the closing bracket still to come;
* `readBracketIn_takes` — **proved**, by induction on the steps: reading goes on in the same way;
* `readBracket_takes` — **proved**: a bracketed class is read whatever comes after it.
-/

namespace Deobfuscation.Regex

/-! ### Items -/

/-- An atom that is no assertion is read in front of any rest. -/
theorem readAtom_takes {s rest : List Char} {a : Atom} (ha : ∀ p, a ≠ .assertion p)
    (h : readAtom .none s = some (a, rest)) :
    ∃ w, w ≠ [] ∧ s = w ++ rest ∧ ∀ tail, readAtom .none (w ++ tail) = some (a, tail) := by
  unfold readAtom at h
  split at h
  · simp at h
  · rename_i s
    cases s with
    | nil => simp [Atom.ofEscape] at h
    | cons c s =>
      rcases ofEscape_cases h with ⟨p, hp, -⟩ | ⟨w, -, rfl, hread⟩
      · exact absurd hp (ha p)
      · exact ⟨'\\' :: c :: w, by simp, rfl, hread⟩
  · rename_i c s hc
    obtain ⟨rfl, rfl⟩ := Prod.mk.inj (Option.some.inj h)
    refine ⟨[c], by simp, rfl, fun tail => ?_⟩
    rw [List.singleton_append, readAtom]
    exact hc

theorem not_assertion_of_set? {a : Atom} {set : CharSet} (h : a.set? .none = some set) :
    ∀ p, a ≠ .assertion p := by
  rintro p rfl
  simp [Atom.set?] at h

theorem not_assertion_of_range? {low high : Atom} {set : CharSet}
    (h : low.range? .none high = some set) :
    (∀ p, low ≠ .assertion p) ∧ ∀ p, high ≠ .assertion p := by
  refine ⟨?_, ?_⟩
  · rintro p rfl
    simp [Atom.range?] at h
  · rintro p rfl
    cases low <;> simp [Atom.range?] at h

/-- What comes first before a closing bracket does not depend on what comes after it. -/
theorem head?_append_closing (v rest tail : List Char) :
    (v ++ ']' :: rest).head? = (v ++ ']' :: tail).head? := by
  cases v <;> rfl

/-- A hyphen in front of such a text makes no range. -/
def EndsRange (s : List Char) : Prop := s.head? = some ']' ∨ s.head? = some '-'

/-- An atom is an item, unless a hyphen behind it makes a range. -/
theorem readRange_of_atom {s rest : List Char} {low : Atom} {set : CharSet}
    (hlow : readAtom .none s = some (low, rest)) (hset : low.set? .none = some set)
    (hends : ∀ t, rest = '-' :: t → EndsRange t) : readRange .none s = some (set, rest) := by
  simp only [readRange, hlow, Option.bind_eq_bind, Option.bind_some, skip_none]
  split
  · rename_i t
    rw [if_pos (show Flags.none.peek t = some ']' ∨ Flags.none.peek t = some '-' from hends t rfl),
      hset]
    rfl
  · rw [hset]
    rfl

/-- Two atoms with a hyphen between them are an item. -/
theorem readRange_of_range {s after rest : List Char} {low high : Atom} {set : CharSet}
    (hlow : readAtom .none s = some (low, '-' :: after)) (hends : ¬EndsRange after)
    (hhigh : readAtom .none after = some (high, rest)) (hset : low.range? .none high = some set) :
    readRange .none s = some (set, rest) := by
  simp only [readRange, hlow, Option.bind_eq_bind, Option.bind_some, skip_none]
  rw [if_neg (show ¬(Flags.none.peek after = some ']' ∨ Flags.none.peek after = some '-') from
    hends), hhigh]
  simp only [Option.bind_some, hset]
  rfl

/-- There are no other items. -/
theorem readRange_cases {s rest : List Char} {set : CharSet}
    (h : readRange .none s = some (set, rest)) :
    (∃ low, readAtom .none s = some (low, rest) ∧ low.set? .none = some set ∧
        ∀ t, rest = '-' :: t → EndsRange t) ∨
      ∃ low after high, readAtom .none s = some (low, '-' :: after) ∧ ¬EndsRange after ∧
        readAtom .none after = some (high, rest) ∧ low.range? .none high = some set := by
  simp only [readRange, skip_none, Option.bind_eq_bind, Option.bind_eq_some_iff, Prod.exists] at h
  obtain ⟨low, after, hlow, h⟩ := h
  split at h
  · rename_i t
    split at h
    · rename_i hends
      obtain ⟨members, hset, h⟩ := Option.bind_eq_some_iff.1 h
      obtain ⟨rfl, rfl⟩ := Prod.mk.inj (Option.some.inj h)
      refine .inl ⟨low, hlow, hset, fun u hu => ?_⟩
      obtain rfl := (List.cons.inj hu).2
      exact hends
    · rename_i hends
      obtain ⟨⟨high, later⟩, hhigh, h⟩ := Option.bind_eq_some_iff.1 h
      obtain ⟨members, hrange, h⟩ := Option.bind_eq_some_iff.1 h
      obtain ⟨rfl, rfl⟩ := Prod.mk.inj (Option.some.inj h)
      exact .inr ⟨low, t, high, hlow, hends, hhigh, hrange⟩
  · rename_i hhyphen
    obtain ⟨members, hset, h⟩ := Option.bind_eq_some_iff.1 h
    obtain ⟨rfl, rfl⟩ := Prod.mk.inj (Option.some.inj h)
    exact .inl ⟨low, hlow, hset, fun t ht => absurd ht (hhyphen t)⟩

/-- An atom or a range is read in front of any rest, as long as a closing bracket is to come. -/
theorem readRange_takes {s v rest : List Char} {set : CharSet}
    (h : readRange .none s = some (set, v ++ ']' :: rest)) :
    ∃ w, w ≠ [] ∧ s = w ++ (v ++ ']' :: rest) ∧
      ∀ tail, readRange .none (w ++ (v ++ ']' :: tail)) = some (set, v ++ ']' :: tail) := by
  rcases readRange_cases h with ⟨low, hlow, hset, hends⟩ |
    ⟨low, after, high, hlow, hends, hhigh, hrange⟩
  · obtain ⟨w, hw, rfl, hread⟩ := readAtom_takes (not_assertion_of_set? hset) hlow
    refine ⟨w, hw, rfl, fun tail => readRange_of_atom (hread _) hset fun t ht => ?_⟩
    -- what follows begins with a hyphen in front of the one rest and the other
    cases v with
    | nil => simp at ht
    | cons d v =>
      rw [List.cons_append, List.cons.injEq] at ht
      obtain ⟨rfl, rfl⟩ := ht
      have hrest := hends _ (List.cons_append ..)
      rwa [EndsRange, head?_append_closing v rest tail] at hrest
  · obtain ⟨hlow', hhigh'⟩ := not_assertion_of_range? hrange
    obtain ⟨w, hw, rfl, hread⟩ := readAtom_takes hlow' hlow
    obtain ⟨u, hu, rfl, hread'⟩ := readAtom_takes hhigh' hhigh
    refine ⟨w ++ '-' :: u, by simp, by simp, fun tail => ?_⟩
    have hends' : ¬EndsRange (u ++ (v ++ ']' :: tail)) := by
      cases u with
      | nil => exact absurd rfl hu
      | cons d u => exact hends
    rw [List.append_assoc, List.cons_append]
    exact readRange_of_range (hread _) hends' (hread' _) hrange

/-! ### Named classes -/

/-- No name of an ASCII class holds a closing bracket. -/
theorem asciiClass?_closing {name : List Char} (h : ']' ∈ name) :
    CharSet.asciiClass? (String.ofList name) = none := by
  unfold CharSet.asciiClass?
  split
  case h_15 => rfl
  all_goals
    rename_i hname
    rw [← String.toList_ofList (l := name), hname] at h
    exact absurd h (by decide)

/-- Reads the name of an ASCII class up to the colon and the bracket behind it. -/
def readClassName (negated : Bool) (s : List Char) : Option (Bool × CharSet × List Char) :=
  match s.dropWhile (· != ':') with
  | ':' :: ']' :: rest =>
    (CharSet.asciiClass? (String.ofList (s.takeWhile (· != ':')))).map fun set =>
      (negated, set, rest)
  | _ => none

theorem readAsciiClass_colon {s : List Char} (h : ∀ t, s ≠ '^' :: t) :
    readAsciiClass (':' :: s) = readClassName false s := by
  rw [readAsciiClass]
  · rfl
  · exact h

theorem readAsciiClass_eq_none {s : List Char} (h : ∀ t, s ≠ ':' :: t) :
    readAsciiClass s = none := by
  unfold readAsciiClass
  split
  · rename_i t
    exact absurd rfl (h t)
  · rfl

/-- A name is that of a class, and a colon and a bracket stand behind it. -/
theorem readClassName_iff {negated found : Bool} {s rest : List Char} {set : CharSet} :
    readClassName negated s = some (found, set, rest) ↔
      ∃ name, ':' ∉ name ∧ s = name ++ ':' :: ']' :: rest ∧
        CharSet.asciiClass? (String.ofList name) = some set ∧ negated = found := by
  constructor
  · intro h
    unfold readClassName at h
    split at h
    · rename_i after hdrop
      obtain ⟨members, hset, h⟩ := Option.map_eq_some_iff.1 h
      simp only [Prod.mk.injEq] at h
      obtain ⟨hfound, rfl, rfl⟩ := h
      refine ⟨s.takeWhile (· != ':'), fun hmem => ?_, ?_, hset, hfound⟩
      · simpa using List.mem_takeWhile_imp hmem
      · rw [← hdrop, List.takeWhile_append_dropWhile]
    · simp at h
  · rintro ⟨name, hname, rfl, hset, rfl⟩
    have hpass : ∀ c ∈ name, (c != ':') = true := by
      intro c hc
      simp only [bne_iff_ne, ne_eq]
      rintro rfl
      exact hname hc
    rw [readClassName, List.takeWhile_append_of_pos hpass, List.dropWhile_append_of_pos hpass]
    simp [hset]

/-- A class that is named in front of a closing bracket is named there whatever comes after it. -/
theorem readClassName_closing {negated : Bool} {u rest : List Char}
    (h : readClassName negated (u ++ ']' :: rest) = none) (tail : List Char) :
    readClassName negated (u ++ ']' :: tail) = none := by
  by_contra hsome
  obtain ⟨⟨found, set, after⟩, hread⟩ := Option.ne_none_iff_exists'.1 hsome
  obtain ⟨name, hname, hequal, hset, rfl⟩ := readClassName_iff.1 hread
  -- the name and what ends it stand in front of the closing bracket
  obtain ⟨after', hsame⟩ : ∃ after', u ++ ']' :: rest = name ++ ':' :: ']' :: after' := by
    rcases List.append_eq_append_iff.1 hequal with ⟨a, rfl, ha⟩ | ⟨c, rfl, hc⟩
    · cases a with
      | nil => simp at ha
      | cons d a =>
        obtain rfl : ']' = d := (List.cons.inj ha).1
        rw [asciiClass?_closing (by simp)] at hset
        simp at hset
    · match c, hc with
      | [], hc => simp at hc
      | [d], hc =>
        obtain rfl : ':' = d := (List.cons.inj hc).1
        exact ⟨rest, by simp⟩
      | d :: e :: c, hc =>
        obtain rfl : ':' = d := (List.cons.inj hc).1
        obtain rfl : ']' = e := (List.cons.inj (List.cons.inj hc).2).1
        exact ⟨c ++ ']' :: rest, by simp⟩
  rw [readClassName_iff.2 ⟨name, hname, hsame, hset, rfl⟩] at h
  simp at h

/-- A named class is read in front of any rest. -/
theorem readAsciiClass_takes {s rest : List Char} {negated : Bool} {set : CharSet}
    (h : readAsciiClass s = some (negated, set, rest)) :
    ∃ w, s = w ++ rest ∧ ∀ tail, readAsciiClass (w ++ tail) = some (negated, set, tail) := by
  by_cases hs : ∃ t, s = ':' :: t
  · obtain ⟨t, rfl⟩ := hs
    by_cases ht : ∃ u, t = '^' :: u
    · obtain ⟨u, rfl⟩ := ht
      obtain ⟨name, hname, rfl, hset, rfl⟩ := readClassName_iff.1 h
      refine ⟨':' :: '^' :: (name ++ [':', ']']), by simp, fun tail => ?_⟩
      exact readClassName_iff.2 ⟨name, hname, by simp, hset, rfl⟩
    · rw [readAsciiClass_colon (not_exists.1 ht)] at h
      obtain ⟨name, hname, rfl, hset, rfl⟩ := readClassName_iff.1 h
      refine ⟨':' :: (name ++ [':', ']']), by simp, fun tail => ?_⟩
      rw [List.cons_append, readAsciiClass_colon]
      · exact readClassName_iff.2 ⟨name, hname, by simp, hset, rfl⟩
      · intro u hu
        cases name with
        | nil => simp at hu
        | cons c name => exact ht ⟨_, by rw [List.cons_append, (List.cons.inj hu).1]⟩
  · rw [readAsciiClass_eq_none (not_exists.1 hs)] at h
    simp at h

/-- Whether a named class follows does not depend on what comes after a closing bracket. -/
theorem readAsciiClass_closing {v rest : List Char} (h : readAsciiClass (v ++ ']' :: rest) = none)
    (tail : List Char) : readAsciiClass (v ++ ']' :: tail) = none := by
  match v with
  | [] => exact readAsciiClass_eq_none (by simp)
  | c :: v =>
    by_cases hc : c = ':'
    · subst hc
      match v with
      | [] =>
        rw [List.cons_append, readAsciiClass_colon (by simp)] at h ⊢
        exact readClassName_closing (u := []) h tail
      | d :: v =>
        by_cases hd : d = '^'
        · subst hd
          exact readClassName_closing h tail
        · rw [List.cons_append, readAsciiClass_colon (by simp [hd])] at h ⊢
          exact readClassName_closing h tail
    · exact readAsciiClass_eq_none (by simp [hc])

/-! ### Opening brackets -/

/-- Opens a bracket behind its circumflex. -/
def Bracket.ofHyphens (negated : Bool) (s : List Char) : Bracket × List Char :=
  match (s.takeWhile (· == '-'), s.dropWhile (· == '-')) with
  | ([], ']' :: rest) => (⟨negated, none, [⟨.only ']', 0⟩]⟩, rest)
  | (hyphens, rest) => (⟨negated, none, hyphens.map fun c => ⟨.only c, 0⟩⟩, rest)

theorem ofText_negated (s : List Char) :
    Bracket.ofText .none ('^' :: s) = Bracket.ofHyphens true s := by
  simp only [Bracket.ofText, skip_none, span_none]
  rfl

theorem ofText_eq {s : List Char} (h : ∀ t, s ≠ '^' :: t) :
    Bracket.ofText .none s = Bracket.ofHyphens false s := by
  simp only [Bracket.ofText, skip_none, span_none]
  rfl

theorem ofHyphens_takes {negated : Bool} {s v rest : List Char} {opened : Bracket}
    (h : Bracket.ofHyphens negated s = (opened, v ++ ']' :: rest)) :
    ∃ w, s = w ++ (v ++ ']' :: rest) ∧
      ∀ tail, Bracket.ofHyphens negated (w ++ (v ++ ']' :: tail)) = (opened, v ++ ']' :: tail) := by
  unfold Bracket.ofHyphens at h
  have hsplit := List.takeWhile_append_dropWhile (p := (· == '-')) (l := s)
  split at h
  · rename_i after hspan
    obtain ⟨htake, hdrop⟩ := Prod.mk.inj hspan
    obtain ⟨rfl, rfl⟩ := Prod.mk.inj h
    rw [htake, hdrop] at hsplit
    exact ⟨[']'], hsplit.symm, fun tail => rfl⟩
  · rename_i hyphens after hclosing hspan
    obtain ⟨htake, hdrop⟩ := Prod.mk.inj hspan
    obtain ⟨rfl, rfl⟩ := Prod.mk.inj h
    rw [htake, hdrop] at hsplit
    refine ⟨hyphens, hsplit.symm, fun tail => ?_⟩
    have hpass : ∀ c ∈ hyphens, (c == '-') = true := by
      rw [← htake]
      exact fun c hc => by simpa using List.mem_takeWhile_imp hc
    -- what follows the hyphens begins with another character
    obtain ⟨d, hd, hhead⟩ : ∃ d, (d == '-') = false ∧ ∀ t, (v ++ ']' :: t).head? = some d := by
      have hnot := List.head?_dropWhile_not (· == '-') s
      rw [hdrop] at hnot
      cases v with
      | nil => exact ⟨']', by decide, fun t => rfl⟩
      | cons d v => exact ⟨d, hnot, fun t => rfl⟩
    obtain ⟨u, hu⟩ := List.head?_eq_some_iff.1 (hhead tail)
    have htake' : (hyphens ++ (v ++ ']' :: tail)).takeWhile (· == '-') = hyphens := by
      rw [List.takeWhile_append_of_pos hpass, hu, List.takeWhile_cons_of_neg (by simp [hd]),
        List.append_nil]
    have hdrop' : (hyphens ++ (v ++ ']' :: tail)).dropWhile (· == '-') = v ++ ']' :: tail := by
      rw [List.dropWhile_append_of_pos hpass, hu, List.dropWhile_cons_of_neg (by simp [hd])]
    rw [Bracket.ofHyphens, htake', hdrop']
    split
    · rename_i t ht
      obtain ⟨rfl, hclose⟩ := Prod.mk.inj ht
      have hd : d = ']' := (List.cons.inj (hu.symm.trans hclose)).1
      obtain ⟨u', hu'⟩ := List.head?_eq_some_iff.1 (hhead rest)
      exact absurd (hd ▸ hu') (hclosing u' rfl)
    · rename_i ht
      obtain ⟨rfl, rfl⟩ := Prod.mk.inj ht
      rfl

/-- A bracket opens in front of any rest, as long as a closing bracket is to come. -/
theorem ofText_takes {s v rest : List Char} {opened : Bracket}
    (h : Bracket.ofText .none s = (opened, v ++ ']' :: rest)) :
    ∃ w, s = w ++ (v ++ ']' :: rest) ∧
      ∀ tail, Bracket.ofText .none (w ++ (v ++ ']' :: tail)) = (opened, v ++ ']' :: tail) := by
  by_cases hs : ∃ t, s = '^' :: t
  · obtain ⟨t, rfl⟩ := hs
    rw [ofText_negated] at h
    obtain ⟨w, rfl, hread⟩ := ofHyphens_takes h
    exact ⟨'^' :: w, rfl, fun tail => (ofText_negated _).trans (hread tail)⟩
  · rw [ofText_eq (not_exists.1 hs)] at h
    obtain ⟨w, rfl, hread⟩ := ofHyphens_takes h
    refine ⟨w, rfl, fun tail => ?_⟩
    rw [ofText_eq, hread tail]
    intro t ht
    have hhead := congrArg List.head? ht
    rw [List.head?_append, head?_append_closing v tail rest, ← List.head?_append] at hhead
    obtain ⟨u, hu⟩ := List.head?_eq_some_iff.1 hhead
    exact hs ⟨u, hu⟩

/-! ### Whole classes -/

/-- Reading on, a text up to a closing bracket gives a set whatever comes after it. -/
def Closes (inner : Bracket) (outer : List Bracket) (v : List Char) (set : Written CharSet) :
    Prop :=
  ∀ tail bound, v.length < bound →
    readBracketIn .none bound inner outer (v ++ ']' :: tail) = some (set, tail)

/-- A step over a text in front leaves the rest to be read on. -/
theorem Closes.step {inner inner' : Bracket} {outer outer' : List Bracket} {w v : List Char}
    {set : Written CharSet} (hw : w ≠ []) (h : Closes inner' outer' v set)
    (hstep : ∀ tail bound, readBracketIn .none (bound + 1) inner outer (w ++ (v ++ ']' :: tail)) =
      readBracketIn .none bound inner' outer' (v ++ ']' :: tail)) :
    Closes inner outer (w ++ v) set := by
  intro tail bound hbound
  have hlength := List.length_pos_iff.2 hw
  rw [List.length_append] at hbound
  obtain ⟨bound, rfl⟩ := Nat.exists_eq_add_of_lt (Nat.lt_of_le_of_lt (Nat.zero_le _) hbound)
  rw [Nat.zero_add, List.append_assoc, hstep]
  exact h tail bound (by omega)

/-- A bracket that names no class opens another. -/
theorem readBracketIn_open {s rest : List Char} (inner : Bracket) (outer : List Bracket)
    (bound : Nat) {opened : Bracket} (hnamed : readAsciiClass s = none)
    (hopen : Bracket.ofText .none s = (opened, rest)) :
    readBracketIn .none (bound + 1) inner outer ('[' :: s) =
      readBracketIn .none bound opened (inner :: outer) rest := by
  rw [readBracketIn]
  simp only [skip_none, hnamed, hopen]

/-- An item that is neither a bracket nor an operator is an atom or a range. -/
theorem readBracketIn_range {s : List Char} {inner : Bracket} (outer : List Bracket) (bound : Nat)
    {set : CharSet} {rest : List Char} (hs : s ≠ []) (hclose : ∀ t, s ≠ ']' :: t)
    (hand : ∀ t, s ≠ '&' :: '&' :: t) (hminus : ∀ t, s ≠ '-' :: '-' :: t)
    (htilde : ∀ t, s ≠ '~' :: '~' :: t) (hopen : ∀ t, s ≠ '[' :: t)
    (hrange : readRange .none s = some (set, rest)) :
    readBracketIn .none (bound + 1) inner outer s =
      readBracketIn .none bound (inner.add ⟨set, 0⟩) outer rest := by
  rw [readBracketIn, skip_none]
  split
  · exact absurd rfl hs
  · rename_i t
    exact absurd rfl (hclose t)
  · rename_i t
    exact absurd rfl (hand t)
  · rename_i t
    exact absurd rfl (hminus t)
  · rename_i t
    exact absurd rfl (htilde t)
  · rename_i t
    exact absurd rfl (hopen t)
  · rw [hrange]

/-- The first two characters in front of a closing bracket and with it do not depend on what comes
after it. -/
theorem exists_pair_closing {w : List Char} (hw : w ≠ []) (v : List Char) :
    ∃ c d, ∀ t, ∃ u, w ++ (v ++ ']' :: t) = c :: d :: u := by
  match w, v with
  | [], _ => exact absurd rfl hw
  | [c], [] => exact ⟨c, ']', fun t => ⟨t, rfl⟩⟩
  | [c], d :: v => exact ⟨c, d, fun t => ⟨v ++ ']' :: t, rfl⟩⟩
  | c :: d :: w, v => exact ⟨c, d, fun t => ⟨w ++ (v ++ ']' :: t), rfl⟩⟩

/-- A bracket that opens in a class is read on in, and then the class. -/
theorem Closes.openBracket {inner opened : Bracket} {outer : List Bracket} {s v rest : List Char}
    {set : Written CharSet} (hnamed : readAsciiClass s = none)
    (hopen : Bracket.ofText .none s = (opened, v ++ ']' :: rest))
    (h : Closes opened (inner :: outer) v set) :
    ∃ w, '[' :: s = w ++ ']' :: rest ∧ Closes inner outer w set := by
  obtain ⟨w, rfl, hread⟩ := ofText_takes hopen
  rw [← List.append_assoc] at hnamed
  refine ⟨'[' :: (w ++ v), by simp, h.step (w := '[' :: w) (by simp) fun tail bound => ?_⟩
  have hnone := readAsciiClass_closing hnamed tail
  rw [List.append_assoc] at hnone
  exact readBracketIn_open inner outer bound hnone (hread tail)

/-- An item of a class is read, and then the class. -/
theorem Closes.item {inner : Bracket} {outer : List Bracket} {s v rest : List Char}
    {members : CharSet} {set : Written CharSet} (hclose : ∀ t, s ≠ ']' :: t)
    (hand : ∀ t, s ≠ '&' :: '&' :: t) (hminus : ∀ t, s ≠ '-' :: '-' :: t)
    (htilde : ∀ t, s ≠ '~' :: '~' :: t) (hopen : ∀ t, s ≠ '[' :: t)
    (hrange : readRange .none s = some (members, v ++ ']' :: rest))
    (h : Closes (inner.add ⟨members, 0⟩) outer v set) :
    ∃ w, s = w ++ ']' :: rest ∧ Closes inner outer w set := by
  obtain ⟨w, hw, rfl, hread⟩ := readRange_takes hrange
  refine ⟨w ++ v, by simp, h.step hw fun tail bound => ?_⟩
  -- the first two characters tell that it is an item, and they are the same
  obtain ⟨c, d, hpair⟩ := exists_pair_closing hw v
  obtain ⟨t, ht⟩ := hpair rest
  obtain ⟨t', ht'⟩ := hpair tail
  rw [ht] at hclose hand hminus htilde hopen
  refine readBracketIn_range outer bound ?_ ?_ ?_ ?_ ?_ ?_ (hread tail) <;> rw [ht']
  · simp
  · exact fun u hu => hclose _ (by rw [(List.cons.inj hu).1])
  · intro u hu
    obtain ⟨rfl, rfl, -⟩ : c = '&' ∧ d = '&' ∧ t' = u := by simpa using hu
    exact hand t rfl
  · intro u hu
    obtain ⟨rfl, rfl, -⟩ : c = '-' ∧ d = '-' ∧ t' = u := by simpa using hu
    exact hminus t rfl
  · intro u hu
    obtain ⟨rfl, rfl, -⟩ : c = '~' ∧ d = '~' ∧ t' = u := by simpa using hu
    exact htilde t rfl
  · exact fun u hu => hopen _ (by rw [(List.cons.inj hu).1])

/-- **Reading on in a bracketed class goes up to a closing bracket**, and in the same way whatever
comes after it. -/
theorem readBracketIn_takes {bound : Nat} : ∀ {inner : Bracket} {outer : List Bracket}
    {s rest : List Char} {set : Written CharSet},
    readBracketIn .none bound inner outer s = some (set, rest) →
      ∃ v, s = v ++ ']' :: rest ∧ Closes inner outer v set := by
  induction bound with
  | zero => intro inner outer s rest set h; simp [readBracketIn] at h
  | succ bound ih =>
    intro inner outer s rest set h
    rw [readBracketIn, skip_none] at h
    split at h
    · simp at h
    · rename_i t
      split at h
      · simp at h
      · rename_i closed hclosed
        obtain ⟨rfl, rfl⟩ := Prod.mk.inj (Option.some.inj h)
        refine ⟨[], rfl, fun tail bound hbound => ?_⟩
        obtain ⟨bound, rfl⟩ := Nat.exists_eq_add_of_lt hbound
        simp [readBracketIn, hclosed]
      · rename_i closed enclosing outer hclosed
        obtain ⟨v, rfl, hv⟩ := ih h
        refine ⟨']' :: v, rfl, hv.step (w := [']']) (by simp) fun tail bound => ?_⟩
        simp [readBracketIn, hclosed]
    · rename_i t
      obtain ⟨v, rfl, hv⟩ := ih h
      exact ⟨'&' :: '&' :: v, rfl, hv.step (w := ['&', '&']) (by simp) fun tail bound => rfl⟩
    · rename_i t
      obtain ⟨v, rfl, hv⟩ := ih h
      exact ⟨'-' :: '-' :: v, rfl, hv.step (w := ['-', '-']) (by simp) fun tail bound => rfl⟩
    · rename_i t
      obtain ⟨v, rfl, hv⟩ := ih h
      exact ⟨'~' :: '~' :: v, rfl, hv.step (w := ['~', '~']) (by simp) fun tail bound => rfl⟩
    · rename_i t
      split at h
      · rename_i negated named after hnamed
        split at h
        · rename_i members hmembers
          obtain ⟨v, rfl, hv⟩ := ih h
          obtain ⟨w, rfl, hread⟩ := readAsciiClass_takes hnamed
          refine ⟨'[' :: (w ++ v), by simp, hv.step (w := '[' :: w) (by simp) fun tail bound => ?_⟩
          simp [readBracketIn, hread, hmembers]
        · simp at h
      · rename_i hnamed
        rcases hopen : Bracket.ofText .none t with ⟨opened, after⟩
        rw [hopen] at h
        obtain ⟨v, rfl, hv⟩ := ih h
        exact hv.openBracket hnamed hopen
    · rename_i hclose hand hminus htilde hopen
      split at h
      · rename_i members after hrange
        obtain ⟨v, rfl, hv⟩ := ih h
        exact hv.item hclose hand hminus htilde hopen hrange
      · simp at h

/-- **A bracketed class is read whatever comes after it.** -/
theorem readBracket_takes {s rest : List Char} {set : Written CharSet}
    (h : readBracket .none s = some (set, rest)) :
    ∃ w, s = w ++ rest ∧ ∀ tail, readBracket .none (w ++ tail) = some (set, tail) := by
  rw [readBracket] at h
  obtain ⟨v, hopened, hv⟩ := readBracketIn_takes h
  obtain ⟨w, rfl, hread⟩ := ofText_takes (Prod.ext rfl hopened)
  refine ⟨w ++ (v ++ [']']), by simp, fun tail => ?_⟩
  have hsame : w ++ (v ++ [']']) ++ tail = w ++ (v ++ ']' :: tail) := by simp
  rw [hsame, readBracket, hread]
  exact hv tail _ (by simp; omega)

end Deobfuscation.Regex
