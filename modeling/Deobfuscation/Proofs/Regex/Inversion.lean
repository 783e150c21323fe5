import Deobfuscation.Proofs.Regex.Groups
import Deobfuscation.Proofs.Regex.Plain

/-!
# What a result tells

From the first result of an expression one can go back to the text: the walk has read some text of
the language on the way, and captured what is in groups.  A reluctant run tells more, for nothing
that it passes can lead on.  Where a walk stands decides whether it leads on at all; what it has
captured makes no difference.

* `Expr.exists_between_of_mem_ways`, `Expr.exists_text_of_first` — **proved**: what was read and
  captured on the way to a result;
* `Expr.exists_skipped_of_first` — **proved**: a reluctant run stops where it first can;
* `Expr.placed_ways`, `Expr.isSome_first_some` — **proved**: captures do not decide whether there
  is a result;
* `Expr.first_of_optional_group` — **proved**: so a group that may be empty is never left out;
* `Expr.mem_ways_optional`, `Expr.mem_ways_repeated` — **proved**: what can be left out leads on.
-/

namespace Deobfuscation.Regex

/-! ### Where a walk stands -/

namespace Attempt

/-- Walks through an expression without guarded junctions pass none. -/
theorem lasting_passed : Lasting fun a b => a.passed = [] → b.passed = [] where
  refl _ h := h
  trans hab hbc h := hbc (hab h)
  consume _ _ := rfl
  capture _ h := h

theorem on_between (read rest : List Char) (captures : List Capture) :
    (between read rest captures).On (read ++ rest) := ⟨read, rfl, rfl, rfl⟩

end Attempt

namespace Expr

variable {next : Attempt → Option Attempt} {a b r : Attempt} {read rest : List Char}
  {captures : List Capture}

/-- The first result is that of going on from a way. -/
theorem exists_way_of_first {x : Expr} (h : x.first next a = some r) :
    ∃ b ∈ x.ways a, next b = some r := List.exists_of_findSome?_eq_some h

/-- There is a result if going on from one of the ways gives one. -/
theorem isSome_first {x : Expr} (hb : b ∈ x.ways a) (h : (next b).isSome = true) :
    (x.first next a).isSome = true := by
  rw [first, List.findSome?_isSome_iff]
  exact ⟨b, hb, h⟩

/-- **An expression that may read nothing has a first way**, which captures its groups alone. -/
theorem exists_first_some {x : Expr} (h : a ∈ x.ways a) :
    ∃ r, x.first some a = some r ∧ a.Adds x.groups r := by
  have hsome : (x.first some a).isSome = true := isSome_first h rfl
  obtain ⟨r, hr⟩ := Option.isSome_iff_exists.1 hsome
  obtain ⟨b, hb, hequal⟩ := exists_way_of_first hr
  obtain rfl := Option.some.inj hequal
  exact ⟨b, hr, x.adds_ways (List.Subset.refl _) a b hb⟩

/-- **A way has read a text of the language and captured some groups.** -/
theorem exists_between_of_mem_ways {x : Expr} (hb : b ∈ x.ways (.between read rest captures)) :
    ∃ t ∈ x.language, ∃ rest' new, rest = t ++ rest' ∧ (∀ capture ∈ new, capture.group ∈ x.groups) ∧
      b = .between (read ++ t) rest' (new ++ captures) := by
  obtain ⟨t, ht, hrest⟩ := x.reads_ways _ b hb
  obtain ⟨new, hnew, hgroups⟩ := x.adds_ways (List.Subset.refl _) _ b hb
  have hpassed : b.passed = [] := Attempt.lasting_passed.ways x _ b hb rfl
  rw [Attempt.rest_between] at hrest
  obtain ⟨hon, -⟩ :=
    (Attempt.lasting_on (read ++ rest)).ways x _ b hb (Attempt.on_between read rest captures)
  -- the place is known from how much of the text is left
  have hplace : b.cursor = (Attempt.between (read ++ t) b.cursor.rest b.captures).cursor := by
    have hthere := Attempt.on_between (read ++ t) b.cursor.rest b.captures
    rw [List.append_assoc, ← hrest] at hthere
    refine hon.cursor_eq hthere ?_
    have hleft := hon.rest_length
    have hleft' := hthere.rest_length
    rw [Attempt.rest_between] at hleft'
    omega
  refine ⟨t, ht, b.cursor.rest, new, hrest, hgroups, ?_⟩
  obtain ⟨cursor, captures', passed⟩ := b
  dsimp only at hplace hnew hpassed ⊢
  rw [hpassed, hnew]
  exact congrArg (Attempt.mk · (new ++ captures) []) hplace

/-- **An expression without groups has read a text of its language**, and nothing else has
changed. -/
theorem exists_text_of_first {x : Expr} (hx : x.groups = [])
    (h : x.first next (.between read rest captures) = some r) :
    ∃ t ∈ x.language, ∃ rest', rest = t ++ rest' ∧
      next (.between (read ++ t) rest' captures) = some r := by
  obtain ⟨b, hb, hnext⟩ := exists_way_of_first h
  obtain ⟨t, ht, rest', new, hrest, hgroups, rfl⟩ := exists_between_of_mem_ways hb
  rw [hx] at hgroups
  obtain rfl := List.eq_nil_iff_forall_not_mem.2 fun capture hmem =>
    List.not_mem_nil (hgroups capture hmem)
  exact ⟨t, ht, rest', hrest, hnext⟩

/-- A literal text that leads to a result is there. -/
theorem exists_of_first_literal {t : List Char}
    (h : (literal t).first next (.between read rest captures) = some r) :
    ∃ rest', rest = t ++ rest' ∧ next (.between (read ++ t) rest' captures) = some r := by
  obtain ⟨s, hs, rest', hrest, hnext⟩ := exists_text_of_first (x := literal t) rfl h
  obtain rfl : s = t := hs
  exact ⟨rest', hrest, hnext⟩

/-- An assertion that leads to a result holds. -/
theorem holds_of_first {p : Assertion}
    (h : (assert p).first next (.between read rest captures) = some r) :
    p.holds read.getLast? rest.head? = true ∧ next (.between read rest captures) = some r := by
  cases hholds : p.holds read.getLast? rest.head? with
  | true => exact ⟨rfl, (first_assert (a := .between read rest captures) hholds).symm.trans h⟩
  | false =>
    rw [first_assert_of_not_holds (a := .between read rest captures) hholds] at h
    exact absurd h (by simp)

/-- **A reluctant run stops where it first can**: it passes characters of its set, and nothing that
it passes leads on. -/
theorem exists_skipped_of_first {s : CharSet} (rest : List Char) :
    ∀ {read : List Char},
      (rounds 0 none false (set s)).first next (.between read rest captures) = some r →
      ∃ front back, rest = front ++ back ∧ (∀ c ∈ front, s.contains c = true) ∧
        next (.between (read ++ front) back captures) = some r ∧
        ∀ p q, front = p ++ q → q ≠ [] →
          next (.between (read ++ p) (q ++ back) captures) = none := by
  induction rest with
  | nil =>
    intro read h
    refine ⟨[], [], rfl, by simp, ?_, fun p q hsplit hq =>
      absurd (List.append_eq_nil_iff.1 hsplit.symm).2 hq⟩
    rw [first_reluctant, first_set_of_stops (stops_nil s), Option.or_none] at h
    rwa [List.append_nil]
  | cons c rest ih =>
    intro read h
    rw [first_reluctant] at h
    cases hhere : next (.between read (c :: rest) captures) with
    | some found =>
      rw [hhere, Option.some_or] at h
      exact ⟨[], c :: rest, rfl, by simp, by rw [List.append_nil, hhere, h],
        fun p q hsplit hq => absurd (List.append_eq_nil_iff.1 hsplit.symm).2 hq⟩
    | none =>
      rw [hhere, Option.none_or] at h
      cases hc : s.contains c with
      | false =>
        rw [first_set_of_stops] at h
        · exact absurd h (by simp)
        · intro d hd
          rw [← Option.some.inj hd]
          exact hc
      | true =>
        rw [first_set (Attempt.rest_between _ _ _) hc, Attempt.eat_char_between] at h
        obtain ⟨front, back, rfl, hfront, hnext, hskip⟩ := ih h
        refine ⟨c :: front, back, rfl, List.forall_mem_cons.2 ⟨hc, hfront⟩, ?_, ?_⟩
        · rwa [List.append_assoc] at hnext
        · intro p q hsplit hq
          cases p with
          | nil =>
            rw [List.nil_append] at hsplit
            rw [List.append_nil, ← hsplit]
            exact hhere
          | cons d p =>
            obtain ⟨rfl, hfront'⟩ := List.cons.inj hsplit
            have hlater := hskip p q hfront' hq
            rwa [List.append_assoc] at hlater

/-! ### Captures do not decide -/

theorem placed_ways {x : Expr} (hx : x.isProductive = true) : Placed x.ways :=
  (plans_number hx).ways_eq 0 ▸ Plan.placed_ways _

/-- **Whether there is a way depends on the place alone.** -/
theorem isSome_first_some {x : Expr} (hx : x.isProductive = true) (hab : a.cursor = b.cursor)
    (h : (x.first some a).isSome = true) : (x.first some b).isSome = true := by
  have hplaced := (placed_ways hx).congr hab
  rw [first, List.findSome?_isSome_iff] at h ⊢
  obtain ⟨way, hway, -⟩ := h
  obtain ⟨way', hway', -⟩ := List.mem_map.1 (hplaced ▸ List.mem_map_of_mem hway)
  exact ⟨way', hway', rfl⟩

/-- **A group that may be empty is not left out**: it would lead on where leaving it out does. -/
theorem first_of_optional_group {x z : Expr} {index : Nat} (hz : z.isProductive = true)
    (hx : a ∈ x.ways a)
    (h : (rounds 0 (some 1) true (group index x)).first (z.first some) a = some r) :
    (group index x).first (z.first some) a = some r := by
  rw [first_optional] at h
  cases hgroup : (group index x).first (z.first some) a with
  | some found => rwa [hgroup, Option.some_or] at h
  | none =>
    rw [hgroup, Option.none_or] at h
    have hempty : a.capture index a.cursor.position ∈ (group index x).ways a :=
      List.mem_map_of_mem hx
    have hleads := isSome_first_some (a := a) (b := a.capture index a.cursor.position) hz rfl
      (Option.isSome_iff_exists.2 ⟨r, h⟩)
    have hsome := isSome_first hempty hleads
    rw [hgroup] at hsome
    exact absurd hsome (by simp)

/-! ### What can be left out -/

/-- An optional expression can be left out. -/
theorem mem_ways_optional (x : Expr) (a : Attempt) : a ∈ (rounds 0 (some 1) true x).ways a := by
  simp [ways, times, upTo]

/-- A run can be empty. -/
theorem mem_ways_repeated (s : CharSet) (a : Attempt) :
    a ∈ (rounds 0 none true (set s)).ways a := by
  rw [ways_star, ways_set]
  exact mem_unlimited_self true a

end Expr

end Deobfuscation.Regex
