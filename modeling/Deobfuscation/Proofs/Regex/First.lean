import Mathlib.Data.List.Infix
import Deobfuscation.Proofs.Regex.Planning

/-!
# The first result

To find the first way of a long expression on a text one need not list all its ways.  It is
enough to know, for each part of the expression, which of its ways is the first from which the
parts after it succeed.

* `Expr.first` — the first result of going on from the ways of an expression, with one equation
  for each constructor;
* `Expr.ways_span`, `Expr.ways_run` — **proved**: a greedy run of characters of a set reaches
  the ends of all the beginnings of the run, the longest first;
* `Expr.first_span`, `Expr.first_span_front`, `Expr.first_run`, `Expr.first_skip`,
  `Expr.first_skip_none` — **proved**: the first results of greedy and of reluctant runs;
* `Expr.find_of_first` — **proved**: what is found at the beginning of a text;
* `Expr.requires`, `Expr.find_eq_none_of_requires` — **proved**: nothing is found in a text that
  lacks what every match contains.
-/

namespace Deobfuscation.Regex

/-- The first result of going on from the ways of an expression. -/
def Expr.first (x : Expr) (next : Attempt → Option Attempt) (a : Attempt) : Option Attempt :=
  (x.ways a).findSome? next

namespace Expr

variable {next : Attempt → Option Attempt} {a b r : Attempt} {s : CharSet}

/-! ### One equation for each constructor -/

theorem first_literal {t rest : List Char} (h : a.cursor.rest = t ++ rest) :
    (literal t).first next a = next (a.eat t) := by
  simp [first, ways, h]

theorem first_literal_of_not_prefix {t : List Char} (h : ¬ t <+: a.cursor.rest) :
    (literal t).first next a = none := by
  simp [first, ways, h]

theorem first_assert {p : Assertion}
    (h : p.holds a.cursor.before a.cursor.rest.head? = true) :
    (assert p).first next a = next a := by
  simp [first, ways, h]

/-- An assertion leads nowhere if what follows it does not. -/
theorem first_assert_none {p : Assertion} (h : next a = none) : (assert p).first next a = none := by
  rw [first, ways]
  split
  · rw [List.findSome?_singleton, h]
  · rfl

theorem first_assert_of_not_holds {p : Assertion}
    (h : p.holds a.cursor.before a.cursor.rest.head? = false) :
    (assert p).first next a = none := by
  simp [first, ways, h]

theorem first_seq (x y : Expr) : (seq x y).first next a = x.first (y.first next) a := by
  unfold first
  rw [ways]
  induction x.ways a with
  | nil => rfl
  | cons b bs ih =>
    rw [List.flatMap_cons, List.findSome?_append, ih, List.findSome?_cons]
    cases (y.ways b).findSome? next <;> rfl

theorem first_alt (x y : Expr) :
    (alt x y).first next a = (x.first next a).or (y.first next a) := by
  simp [first, ways, List.findSome?_append]

theorem first_group (index : Nat) (x : Expr) :
    (group index x).first next a =
      x.first (fun b => next (b.capture index a.cursor.position)) a := by
  simp [first, ways, List.findSome?_map, Function.comp_def]

theorem first_optional (x : Expr) :
    (rounds 0 (some 1) true x).first next a = (x.first next a).or (next a) := by
  simp [first, ways, times, upTo, List.findSome?_append]

/-- An optional expression that leads to a result is taken. -/
theorem first_optional_some {x : Expr} (h : x.first next a = some r) :
    (rounds 0 (some 1) true x).first next a = some r := by
  rw [first_optional, h, Option.some_or]

/-- An optional expression that leads nowhere is left out. -/
theorem first_optional_none {x : Expr} (h : x.first next a = none) :
    (rounds 0 (some 1) true x).first next a = next a := by
  rw [first_optional, h, Option.none_or]

theorem first_eq_none (x : Expr) (h : ∀ b ∈ x.ways a, next b = none) : x.first next a = none := by
  rw [first, List.findSome?_eq_none_iff]
  exact h

/-! ### Runs of characters -/

/-- No character of the set comes first. -/
def Stops (s : CharSet) (rest : List Char) : Prop := ∀ c, rest.head? = some c → s.contains c = false

theorem stops_nil (s : CharSet) : Stops s [] := by
  intro c hc
  simp at hc

theorem setWays_of_stops (h : Stops s a.cursor.rest) : setWays s a = [] := by
  rcases setWays_cases s a with hstop | ⟨c, rest, hrest, hc, -⟩
  · exact hstop
  · have := h c (by rw [hrest]; rfl)
    rw [hc] at this
    simp at this

theorem setWays_cons {c : Char} {rest : List Char} (h : a.cursor.rest = c :: rest)
    (hc : s.contains c = true) : setWays s a = [a.eat [c]] := by
  rw [setWays_of_rest h, if_pos hc, Attempt.consume_eq_eat h]

theorem rest_eat_cons {c : Char} {rest : List Char} (h : a.cursor.rest = c :: rest) :
    (a.eat [c]).cursor.rest = rest := by
  rw [Attempt.rest_eat, h]
  rfl

/-- **A greedy run reaches the ends of all its beginnings, the longest first.** -/
theorem unlimited_setWays {run rest : List Char} (hrun : ∀ c ∈ run, s.contains c = true)
    (hstop : Stops s rest) : ∀ {a : Attempt}, a.cursor.rest = run ++ rest →
      unlimited (setWays s) true a = (run.inits.map a.eat).reverse := by
  induction run with
  | nil =>
    intro a h
    rw [unlimited_unfold (consuming_setWays s), setWays_of_stops (by rw [h]; exact hstop)]
    simp
  | cons c run ih =>
    intro a h
    have hc := hrun c List.mem_cons_self
    have rest := ih (fun d hd => hrun d (List.mem_cons_of_mem c hd)) (rest_eat_cons h)
    rw [unlimited_unfold (consuming_setWays s), setWays_cons h hc]
    simp only [if_true, List.flatMap_cons, List.flatMap_nil, List.append_nil, rest,
      List.inits_cons, List.map_cons, List.map_map, List.reverse_cons, Attempt.eat_nil]
    rfl

theorem ways_span {run rest : List Char} (h : a.cursor.rest = run ++ rest)
    (hrun : ∀ c ∈ run, s.contains c = true) (hstop : Stops s rest) :
    (rounds 0 none true (set s)).ways a = (run.inits.map a.eat).reverse := by
  rw [ways_star, ways_set, unlimited_setWays hrun hstop h]

theorem ways_run {run rest : List Char} (h : a.cursor.rest = run ++ rest)
    (hrun : ∀ c ∈ run, s.contains c = true) (hstop : Stops s rest) :
    (rounds 1 none true (set s)).ways a = (run.inits.tail.map a.eat).reverse := by
  rw [ways_plus, ways_set]
  cases run with
  | nil =>
    rw [setWays_of_stops (by rw [h]; exact hstop)]
    rfl
  | cons c run =>
    have hc := hrun c List.mem_cons_self
    rw [setWays_cons h hc, List.flatMap_singleton,
      unlimited_setWays (fun d hd => hrun d (List.mem_cons_of_mem c hd)) hstop (rest_eat_cons h)]
    simp only [List.inits_cons, List.tail_cons, List.map_map]
    rfl

/-- The last of the beginnings of a text is the text. -/
theorem reverse_inits (run : List Char) :
    ∃ shorter, (run.inits).reverse = run :: shorter := by
  induction run with
  | nil => exact ⟨[], rfl⟩
  | cons c run ih =>
    obtain ⟨shorter, hshorter⟩ := ih
    refine ⟨shorter.map (c :: ·) ++ [[]], ?_⟩
    rw [List.inits_cons, List.reverse_cons, ← List.map_reverse, hshorter]
    rfl

/-- All beginnings but the first have a character. -/
theorem of_mem_tail_inits {run p : List Char} (h : p ∈ run.inits.tail) :
    p ≠ [] ∧ ∃ q, run = p ++ q := by
  cases run with
  | nil => simp at h
  | cons c run =>
    rw [List.inits_cons, List.tail_cons, List.mem_map] at h
    obtain ⟨p, hp, rfl⟩ := h
    obtain ⟨q, rfl⟩ := (List.mem_inits p run).1 hp
    exact ⟨List.cons_ne_nil c p, q, rfl⟩

/-- A greedy run is taken as a whole where that leads to a result. -/
theorem first_span {run rest : List Char} (h : a.cursor.rest = run ++ rest)
    (hrun : ∀ c ∈ run, s.contains c = true) (hstop : Stops s rest)
    (hnext : next (a.eat run) = some r) : (rounds 0 none true (set s)).first next a = some r := by
  obtain ⟨shorter, hshorter⟩ := reverse_inits run
  rw [first, ways_span h hrun hstop, ← List.map_reverse, hshorter]
  simp [hnext]

/-- **A greedy run gives back what leads nowhere.** -/
theorem first_span_front {front back rest : List Char}
    (h : a.cursor.rest = front ++ back ++ rest) (hrun : ∀ c ∈ front ++ back, s.contains c = true)
    (hstop : Stops s rest) (hnext : next (a.eat front) = some r)
    (hlonger : ∀ p q, back = p ++ q → p ≠ [] → next (a.eat (front ++ p)) = none) :
    (rounds 0 none true (set s)).first next a = some r := by
  obtain ⟨shorter, hshorter⟩ := reverse_inits front
  have hnone : ((back.inits.tail.map fun p => a.eat (front ++ p)).reverse).findSome? next =
      none := by
    rw [List.findSome?_eq_none_iff]
    intro b hb
    rw [List.mem_reverse, List.mem_map] at hb
    obtain ⟨p, hp, rfl⟩ := hb
    obtain ⟨hne, q, hsplit⟩ := of_mem_tail_inits hp
    exact hlonger p q hsplit hne
  rw [first, ways_span h hrun hstop, List.inits_append, List.map_append, List.map_map,
    List.reverse_append, List.findSome?_append]
  -- the ends inside of the second part come first
  show ((back.inits.tail.map fun p => a.eat (front ++ p)).reverse.findSome? next).or _ = some r
  rw [hnone, Option.none_or, ← List.map_reverse, hshorter, List.map_cons, List.findSome?_cons,
    hnext]

/-- A greedy run of at least one character is taken as a whole where that leads to a result. -/
theorem first_run {run rest : List Char} (h : a.cursor.rest = run ++ rest) (hne : run ≠ [])
    (hrun : ∀ c ∈ run, s.contains c = true) (hstop : Stops s rest)
    (hnext : next (a.eat run) = some r) : (rounds 1 none true (set s)).first next a = some r := by
  obtain ⟨c, run, rfl⟩ := List.exists_cons_of_ne_nil hne
  obtain ⟨shorter, hshorter⟩ := reverse_inits run
  rw [first, ways_run h hrun hstop, ← List.map_reverse, List.inits_cons, List.tail_cons,
    ← List.map_reverse, hshorter]
  simp [hnext]

/-- A run of no character at all. -/
theorem first_span_of_stops (hstop : Stops s a.cursor.rest) :
    (rounds 0 none true (set s)).first next a = next a := by
  have hrest : a.cursor.rest = [] ++ a.cursor.rest := rfl
  rw [first, ways_span hrest (by simp) hstop]
  simp

/-- There is no run of at least one character where the first is none of the set. -/
theorem first_run_of_stops (hstop : Stops s a.cursor.rest) :
    (rounds 1 none true (set s)).first next a = none := by
  rw [first, ways_plus, ways_set, setWays_of_stops hstop]
  rfl

/-- A run leads nowhere if none of its beginnings does. -/
theorem first_run_none {run rest : List Char} (h : a.cursor.rest = run ++ rest)
    (hrun : ∀ c ∈ run, s.contains c = true) (hstop : Stops s rest)
    (hnext : ∀ p q, run = p ++ q → p ≠ [] → next (a.eat p) = none) :
    (rounds 1 none true (set s)).first next a = none := by
  apply first_eq_none
  intro b hb
  rw [ways_run h hrun hstop, List.mem_reverse, List.mem_map] at hb
  obtain ⟨p, hp, rfl⟩ := hb
  obtain ⟨hne, q, hsplit⟩ := of_mem_tail_inits hp
  exact hnext p q hsplit hne

/-- A reluctant run goes on from where it is, or past one more character. -/
theorem first_reluctant :
    (rounds 0 none false (set s)).first next a =
      (next a).or ((set s).first ((rounds 0 none false (set s)).first next) a) := by
  rw [← first_seq]
  simp only [first, ways_star, ways_set]
  rw [unlimited_unfold (consuming_setWays s), ways, ways_star, ways_set]
  cases hnext : next a <;> simp [hnext]

theorem first_set {c : Char} {rest : List Char} (h : a.cursor.rest = c :: rest)
    (hc : s.contains c = true) : (set s).first next a = next (a.eat [c]) := by
  rw [first, ways, setWays_cons h hc]
  simp

theorem first_set_of_stops (hstop : Stops s a.cursor.rest) : (set s).first next a = none := by
  rw [first, ways, setWays_of_stops hstop]
  rfl

/-- **A reluctant run skips all that leads nowhere.** -/
theorem first_skip {run rest : List Char} (hrun : ∀ c ∈ run, s.contains c = true) :
    ∀ {a : Attempt}, a.cursor.rest = run ++ rest →
      (∀ p c q, run = p ++ c :: q → next (a.eat p) = none) → next (a.eat run) = some r →
      (rounds 0 none false (set s)).first next a = some r := by
  induction run with
  | nil =>
    intro a _ _ hnext
    rw [first_reluctant, show next a = some r from hnext, Option.some_or]
  | cons c run ih =>
    intro a h hskip hnext
    have none : next a = none := hskip [] c run rfl
    rw [first_reluctant, none, Option.none_or, first_set h (hrun c List.mem_cons_self)]
    refine ih (fun d hd => hrun d (List.mem_cons_of_mem c hd)) (rest_eat_cons h) ?_ hnext
    intro p d q hsplit
    exact hskip (c :: p) d q (by rw [hsplit]; rfl)

/-- A reluctant run leads nowhere if nothing that it can skip leads on. -/
theorem first_skip_none (rest : List Char) :
    ∀ {a : Attempt}, a.cursor.rest = rest →
      (∀ p q, rest = p ++ q → next (a.eat p) = none) →
      (rounds 0 none false (set s)).first next a = none := by
  induction rest with
  | nil =>
    intro a h hnone
    have hstop : Stops s a.cursor.rest := by
      rw [h]
      intro c hc
      simp at hc
    have hhere : next a = none := hnone [] [] rfl
    rw [first_reluctant, hhere, Option.none_or, first_set_of_stops hstop]
  | cons c rest ih =>
    intro a h hnone
    have hhere : next a = none := hnone [] (c :: rest) rfl
    rw [first_reluctant, hhere, Option.none_or]
    by_cases hc : s.contains c = true
    · rw [first_set h hc]
      refine ih (rest_eat_cons h) fun p q hsplit => ?_
      exact hnone (c :: p) q (by rw [hsplit]; rfl)
    · have hstop : Stops s a.cursor.rest := by
        rw [h]
        intro d hd
        rw [← Option.some.inj hd]
        exact Bool.eq_false_iff.2 hc
      rw [first_set_of_stops hstop]

/-! ### Repetitions -/

/-- A greedy repetition goes round once more where that leads to a result. -/
theorem first_star {x : Expr} (hx : x.isNullable = false) :
    (rounds 0 none true x).first next a =
      (x.first ((rounds 0 none true x).first next) a).or (next a) := by
  rw [← first_seq]
  simp only [first, ways_star]
  rw [unlimited_unfold (consuming_ways hx), ways, ways_star]
  simp [List.findSome?_append]

/-! ### The first match in a text -/

/-- **What leads to a result at the beginning of a text is found.** -/
theorem find_of_first {x : Expr} (hx : x.isProductive = true) {text : List Char}
    (h : x.first some ⟨.start text, [], []⟩ = some r) :
    (Plan.ofExpr x).find text = some r.captures := by
  have hstarts : ∃ more, starts text = ⟨.start text, [], []⟩ :: more := by
    cases text with
    | nil => exact ⟨[], rfl⟩
    | cons c text => exact ⟨_, rfl⟩
  obtain ⟨more, hmore⟩ := hstarts
  rw [find_ofExpr hx, hmore, List.flatMap_cons]
  cases hways : x.ways ⟨.start text, [], []⟩ with
  | nil => simp [first, hways] at h
  | cons b bs =>
    have : b = r := by simpa [first, hways] using h
    simp [this]

/-- Every match contains a text. -/
def requires (t : List Char) : Expr → Bool
  | empty | set _ | assert _ => false
  | literal s => decide (t <:+: s)
  | seq x y => x.requires t || y.requires t
  | alt x y => x.requires t && y.requires t
  | rounds least _ _ x => least != 0 && x.requires t
  | group _ x => x.requires t

/-- What a way leaves of the text is an end of it. -/
theorem lasting_suffix : Lasting fun a b => b.cursor.rest <:+ a.cursor.rest where
  refl a := List.suffix_rfl
  trans hab hbc := hbc.trans hab
  consume := by
    intro a c rest h
    rw [h]
    exact List.suffix_cons c rest
  capture _ h := h

/-- There is no way through an expression that requires what the rest of the text lacks. -/
theorem ways_eq_nil_of_requires {t : List Char} (x : Expr) (hx : x.requires t = true) :
    ∀ {a : Attempt}, ¬ t <:+: a.cursor.rest → x.ways a = [] := by
  induction x with
  | empty => simp [requires] at hx
  | set s => simp [requires] at hx
  | assert p => simp [requires] at hx
  | literal s =>
    intro a ha
    rw [requires, decide_eq_true_eq] at hx
    have : ¬ s <+: a.cursor.rest := fun h => ha (hx.trans h.isInfix)
    simp [ways, this]
  | seq x y ihx ihy =>
    intro a ha
    rw [requires, Bool.or_eq_true] at hx
    rw [ways, List.flatMap_eq_nil_iff]
    intro b hb
    rcases hx with hx | hy
    · rw [ihx hx ha] at hb
      simp at hb
    · exact ihy hy fun hin => ha (hin.trans (lasting_suffix.ways x a b hb).isInfix)
  | alt x y ihx ihy =>
    intro a ha
    rw [requires, Bool.and_eq_true] at hx
    rw [ways, ihx hx.1 ha, ihy hx.2 ha]
    rfl
  | rounds least most greedy x ih =>
    intro a ha
    rw [requires, Bool.and_eq_true, bne_iff_ne] at hx
    obtain ⟨more, rfl⟩ := Nat.exists_eq_succ_of_ne_zero hx.1
    cases most <;> simp [ways, times, ih hx.2 ha]
  | group index x ih =>
    intro a ha
    rw [ways, ih hx ha]
    rfl

/-- An expression that requires what the rest of the text lacks leads nowhere. -/
theorem first_eq_none_of_requires {t : List Char} {x : Expr} (hx : x.requires t = true)
    (ha : ¬ t <:+: a.cursor.rest) : x.first next a = none := by
  rw [first, ways_eq_nil_of_requires x hx ha]
  rfl

theorem rest_suffix_of_mem_startsFrom (rest : List Char) :
    ∀ cursor : Cursor, cursor.rest = rest →
      ∀ a ∈ startsFrom rest cursor, a.cursor.rest <:+ rest := by
  induction rest with
  | nil =>
    intro cursor hrest a ha
    rw [startsFrom, List.mem_singleton] at ha
    subst ha
    exact hrest ▸ List.suffix_rfl
  | cons c rest ih =>
    intro cursor hrest a ha
    rw [startsFrom, List.mem_cons] at ha
    rcases ha with rfl | ha
    · exact hrest ▸ List.suffix_rfl
    · exact (ih (cursor.advance c rest) rfl a ha).trans (List.suffix_cons c rest)

/-- **Nothing is found in a text that lacks what every match contains.** -/
theorem find_eq_none_of_requires {x : Expr} (hx : x.isProductive = true) {t : List Char}
    (ht : x.requires t = true) {text : List Char} (htext : ¬ t <:+: text) :
    (Plan.ofExpr x).find text = none := by
  have none : (starts text).flatMap x.ways = [] := by
    rw [List.flatMap_eq_nil_iff]
    intro a ha
    refine x.ways_eq_nil_of_requires ht fun hin => htext (hin.trans ?_)
    exact (rest_suffix_of_mem_startsFrom text (.start text) rfl a ha).isInfix
  rw [find_ofExpr hx, none]
  rfl

end Expr

end Deobfuscation.Regex
