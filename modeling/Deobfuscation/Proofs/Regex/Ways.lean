import Mathlib.Data.List.Nodup
import Deobfuscation.Regex.Search

/-!
# The ways of an expression

The meaning of an expression is the list of its **ways**: all the walks that lead through it from
a place, in the order in which they are preferred.  A choice has the ways of its first branch
before those of the second, and a greedy repetition has the ways of another round before the way
that stops.  Nothing is remembered and nothing is cut short here, so this is what a search has to
agree with.

* `Attempt.eat` — a walk past a given text;
* `upTo`, `unlimited`, `times` — the ways of repeated rounds;
* `Expr.ways`, `Plan.ways` — the ways of an expression and of a plan;
* `upTo_stable` — **proved**: where every round consumes a character, as many rounds as there
  are characters left are enough;
* `unlimited_unfold` — **proved**: unlimited rounds are one more round and unlimited rounds after
  it, or none at all;
* `Lasting.ways`, `Lasting.planWays` — **proved**: a relation that consuming a character and
  closing a group keep holds between a walk and each of its ways;
* `Expr.consuming_ways` — **proved**: an expression that always consumes a character leaves less
  of the text.
-/

namespace Deobfuscation.Regex

/-- All that can become of a walk, the preferred first. -/
abbrev Ways := Attempt → List Attempt

/-! ### Consuming a text -/

/-- The walk goes on past a text that it stands in front of. -/
def Attempt.eat : Attempt → List Char → Attempt
  | a, [] => a
  | a, c :: s => (a.consume c a.cursor.rest.tail).eat s

namespace Attempt

@[simp] theorem eat_nil (a : Attempt) : a.eat [] = a := rfl

theorem eat_cons (a : Attempt) (c : Char) (s : List Char) :
    a.eat (c :: s) = (a.consume c a.cursor.rest.tail).eat s := rfl

@[simp] theorem rest_eat (a : Attempt) (s : List Char) :
    (a.eat s).cursor.rest = a.cursor.rest.drop s.length := by
  induction s generalizing a with
  | nil => rfl
  | cons c s ih =>
    rw [eat_cons, ih]
    show a.cursor.rest.tail.drop s.length = a.cursor.rest.drop (s.length + 1)
    rw [List.drop_tail]

@[simp] theorem cursor_consume (a : Attempt) (c : Char) (rest : List Char) :
    (a.consume c rest).cursor = a.cursor.advance c rest := rfl

theorem consume_eq_eat {a : Attempt} {c : Char} {rest : List Char}
    (h : a.cursor.rest = c :: rest) : a.consume c rest = a.eat [c] := by
  rw [eat_cons, h]
  rfl

/-- The walk that has read a text, has another one before it and has captured stretches. -/
def between (read rest : List Char) (captures : List Capture) : Attempt :=
  ⟨⟨read.length, read.getLast?, rest⟩, captures, []⟩

@[simp] theorem rest_between (read rest : List Char) (captures : List Capture) :
    (between read rest captures).cursor.rest = rest := rfl

@[simp] theorem position_between (read rest : List Char) (captures : List Capture) :
    (between read rest captures).cursor.position = read.length := rfl

theorem eat_between (s : List Char) (read rest : List Char) (captures : List Capture) :
    (between read (s ++ rest) captures).eat s = between (read ++ s) rest captures := by
  induction s generalizing read with
  | nil => rw [List.append_nil]; rfl
  | cons c s ih =>
    have step : (between read (c :: s ++ rest) captures).consume c (s ++ rest) =
        between (read ++ [c]) (s ++ rest) captures := by
      simp [between, consume, Cursor.advance]
    rw [eat_cons]
    show ((between read (c :: s ++ rest) captures).consume c (s ++ rest)).eat s = _
    rw [step, ih, List.append_assoc]
    rfl

/-- A character is eaten. -/
theorem eat_char_between (c : Char) (read rest : List Char) (captures : List Capture) :
    (between read (c :: rest) captures).eat [c] = between (read ++ [c]) rest captures :=
  eat_between [c] read rest captures

/-- All of the rest is eaten. -/
theorem eat_rest_between (read rest : List Char) (captures : List Capture) :
    (between read rest captures).eat rest = between (read ++ rest) [] captures := by
  have h := eat_between rest read [] captures
  rwa [List.append_nil] at h

theorem capture_between (read group rest : List Char) (index : Nat) (captures : List Capture) :
    (between (read ++ group) rest captures).capture index read.length =
      between (read ++ group) rest
        (⟨index, read.length, (read ++ group).length⟩ :: captures) := rfl

end Attempt

/-! ### Rounds -/

/-- One character of a set. -/
def setWays (s : CharSet) : Ways := fun a =>
  match a.cursor.rest with
  | [] => []
  | c :: rest => if s.contains c then [a.consume c rest] else []

/-- At most so many rounds. -/
def upTo (body : Ways) (greedy : Bool) : Nat → Ways
  | 0, a => [a]
  | count + 1, a =>
    if greedy then (body a).flatMap (upTo body greedy count) ++ [a]
    else a :: (body a).flatMap (upTo body greedy count)

/-- As many rounds as there are characters left, which is no limit where every round consumes
one. -/
def unlimited (body : Ways) (greedy : Bool) : Ways := fun a =>
  upTo body greedy a.cursor.rest.length a

/-- Exactly so many rounds. -/
def times (body : Ways) : Nat → Ways
  | 0, a => [a]
  | count + 1, a => (body a).flatMap (times body count)

/-- Every way consumes a character. -/
def Consuming (body : Ways) : Prop :=
  ∀ a, ∀ b ∈ body a, b.cursor.rest.length < a.cursor.rest.length

theorem consuming_setWays (s : CharSet) : Consuming (setWays s) := by
  intro a b hb
  unfold setWays at hb
  split at hb
  · simp at hb
  · rename_i c rest hrest
    split at hb
    · rw [List.mem_singleton] at hb
      subst hb
      rw [hrest]
      show rest.length < rest.length + 1
      omega
    · simp at hb

/-- **Where every round consumes a character, as many rounds as there are characters left are
enough.** -/
theorem upTo_stable {body : Ways} (hbody : Consuming body) (greedy : Bool) (count : Nat) :
    ∀ a : Attempt, a.cursor.rest.length ≤ count →
      upTo body greedy count a = upTo body greedy a.cursor.rest.length a := by
  induction count using Nat.strongRecOn with
  | _ count ih =>
    intro a ha
    rcases Nat.lt_or_eq_of_le ha with hlt | heq
    · obtain ⟨more, rfl⟩ : ∃ more, count = more + 1 := ⟨count - 1, by omega⟩
      have inner : (body a).flatMap (upTo body greedy more) =
          (body a).flatMap fun b => upTo body greedy b.cursor.rest.length b := by
        apply List.flatMap_congr
        intro b hb
        have := hbody a b hb
        exact ih more (by omega) b (by omega)
      cases hn : a.cursor.rest.length with
      | zero =>
        have none : body a = [] := by
          rw [List.eq_nil_iff_forall_not_mem]
          intro b hb
          have := hbody a b hb
          omega
        simp [upTo, none]
      | succ n =>
        have outer : (body a).flatMap (upTo body greedy n) =
            (body a).flatMap fun b => upTo body greedy b.cursor.rest.length b := by
          apply List.flatMap_congr
          intro b hb
          have := hbody a b hb
          exact ih n (by omega) b (by omega)
        simp only [upTo, inner, outer]
    · rw [heq]

/-- **Unlimited rounds are one more round and unlimited rounds after it, or none at all.** -/
theorem unlimited_unfold {body : Ways} (hbody : Consuming body) (greedy : Bool) (a : Attempt) :
    unlimited body greedy a =
      if greedy then (body a).flatMap (unlimited body greedy) ++ [a]
      else a :: (body a).flatMap (unlimited body greedy) := by
  have inner : (body a).flatMap (upTo body greedy a.cursor.rest.length) =
      (body a).flatMap (unlimited body greedy) := by
    apply List.flatMap_congr
    intro b hb
    have := hbody a b hb
    exact upTo_stable hbody greedy _ b (by omega)
  have one := upTo_stable hbody greedy (a.cursor.rest.length + 1) a (by omega)
  rw [unlimited, ← one, upTo, inner]

/-! ### Expressions and plans -/

/-- The ways of an expression. -/
def Expr.ways : Expr → Ways
  | empty, a => [a]
  | literal s, a => if s.isPrefixOf a.cursor.rest then [a.eat s] else []
  | set s, a => setWays s a
  | assert p, a => if p.holds a.cursor.before a.cursor.rest.head? then [a] else []
  | seq x y, a => (x.ways a).flatMap y.ways
  | alt x y, a => x.ways a ++ y.ways a
  | rounds least none greedy x, a => (times x.ways least a).flatMap (unlimited x.ways greedy)
  | rounds least (some most) greedy x, a =>
    (times x.ways least a).flatMap (upTo x.ways greedy (most - least))
  | group index x, a => (x.ways a).map (·.capture index a.cursor.position)

/-- The ways of a plan. -/
def Plan.ways : Plan → Ways
  | empty, a => [a]
  | set s, a => setWays s a
  | assert p, a => if p.holds a.cursor.before a.cursor.rest.head? then [a] else []
  | seq x y, a => (x.ways a).flatMap y.ways
  | alt _ x y, a => x.ways a ++ y.ways a
  | span _ greedy s, a => unlimited (setWays s) greedy a
  | star _ greedy x, a => unlimited x.ways greedy a
  | plus _ greedy x, a => (x.ways a).flatMap (unlimited x.ways greedy)
  | group index x, a => (x.ways a).map (·.capture index a.cursor.position)

theorem Expr.ways_set (s : CharSet) : (set s).ways = setWays s := rfl

theorem Expr.ways_star (x : Expr) (greedy : Bool) :
    (rounds 0 none greedy x).ways = unlimited x.ways greedy := by
  funext a
  simp [ways, times]

theorem Expr.ways_plus (x : Expr) (greedy : Bool) (a : Attempt) :
    (rounds 1 none greedy x).ways a = (x.ways a).flatMap (unlimited x.ways greedy) := by
  rw [ways, times]
  congr 1
  exact List.flatMap_singleton' (x.ways a)

/-! ### What every way keeps -/

/-- A relation that holds between a walk and whatever can become of it: it holds past a character
and past a group, and it can be chained. -/
structure Lasting (R : Attempt → Attempt → Prop) : Prop where
  refl : ∀ a, R a a
  trans : ∀ {a b c}, R a b → R b c → R a c
  consume : ∀ {a : Attempt} {c : Char} {rest : List Char},
    a.cursor.rest = c :: rest → R a (a.consume c rest)
  capture : ∀ {a b : Attempt} (index : Nat), R a b → R a (b.capture index a.cursor.position)

namespace Lasting

variable {R : Attempt → Attempt → Prop}

theorem eat (hR : Lasting R) {s t : List Char} :
    ∀ {a : Attempt}, a.cursor.rest = s ++ t → R a (a.eat s) := by
  induction s with
  | nil => exact fun {a} _ => hR.refl a
  | cons c s ih =>
    intro a h
    have first : R a (a.consume c a.cursor.rest.tail) := by
      rw [h]
      exact hR.consume h
    refine hR.trans first (ih ?_)
    show a.cursor.rest.tail = s ++ t
    rw [h]
    rfl

theorem setWays (hR : Lasting R) (s : CharSet) : ∀ a, ∀ b ∈ setWays s a, R a b := by
  intro a b hb
  unfold Regex.setWays at hb
  split at hb
  · simp at hb
  · rename_i c rest hrest
    split at hb
    · rw [List.mem_singleton] at hb
      exact hb ▸ hR.consume hrest
    · simp at hb

theorem upTo (hR : Lasting R) {body : Ways} (hbody : ∀ a, ∀ b ∈ body a, R a b) (greedy : Bool)
    (count : Nat) : ∀ a, ∀ b ∈ upTo body greedy count a, R a b := by
  induction count with
  | zero =>
    intro a b hb
    rw [Regex.upTo, List.mem_singleton] at hb
    exact hb ▸ hR.refl a
  | succ count ih =>
    intro a b hb
    have split : b = a ∨ b ∈ (body a).flatMap (Regex.upTo body greedy count) := by
      rw [Regex.upTo] at hb
      split at hb
      · rw [List.mem_append, List.mem_singleton] at hb
        exact hb.symm
      · rw [List.mem_cons] at hb
        exact hb
    rcases split with rfl | hmore
    · exact hR.refl b
    · obtain ⟨c, hc, hbc⟩ := List.mem_flatMap.1 hmore
      exact hR.trans (hbody a c hc) (ih c b hbc)

theorem times (hR : Lasting R) {body : Ways} (hbody : ∀ a, ∀ b ∈ body a, R a b) (count : Nat) :
    ∀ a, ∀ b ∈ times body count a, R a b := by
  induction count with
  | zero =>
    intro a b hb
    rw [Regex.times, List.mem_singleton] at hb
    exact hb ▸ hR.refl a
  | succ count ih =>
    intro a b hb
    obtain ⟨c, hc, hbc⟩ := List.mem_flatMap.1 hb
    exact hR.trans (hbody a c hc) (ih c b hbc)

/-- **A lasting relation holds between a walk and each of its ways through an expression.** -/
theorem ways (hR : Lasting R) (x : Expr) : ∀ a, ∀ b ∈ x.ways a, R a b := by
  induction x with
  | empty =>
    intro a b hb
    rw [Expr.ways, List.mem_singleton] at hb
    exact hb ▸ hR.refl a
  | literal s =>
    intro a b hb
    rw [Expr.ways] at hb
    split at hb
    · rename_i h
      obtain ⟨t, ht⟩ := List.isPrefixOf_iff_prefix.1 h
      rw [List.mem_singleton] at hb
      exact hb ▸ hR.eat ht.symm
    · simp at hb
  | set s => exact hR.setWays s
  | assert p =>
    intro a b hb
    rw [Expr.ways] at hb
    split at hb
    · rw [List.mem_singleton] at hb
      exact hb ▸ hR.refl a
    · simp at hb
  | seq x y ihx ihy =>
    intro a b hb
    obtain ⟨c, hc, hbc⟩ := List.mem_flatMap.1 hb
    exact hR.trans (ihx a c hc) (ihy c b hbc)
  | alt x y ihx ihy =>
    intro a b hb
    rcases List.mem_append.1 hb with h | h
    · exact ihx a b h
    · exact ihy a b h
  | rounds least most greedy x ih =>
    intro a b hb
    cases most with
    | none =>
      obtain ⟨c, hc, hbc⟩ := List.mem_flatMap.1 hb
      exact hR.trans (hR.times ih least a c hc) (hR.upTo ih greedy _ c b hbc)
    | some most =>
      obtain ⟨c, hc, hbc⟩ := List.mem_flatMap.1 hb
      exact hR.trans (hR.times ih least a c hc) (hR.upTo ih greedy _ c b hbc)
  | group index x ih =>
    intro a b hb
    obtain ⟨c, hc, rfl⟩ := List.mem_map.1 hb
    exact hR.capture index (ih a c hc)

/-- **A lasting relation holds between a walk and each of its ways through a plan.** -/
theorem planWays (hR : Lasting R) (x : Plan) : ∀ a, ∀ b ∈ x.ways a, R a b := by
  induction x with
  | empty =>
    intro a b hb
    rw [Plan.ways, List.mem_singleton] at hb
    exact hb ▸ hR.refl a
  | set s => exact hR.setWays s
  | assert p =>
    intro a b hb
    rw [Plan.ways] at hb
    split at hb
    · rw [List.mem_singleton] at hb
      exact hb ▸ hR.refl a
    · simp at hb
  | seq x y ihx ihy =>
    intro a b hb
    obtain ⟨c, hc, hbc⟩ := List.mem_flatMap.1 hb
    exact hR.trans (ihx a c hc) (ihy c b hbc)
  | alt j x y ihx ihy =>
    intro a b hb
    rcases List.mem_append.1 hb with h | h
    · exact ihx a b h
    · exact ihy a b h
  | span j greedy s => exact fun a => hR.upTo (hR.setWays s) greedy _ a
  | star j greedy x ih => exact fun a => hR.upTo ih greedy _ a
  | plus j greedy x ih =>
    intro a b hb
    obtain ⟨c, hc, hbc⟩ := List.mem_flatMap.1 hb
    exact hR.trans (ih a c hc) (hR.upTo ih greedy _ c b hbc)
  | group index x ih =>
    intro a b hb
    obtain ⟨c, hc, rfl⟩ := List.mem_map.1 hb
    exact hR.capture index (ih a c hc)

end Lasting

/-- No way leaves more of the text than there was. -/
theorem lasting_rest :
    Lasting fun a b => b.cursor.rest.length ≤ a.cursor.rest.length where
  refl a := Nat.le_refl _
  trans hab hbc := Nat.le_trans hbc hab
  consume := by
    intro a c rest h
    rw [h]
    exact Nat.le_succ _
  capture _ h := h

/-! ### Expressions that consume a character -/

theorem Consuming.times {body : Ways} (hbody : Consuming body) {count : Nat} (hpos : count ≠ 0) :
    Consuming (times body count) := by
  obtain ⟨more, rfl⟩ := Nat.exists_eq_succ_of_ne_zero hpos
  intro a b hb
  obtain ⟨c, hc, hbc⟩ := List.mem_flatMap.1 hb
  have first := hbody a c hc
  have others := lasting_rest.times (fun a b hb => Nat.le_of_lt (hbody a b hb)) more c b hbc
  omega

/-- **An expression that always consumes a character leaves less of the text.** -/
theorem Expr.consuming_ways {x : Expr} (hx : x.isNullable = false) : Consuming x.ways := by
  induction x with
  | empty => simp [isNullable] at hx
  | literal s =>
    intro a b hb
    rw [ways] at hb
    split at hb
    · rename_i h
      obtain ⟨t, ht⟩ := List.isPrefixOf_iff_prefix.1 h
      rw [List.mem_singleton] at hb
      have pos : 0 < s.length := by
        cases s with
        | nil => simp [isNullable] at hx
        | cons c s => simp
      rw [hb, Attempt.rest_eat, ← ht]
      simp only [List.drop_left, List.length_append]
      omega
    · simp at hb
  | set s => exact consuming_setWays s
  | assert p => simp [isNullable] at hx
  | seq x y ihx ihy =>
    intro a b hb
    obtain ⟨c, hc, hbc⟩ := List.mem_flatMap.1 hb
    have hac := lasting_rest.ways x a c hc
    have hcb := lasting_rest.ways y c b hbc
    rw [isNullable, Bool.and_eq_false_iff] at hx
    rcases hx with hx | hy
    · have := ihx hx a c hc
      omega
    · have := ihy hy c b hbc
      omega
  | alt x y ihx ihy =>
    rw [isNullable, Bool.or_eq_false_iff] at hx
    intro a b hb
    rcases List.mem_append.1 hb with h | h
    · exact ihx hx.1 a b h
    · exact ihy hx.2 a b h
  | rounds least most greedy x ih =>
    rw [isNullable, Bool.or_eq_false_iff, beq_eq_false_iff_ne] at hx
    have several := (ih hx.2).times hx.1
    have more := lasting_rest.upTo (lasting_rest.ways x) greedy
    intro a b hb
    cases most with
    | none =>
      obtain ⟨c, hc, hbc⟩ := List.mem_flatMap.1 hb
      exact Nat.lt_of_le_of_lt (more _ c b hbc) (several a c hc)
    | some most =>
      obtain ⟨c, hc, hbc⟩ := List.mem_flatMap.1 hb
      exact Nat.lt_of_le_of_lt (more _ c b hbc) (several a c hc)
  | group index x ih =>
    intro a b hb
    obtain ⟨c, hc, rfl⟩ := List.mem_map.1 hb
    exact ih hx a c hc

end Deobfuscation.Regex
