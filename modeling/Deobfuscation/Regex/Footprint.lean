import Deobfuscation.Regex.Composition
import Deobfuscation.Regex.LiteralTree
import Deobfuscation.Regex.Nesting
import Deobfuscation.Regex.SetAutomaton

/-!
# Footprints

An expression is used if the automaton that finds its matches, and the one that finds them from
their ends, are small enough.  Both work on the bytes of the text.  Their states are numbered in
the order in which they are built, and bounded repetitions are written out round by round.

* `Expr.endsInJunction` — an automaton ends in a junction, from which a further link leads on;
* `Expr.grow` — an automaton with that of an expression added to it;
* `Expr.bound` — what the automaton of an expression consists of at most;
* `Expr.automaton` — the whole automaton of an expression;
* `Expr.IsAcceptable` — neither automaton is too large;
* `grow_le` — **proved**: no more is added than the bound, so an automaton need not be built if its
  bound is small enough;
* `isAcceptable_iff` — **proved**: this decides whether an expression is acceptable.
-/

namespace Deobfuscation.Regex.Expr

/-! ### What is known of matches -/

/-- Some set in the expression has no members. -/
def hasEmptySet : Expr → Bool
  | empty | literal _ | assert _ => false
  | set s => s.ranges.isEmpty
  | seq x y => x.hasEmptySet || y.hasEmptySet
  | alt x y => x.hasEmptySet || y.hasEmptySet
  | rounds _ _ _ x => x.hasEmptySet
  | group _ x => x.hasEmptySet

/-- The expression is known to match nowhere without consuming a character.  Nothing is known of
the length of a match if some set has no members. -/
def surelyConsumes (x : Expr) : Bool := !x.isNullable && !x.hasEmptySet

/-- Each match begins at the beginning of the text. -/
def beginsAtStart : Expr → Bool
  | empty | literal _ | set _ => false
  | assert a => a == .textStart
  | seq x y => x.beginsAtStart || (x.neverConsumes && y.beginsAtStart)
  | alt x y => x.beginsAtStart && y.beginsAtStart
  | rounds least _ _ x => 0 < least && x.beginsAtStart
  | group _ x => x.beginsAtStart

/-- Each match ends at the end of the text. -/
def endsAtEnd : Expr → Bool
  | empty | literal _ | set _ => false
  | assert a => a == .textEnd
  | seq x y => y.endsAtEnd || (y.neverConsumes && x.endsAtEnd)
  | alt x y => x.endsAtEnd && y.endsAtEnd
  | rounds least _ _ x => 0 < least && x.endsAtEnd
  | group _ x => x.endsAtEnd

/-! ### Junctions -/

/-- The automaton of the expression ends in a junction. -/
def endsInJunction (direction : Direction) : Expr → Bool
  | empty | literal _ | set _ | assert _ | alt _ _ => false
  | seq x y =>
    match direction with
    | .forward => y.endsInJunction direction
    | .backward => x.endsInJunction direction
  | rounds least none _ x => 0 < least || x.surelyConsumes
  | rounds least (some most) _ x => 0 < least && least == most && x.endsInJunction direction
  | group _ x => direction == .backward && x.endsInJunction direction

/-- The link that leads on from the end of the automaton, if it is a junction. -/
def linkOn (direction : Direction) (x : Expr) : Tally :=
  .ofLinks (if x.endsInJunction direction then 1 else 0)

/-! ### Repetitions -/

/-- So many rounds, given a round and the link to the next. -/
def growTimes (round : Tally → Tally) (link : Tally) : Nat → Tally → Tally
  | 0, t => t + .ofStates 1
  | count + 1, t => Tally.repeated (fun t => round (t + link)) count (round t)

/-- A repetition, given a round, the link from its end, and whether it surely consumes.  Rounds
that may be left out have junctions in front of them; where there is no upper bound, a junction
leads back. -/
def growRounds (round : Tally → Tally) (link : Tally) (consumes : Bool) :
    Nat → Option Nat → Tally → Tally
  | 0, none, t =>
    if consumes then round (t + .ofStates 1) + link + .ofLinks 1
    else round t + link + ⟨3, 0, 4⟩
  | least + 1, none, t => growTimes round link (least + 1) t + link + ⟨1, 0, 1⟩
  | least, some most, t =>
    if least = most then growTimes round link least t
    else if least = 0 ∧ most = 1 then round (t + .ofStates 1) + link + ⟨1, 0, 2⟩
    else
      Tally.repeated (fun t => round (t + ⟨1, 0, 2⟩) + link) (most - least)
        (growTimes round link least t + (if least = 0 then .nothing else link) + .ofStates 1)

/-! ### Choices -/

/-- The expression is a choice. -/
def isChoice : Expr → Bool
  | alt _ _ => true
  | _ => false

/-- The literals that an expression chooses between, if there are two or more and nothing
else. -/
def literals? (x : Expr) : Option (List (List Char)) :=
  match x.branches with
  | [_] => none
  | xs => xs.mapM fun
    | literal s => some s
    | _ => none

/-- The literals of a choice that is not itself what another choice goes on with. -/
def wholeLiterals? (earlier : Nat) (x : Expr) : Option (List (List Char)) :=
  if earlier = 0 then x.literals? else none

/-- The junction of a choice and the state that all branches lead to, which are built after the
second branch. -/
def opening (earlier : Nat) : Tally := .ofStates (if earlier = 1 then 2 else 0)

/-! ### Expressions -/

/-- An automaton with that of an expression added to it.  If the expression is what a choice
goes on with, `earlier` is the number of the branches before it, and zero otherwise. -/
def grow (direction : Direction) : Nat → Expr → Tally → Tally
  | _, empty, t => t + .ofStates 1
  | _, literal s, t => t + .ofStates (Utf8.encode s).length
  | _, set s, t => growSet direction s.ranges t
  | _, assert _, t => t + .ofStates 1
  | _, seq x y, t =>
    match direction with
    | .forward => y.grow direction 0 (x.grow direction 0 t + x.linkOn direction)
    | .backward => x.grow direction 0 (y.grow direction 0 t + y.linkOn direction)
  | earlier, alt x y, t =>
    match wholeLiterals? earlier (alt x y) with
    | some literals => t + treeTally direction literals
    | none =>
      let t := x.grow direction 0 t + x.linkOn direction + .ofLinks 1 + opening earlier
      if y.isChoice then y.grow direction (earlier + 1) t
      else y.grow direction 0 t + y.linkOn direction + .ofLinks 1 + opening (earlier + 1)
  | _, rounds least most _ x, t =>
    growRounds (x.grow direction 0) (x.linkOn direction) x.surelyConsumes least most t
  | _, group _ x, t =>
    match direction with
    | .forward => x.grow direction 0 (t + .ofStates 1) + x.linkOn direction + .ofStates 1
    | .backward => x.grow direction 0 t

/-! ### No more is added -/

/-- How many rounds of a repetition are written out. -/
def roundCount (least : Nat) (most : Option Nat) : Nat := max least (most.getD 1)

/-- What the automaton of an expression consists of at most, if nothing is shared. -/
def bound (direction : Direction) : Nat → Expr → Tally
  | _, empty => .ofStates 1
  | _, literal s => .ofStates (Utf8.encode s).length
  | _, set s => setBound s.ranges
  | _, assert _ => .ofStates 1
  | _, seq x y => x.bound direction 0 + .ofLinks 1 + y.bound direction 0
  | earlier, alt x y =>
    match wholeLiterals? earlier (alt x y) with
    | some literals => treeTally direction literals
    | none =>
      x.bound direction 0 + ⟨2, 0, 2⟩ +
        if y.isChoice then y.bound direction (earlier + 1)
        else y.bound direction 0 + ⟨2, 0, 2⟩
  | _, rounds least most _ x =>
    Tally.times (roundCount least most) (x.bound direction 0 + ⟨1, 0, 3⟩) + ⟨3, 0, 4⟩
  | _, group _ x => x.bound direction 0 + ⟨2, 0, 1⟩

theorem linkOn_le (direction : Direction) (x : Expr) : x.linkOn direction ≤ .ofLinks 1 := by
  rw [linkOn]
  split
  · exact Tally.le_refl _
  · exact ⟨Nat.le_refl _, Nat.le_refl _, Nat.zero_le _⟩

theorem opening_le (earlier : Nat) : opening earlier ≤ .ofStates 2 := by
  rw [opening]
  split
  · exact Tally.le_refl _
  · exact ⟨Nat.zero_le _, Nat.le_refl _, Nat.le_refl _⟩

theorem growTimes_le {round : Tally → Tally} {part link : Tally} (h : ∀ t, round t ≤ t + part)
    (hlink : link ≤ .ofLinks 1) (count : Nat) (t : Tally) :
    growTimes round link count t ≤ t + (Tally.times count (part + .ofLinks 1) + .ofStates 1) := by
  cases count with
  | zero =>
    exact Tally.add_le_add (Tally.le_refl t) (Tally.add_comm _ _ ▸ Tally.le_add _ _)
  | succ count =>
    have hstep : ∀ u, round (u + link) ≤ u + (part + .ofLinks 1) := fun u => by
      rw [Tally.add_comm part, ← Tally.add_assoc]
      exact Tally.le_trans (h _)
        (Tally.add_le_add (Tally.add_le_add (Tally.le_refl u) hlink) (Tally.le_refl _))
    rw [growTimes, Tally.times_succ, Tally.add_comm _ (part + .ofLinks 1), Tally.add_assoc]
    refine Tally.le_trans (Tally.repeated_le hstep count _) ?_
    rw [← Tally.add_assoc]
    refine Tally.add_le_add (Tally.le_trans (h t) ?_) (Tally.le_add _ _)
    exact Tally.add_le_add (Tally.le_refl t) (Tally.le_add _ _)

theorem growRounds_le {round : Tally → Tally} {part link : Tally} (h : ∀ t, round t ≤ t + part)
    (hlink : link ≤ .ofLinks 1) (consumes : Bool) (least : Nat) (most : Option Nat) (t : Tally) :
    growRounds round link consumes least most t ≤
      t + (Tally.times (roundCount least most) (part + ⟨1, 0, 3⟩) + ⟨3, 0, 4⟩) := by
  have hpart : part + .ofLinks 1 ≤ part + ⟨1, 0, 3⟩ :=
    Tally.add_le_add (Tally.le_refl _) (by decide)
  have hfirst : ∀ count ≤ roundCount least most, growTimes round link count t ≤
      t + (Tally.times (roundCount least most) (part + ⟨1, 0, 3⟩) + .ofStates 1) := by
    intro count hcount
    exact Tally.le_trans (growTimes_le h hlink count t) (Tally.add_le_add (Tally.le_refl t)
      (Tally.add_le_add (Tally.times_le_times hcount hpart) (Tally.le_refl _)))
  have hone : 1 ≤ roundCount least most →
      part + ⟨1, 0, 3⟩ ≤ Tally.times (roundCount least most) (part + ⟨1, 0, 3⟩) := fun hcount =>
    Tally.le_times hcount _
  fun_cases growRounds round link consumes least most t
  · have hbound := hone (Nat.le_max_right 0 1)
    have hround := h (t + .ofStates 1)
    grind
  · have hbound := hone (Nat.le_max_right 0 1)
    have hround := h t
    grind
  · rename_i least
    have hbound := hfirst (least + 1) (Nat.le_max_left _ _)
    grind
  · have hbound := hfirst _ (Nat.le_max_left _ _)
    grind
  · rename_i most _ hbounds
    have hbound := hone (hbounds.2 ▸ Nat.le_max_right least 1)
    have hround := h (t + .ofStates 1)
    grind
  · rename_i most _ _
    have hstep : ∀ u, round (u + ⟨1, 0, 2⟩) + link ≤ u + (part + ⟨1, 0, 3⟩) := fun u => by
      have hround := h (u + ⟨1, 0, 2⟩)
      grind
    have hfirst := growTimes_le h hlink least t
    have hbound := Tally.times_le_times (Nat.le_refl least) hpart
    have hmax : roundCount least (some most) = least + (most - least) := by
      simp only [roundCount, Option.getD_some]
      omega
    have hlead : (if least = 0 then Tally.nothing else link) ≤ .ofLinks 1 := by
      split
      · exact ⟨Nat.le_refl _, Nat.le_refl _, Nat.zero_le _⟩
      · exact hlink
    refine Tally.le_trans (Tally.repeated_le hstep (most - least) _) ?_
    rw [hmax, Tally.times_add]
    grind

/-- **No more is added than the bound of the expression.** -/
theorem grow_le (direction : Direction) (earlier : Nat) (x : Expr) (t : Tally) :
    x.grow direction earlier t ≤ t + x.bound direction earlier := by
  induction x generalizing earlier t with
  | empty => exact Tally.le_refl _
  | literal s => exact Tally.le_refl _
  | set s => exact growSet_le _ _ _
  | assert a => exact Tally.le_refl _
  | seq x y ihx ihy =>
    have hx := ihx 0
    have hy := ihy 0
    have hlinkx := x.linkOn_le direction
    have hlinky := y.linkOn_le direction
    cases direction with
    | forward =>
      have hx := hx t
      have hy := hy (x.grow .forward 0 t + x.linkOn .forward)
      simp only [grow, bound]
      grind
    | backward =>
      have hy := hy t
      have hx := hx (y.grow .backward 0 t + y.linkOn .backward)
      simp only [grow, bound]
      grind
  | alt x y ihx ihy =>
    have hx := ihx 0 t
    have hlinkx := x.linkOn_le direction
    have hlinky := y.linkOn_le direction
    have hopening := opening_le earlier
    have hnext := opening_le (earlier + 1)
    rw [grow, bound]
    split
    · exact Tally.le_refl _
    · split
      · have hy := ihy (earlier + 1)
          (x.grow direction 0 t + x.linkOn direction + .ofLinks 1 + opening earlier)
        grind
      · have hy := ihy 0
          (x.grow direction 0 t + x.linkOn direction + .ofLinks 1 + opening earlier)
        grind
  | rounds least most greedy x ih =>
    exact growRounds_le (ih 0) (x.linkOn_le direction) _ _ _ _
  | group index x ih =>
    have hx := ih 0
    have hlinkx := x.linkOn_le direction
    cases direction with
    | forward =>
      have hx := hx (t + .ofStates 1)
      simp only [grow, bound]
      grind
    | backward =>
      exact Tally.le_trans (hx t) (Tally.add_le_add (Tally.le_refl t) (Tally.le_add _ _))

/-! ### Whole automata -/

/-- The states in front of an automaton: one if it has its place in the text, and otherwise a
junction that leads past any bytes to it. -/
def lead (isFixed : Bool) : Tally := if isFixed then .ofStates 1 else ⟨3, 1, 2⟩

/-- The whole automaton of an expression.  Forward, the match is captured. -/
def automaton (direction : Direction) (x : Expr) : Tally :=
  match direction with
  | .forward => (group 0 x).grow .forward 0 (lead x.beginsAtStart) + .ofStates 1
  | .backward => x.grow .backward 0 (lead x.endsAtEnd) + x.linkOn .backward + .ofStates 1

/-- The bound of the whole automaton of an expression. -/
def automatonBound (direction : Direction) (x : Expr) : Tally :=
  x.bound direction 0 + ⟨6, 1, 3⟩

theorem automaton_le (direction : Direction) (x : Expr) :
    x.automaton direction ≤ x.automatonBound direction := by
  have hlead : ∀ isFixed, lead isFixed ≤ ⟨3, 1, 2⟩ := by decide
  have hlink := x.linkOn_le direction
  cases direction with
  | forward =>
    have hbegin := hlead x.beginsAtStart
    have hgrow := x.grow_le .forward 0 (lead x.beginsAtStart + .ofStates 1)
    simp only [automaton, automatonBound, grow]
    grind
  | backward =>
    have hend := hlead x.endsAtEnd
    have hgrow := x.grow_le .backward 0 (lead x.endsAtEnd)
    simp only [automaton, automatonBound]
    grind

/-- The automaton is small enough, which its bound may show. -/
def isSmall (direction : Direction) (x : Expr) : Bool :=
  !(x.automatonBound direction).isTooLarge || !(x.automaton direction).isTooLarge

theorem isSmall_iff (direction : Direction) (x : Expr) :
    x.isSmall direction = true ↔ (x.automaton direction).size ≤ Tally.sizeLimit := by
  have hbound := Tally.size_le_size (x.automaton_le direction)
  simp only [isSmall, Tally.isTooLarge, Bool.or_eq_true, Bool.not_eq_true',
    decide_eq_false_iff_not, Nat.not_lt]
  omega

/-- Neither automaton is too large. -/
def IsAcceptable (x : Expr) : Prop :=
  ∀ direction, (x.automaton direction).size ≤ Tally.sizeLimit

/-- **An expression is acceptable exactly when both automata are small enough**, as their bounds
may show without building them. -/
theorem isAcceptable_iff (x : Expr) :
    x.IsAcceptable ↔ x.isSmall .forward = true ∧ x.isSmall .backward = true := by
  simp only [IsAcceptable, isSmall_iff]
  exact ⟨fun h => ⟨h .forward, h .backward⟩,
    fun h direction => by cases direction <;> simp only [h]⟩

instance (x : Expr) : Decidable x.IsAcceptable := decidable_of_iff' _ x.isAcceptable_iff

end Deobfuscation.Regex.Expr
