import Deobfuscation.Proofs.Regex.FirstWay

/-!
# Planning keeps the ways

The plan of an expression has the same ways as the expression, in the same order of preference.
Where no unlimited repetition repeats something that may consume nothing, the plan is tame and
its junctions have numbers of their own, so the search finds the first way of the expression.

* `Expr.isProductive` — the expressions this is proved of;
* `Plans` — a numbered plan has given ways, is tame, and takes its junctions from the numbers it
  uses up;
* `plans_literal`, `Plans.prependCopies`, `Plans.nestOptions`, … — **proved**: each step of the
  planning keeps the ways;
* `Expr.plans_number` — **proved**, one case for each constructor;
* `Expr.find_ofExpr` — **proved**: what is found in a text are the captures of the first way.
-/

namespace Deobfuscation.Regex

/-- Every unlimited repetition repeats something that consumes a character. -/
def Expr.isProductive : Expr → Bool
  | empty | literal _ | set _ | assert _ => true
  | seq x y => x.isProductive && y.isProductive
  | alt x y => x.isProductive && y.isProductive
  | rounds _ most _ x => (most.isSome || !x.isNullable) && x.isProductive
  | group _ x => x.isProductive

/-! ### Numbers -/

/-- Different numbers between two bounds. -/
structure Fresh (low high : Nat) (numbers : List Nat) : Prop where
  le : low ≤ high
  within : ∀ n ∈ numbers, low ≤ n ∧ n < high
  nodup : numbers.Nodup

namespace Fresh

variable {low mid high : Nat} {xs ys : List Nat}

theorem nil (low : Nat) : Fresh low low [] := ⟨Nat.le_refl _, by simp, List.nodup_nil⟩

theorem one (n : Nat) : Fresh n (n + 1) [n] :=
  ⟨Nat.le_succ _, by simp, List.nodup_singleton n⟩

theorem append (hx : Fresh low mid xs) (hy : Fresh mid high ys) : Fresh low high (xs ++ ys) := by
  refine ⟨Nat.le_trans hx.le hy.le, ?_, ?_⟩
  · intro n hn
    have hle := hx.le
    have hle' := hy.le
    rcases List.mem_append.1 hn with h | h
    · have := hx.within n h
      omega
    · have := hy.within n h
      omega
  · rw [List.nodup_append']
    refine ⟨hx.nodup, hy.nodup, ?_⟩
    intro n hn hn'
    have := hx.within n hn
    have := hy.within n hn'
    omega

theorem append_swap (hx : Fresh low mid xs) (hy : Fresh mid high ys) :
    Fresh low high (ys ++ xs) := by
  have h := hx.append hy
  refine ⟨h.le, fun n hn => h.within n ?_, ?_⟩
  · rw [List.mem_append] at hn ⊢
    exact hn.symm
  · exact List.nodup_append_comm.1 h.nodup

theorem cons (hx : Fresh (low + 1) high xs) : Fresh low high (low :: xs) := (one low).append hx

end Fresh

/-! ### Steps of the planning -/

/-- A numbered plan has given ways, is tame, and takes the numbers of its junctions from those
that it uses up. -/
structure Plans (ways : Ways) (plan : Plan.Numbered) : Prop where
  ways_eq : ∀ n, (plan n).1.ways = ways
  tame : ∀ n, (plan n).1.Tame
  fresh : ∀ n, Fresh n (plan n).2 (plan n).1.junctions

theorem setWays_only (c : Char) (a : Attempt) :
    setWays (.only c) a = if [c].isPrefixOf a.cursor.rest then [a.eat [c]] else [] := by
  rcases setWays_cases (.only c) a with hstop | ⟨d, rest, hrest, hd, hgrow⟩
  · cases hrest : a.cursor.rest with
    | nil => simp [hstop]
    | cons d rest =>
      have hne := not_contains_of_stop hstop hrest
      have : ¬ c = d := by
        rintro rfl
        have := (CharSet.contains_only c c).2 rfl
        rw [hne] at this
        simp at this
      simp [hstop, this]
  · rw [CharSet.contains_only] at hd
    subst hd
    rw [hgrow, hrest, Attempt.consume_eq_eat hrest]
    simp

theorem Plan.ways_literal (s : List Char) (a : Attempt) :
    (literal s).ways a = if s.isPrefixOf a.cursor.rest then [a.eat s] else [] := by
  induction s generalizing a with
  | nil => simp [literal, ways]
  | cons c s ih =>
    cases s with
    | nil => exact setWays_only c a
    | cons d s =>
      show (setWays (.only c) a).flatMap (literal (d :: s)).ways = _
      rw [setWays_only]
      cases hrest : a.cursor.rest with
      | nil => simp
      | cons e rest =>
        by_cases hc : c = e
        · subst hc
          have first : [c].isPrefixOf (c :: rest) = true := by simp
          rw [if_pos first, List.flatMap_singleton, ih]
          simp [hrest, Attempt.eat_cons, Cursor.advance]
        · simp [hc]

theorem plans_literal (s : List Char) :
    Plans (Expr.literal s).ways fun n => (Plan.literal s, n) where
  ways_eq n := by
    funext a
    rw [Plan.ways_literal, Expr.ways]
  tame n := by
    induction s with
    | nil => trivial
    | cons c s ih =>
      cases s with
      | nil => trivial
      | cons d s => exact ⟨trivial, ih⟩
  fresh n := by
    have none : (Plan.literal s).junctions = [] := by
      induction s with
      | nil => rfl
      | cons c s ih =>
        cases s with
        | nil => rfl
        | cons d s => simpa [Plan.literal, Plan.junctions] using ih
    show Fresh n n (Plan.literal s).junctions
    rw [none]
    exact .nil n

theorem times_succ (body : Ways) (count : Nat) (a : Attempt) :
    times body (count + 1) a = (times body count a).flatMap body := by
  induction count generalizing a with
  | zero => simp [times]
  | succ count ih =>
    rw [times, times, List.flatMap_assoc]
    exact List.flatMap_congr fun b _ => ih b

theorem Plans.prependCopies {ways : Ways} {plan : Plan.Numbered} (h : Plans ways plan)
    (count : Nat) : ∀ (rest : Plan) (low next : Nat), rest.Tame → Fresh low next rest.junctions →
      (Plan.prependCopies plan count rest next).1.ways =
          (fun a => (times ways count a).flatMap rest.ways) ∧
        (Plan.prependCopies plan count rest next).1.Tame ∧
        Fresh low (Plan.prependCopies plan count rest next).2
          (Plan.prependCopies plan count rest next).1.junctions := by
  induction count with
  | zero =>
    intro rest low next htame hfresh
    refine ⟨?_, htame, hfresh⟩
    funext a
    simp [times, Plan.prependCopies]
  | succ count ih =>
    intro rest low next htame hfresh
    obtain ⟨hways, htame', hfresh'⟩ := ih (.seq (plan next).1 rest) low (plan next).2
      ⟨h.tame next, htame⟩ (hfresh.append_swap (h.fresh next))
    refine ⟨?_, htame', hfresh'⟩
    show (Plan.prependCopies plan count (.seq (plan next).1 rest) (plan next).2).1.ways = _
    rw [hways]
    funext a
    rw [times_succ, List.flatMap_assoc]
    refine List.flatMap_congr fun b _ => ?_
    rw [Plan.ways, h.ways_eq]

theorem ways_branch (n : Nat) (greedy : Bool) (x : Plan) (a : Attempt) :
    (Plan.branch ⟨n, false⟩ greedy x .empty).ways a =
      if greedy then x.ways a ++ [a] else a :: x.ways a := by
  cases greedy <;> simp [Plan.branch, Plan.ways]

theorem tame_branch (n : Nat) (greedy : Bool) {x : Plan} (hx : x.Tame) :
    (Plan.branch ⟨n, false⟩ greedy x .empty).Tame := by
  cases greedy with
  | true => exact ⟨rfl, hx, trivial⟩
  | false => exact ⟨rfl, trivial, hx⟩

theorem junctions_branch (n : Nat) (greedy : Bool) (x : Plan) :
    (Plan.branch ⟨n, false⟩ greedy x .empty).junctions = n :: x.junctions := by
  cases greedy <;> simp [Plan.branch, Plan.junctions]

theorem Plans.nestOptions {ways : Ways} {plan : Plan.Numbered} (h : Plans ways plan)
    (greedy : Bool) (count : Nat) : ∀ (inner : Plan) (depth low next : Nat),
      inner.ways = upTo ways greedy depth → inner.Tame → Fresh low next inner.junctions →
      (Plan.nestOptions plan false greedy count inner next).1.ways =
          upTo ways greedy (depth + count) ∧
        (Plan.nestOptions plan false greedy count inner next).1.Tame ∧
        Fresh low (Plan.nestOptions plan false greedy count inner next).2
          (Plan.nestOptions plan false greedy count inner next).1.junctions := by
  induction count with
  | zero => exact fun inner depth low next hways htame hfresh => ⟨hways, htame, hfresh⟩
  | succ count ih =>
    intro inner depth low next hways htame hfresh
    have hcopy : (Plan.seq (plan (next + 1)).1 inner).Tame := ⟨h.tame (next + 1), htame⟩
    have hdeeper : (Plan.branch ⟨next, false⟩ greedy (.seq (plan (next + 1)).1 inner) .empty).ways =
        upTo ways greedy (depth + 1) := by
      funext a
      rw [ways_branch, upTo, Plan.ways, h.ways_eq, hways]
    have hfresh' : Fresh low (plan (next + 1)).2
        (Plan.branch ⟨next, false⟩ greedy (.seq (plan (next + 1)).1 inner) .empty).junctions := by
      rw [junctions_branch]
      exact hfresh.append_swap (h.fresh (next + 1)).cons
    have := ih _ (depth + 1) low (plan (next + 1)).2 hdeeper (tame_branch next greedy hcopy) hfresh'
    rw [show depth + 1 + count = depth + (count + 1) by omega] at this
    exact this

/-! ### Repetitions -/

theorem ways_of_oneOf {x : Expr} {s : CharSet} (h : Plan.oneOf? x = some s) :
    x.ways = setWays s := by
  unfold Plan.oneOf? at h
  split at h
  · rename_i t
    rw [Option.some.injEq] at h
    subst h
    rfl
  · rename_i c
    rw [Option.some.injEq] at h
    subst h
    funext a
    rw [setWays_only]
    rfl
  · simp at h

theorem Plans.zeroOrMore {x : Expr} {plan : Plan.Numbered} (h : Plans x.ways plan)
    (hx : x.isNullable = false) (greedy : Bool) :
    Plans (unlimited x.ways greedy) (Plan.zeroOrMore x plan false greedy) := by
  unfold Plan.zeroOrMore
  split
  · rename_i s hs
    rw [ways_of_oneOf hs]
    exact ⟨fun n => rfl, fun n => rfl, fun n => .one n⟩
  · refine ⟨fun n => ?_, fun n => ?_, fun n => (h.fresh (n + 1)).cons⟩
    · show unlimited (plan (n + 1)).1.ways greedy = _
      rw [h.ways_eq]
    · refine ⟨rfl, ?_, h.tame (n + 1)⟩
      rw [h.ways_eq]
      exact Expr.consuming_ways hx

theorem Plans.onceOrMore {x : Expr} {plan : Plan.Numbered} (h : Plans x.ways plan)
    (hx : x.isNullable = false) (greedy : Bool) :
    Plans (fun a => (x.ways a).flatMap (unlimited x.ways greedy))
      (Plan.onceOrMore x plan false greedy) := by
  unfold Plan.onceOrMore
  split
  · rename_i s hs
    rw [ways_of_oneOf hs]
    exact ⟨fun n => rfl, fun n => ⟨trivial, rfl⟩, fun n => .one n⟩
  · refine ⟨fun n => ?_, fun n => ?_, fun n => (h.fresh (n + 1)).cons⟩
    · funext a
      show ((plan (n + 1)).1.ways a).flatMap (unlimited (plan (n + 1)).1.ways greedy) = _
      rw [h.ways_eq]
    · refine ⟨rfl, ?_, h.tame (n + 1)⟩
      rw [h.ways_eq]
      exact Expr.consuming_ways hx

theorem Plans.unbounded {x : Expr} {plan : Plan.Numbered} (h : Plans x.ways plan)
    (hx : x.isNullable = false) (greedy : Bool) (least : Nat) :
    Plans (Expr.rounds least none greedy x).ways (Plan.unbounded x plan false greedy least) := by
  cases least with
  | zero =>
    have hzero := h.zeroOrMore hx greedy
    have same : (Expr.rounds 0 none greedy x).ways = unlimited x.ways greedy := by
      funext a
      simp [Expr.ways, times]
    have planned : Plan.unbounded x plan false greedy 0 = Plan.zeroOrMore x plan false greedy := by
      funext n
      simp [Plan.unbounded, hx]
    rw [same, planned]
    exact hzero
  | succ least =>
    have honce := h.onceOrMore hx greedy
    have copies := fun n => h.prependCopies least (Plan.onceOrMore x plan false greedy n).1 n
      (Plan.onceOrMore x plan false greedy n).2 (honce.tame n) (honce.fresh n)
    refine ⟨fun n => ?_, fun n => (copies n).2.1, fun n => (copies n).2.2⟩
    refine (copies n).1.trans ?_
    funext a
    rw [honce.ways_eq, Expr.ways, times_succ, List.flatMap_assoc]

theorem Plans.bounded {x : Expr} {plan : Plan.Numbered} (h : Plans x.ways plan) (greedy : Bool)
    (least most : Nat) :
    Plans (Expr.rounds least (some most) greedy x).ways
      (Plan.bounded plan false greedy least most) := by
  have options := fun n => h.nestOptions greedy (most - least) .empty 0 n n rfl trivial (.nil n)
  have copies := fun n => h.prependCopies least
    (Plan.nestOptions plan false greedy (most - least) .empty n).1 n
    (Plan.nestOptions plan false greedy (most - least) .empty n).2 (options n).2.1 (options n).2.2
  refine ⟨fun n => ?_, fun n => (copies n).2.1, fun n => (copies n).2.2⟩
  refine (copies n).1.trans ?_
  funext a
  rw [(options n).1, Nat.zero_add, Expr.ways]

/-! ### Whole expressions -/

/-- **Planning keeps the ways of an expression.** -/
theorem Expr.plans_number {x : Expr} (hx : x.isProductive = true) :
    Plans x.ways (Plan.number x false) := by
  induction x with
  | empty => exact ⟨fun n => rfl, fun n => trivial, fun n => .nil n⟩
  | literal s => exact plans_literal s
  | set s => exact ⟨fun n => rfl, fun n => trivial, fun n => .nil n⟩
  | assert p => exact ⟨fun n => rfl, fun n => trivial, fun n => .nil n⟩
  | seq x y ihx ihy =>
    rw [isProductive, Bool.and_eq_true] at hx
    have hplanx := ihx hx.1
    have hplany := ihy hx.2
    refine ⟨fun n => ?_, fun n => ⟨hplanx.tame n, hplany.tame _⟩,
      fun n => (hplanx.fresh n).append (hplany.fresh _)⟩
    funext a
    show ((Plan.number x false n).1.ways a).flatMap (Plan.number y false _).1.ways = _
    rw [hplanx.ways_eq, hplany.ways_eq, ways]
  | alt x y ihx ihy =>
    rw [isProductive, Bool.and_eq_true] at hx
    have hplanx := ihx hx.1
    have hplany := ihy hx.2
    refine ⟨fun n => ?_, fun n => ⟨rfl, hplanx.tame _, hplany.tame _⟩,
      fun n => ((hplanx.fresh (n + 1)).append (hplany.fresh _)).cons⟩
    funext a
    show (Plan.number x false (n + 1)).1.ways a ++ (Plan.number y false _).1.ways a = _
    rw [hplanx.ways_eq, hplany.ways_eq, ways]
  | rounds least most greedy x ih =>
    rw [isProductive, Bool.and_eq_true] at hx
    cases most with
    | none =>
      have hnullable : x.isNullable = false := by simpa using hx.1
      have planned : Plan.number (rounds least none greedy x) false =
          Plan.unbounded x (Plan.number x false) false greedy least := by
        funext n
        simp [Plan.number, hnullable]
      rw [planned]
      exact (ih hx.2).unbounded hnullable greedy least
    | some most => exact (ih hx.2).bounded greedy least most
  | group index x ih =>
    have hplan := ih hx
    refine ⟨fun n => ?_, fun n => hplan.tame n, fun n => hplan.fresh n⟩
    funext a
    show ((Plan.number x false n).1.ways a).map _ = _
    rw [hplan.ways_eq, ways]

/-- **What is found in a text are the captures of the first way.** -/
theorem Expr.find_ofExpr {x : Expr} (hx : x.isProductive = true) (text : List Char) :
    (Plan.ofExpr x).find text = ((starts text).flatMap x.ways).head?.map Attempt.captures := by
  have hplan := plans_number hx
  have hfind : (Plan.ofExpr x).find text =
      ((starts text).flatMap (Plan.ofExpr x).ways).head?.map Attempt.captures :=
    Plan.find_eq (hplan.tame 0) (hplan.fresh 0).nodup text
  rw [hfind, Plan.ofExpr, hplan.ways_eq]

end Deobfuscation.Regex
