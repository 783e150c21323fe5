import Mathlib.Logic.Relation
import Deobfuscation.Proofs.Regex.First
import Deobfuscation.Regex.Composition

/-!
# The groups of an expression

A walk remembers what it captures and forgets nothing, so a way through an expression has all that
was captured before, and besides only captures of the groups of the expression.  Of the branches of
a choice a way goes through one, so groups of different branches are never captured together.

* `Expr.groups` — the groups of an expression;
* `Attempt.Adds` — a walk has captured some groups more than another;
* `Expr.adds_ways` — **proved**, one case for each constructor: every way adds captures of the
  groups of the expression;
* `Attempt.Adds.captured?_eq` — **proved**: what other groups have captured stays;
* `Expr.certain`, `Expr.isSome_captured?_ways` — the groups that every way captures, and
  **proved**: every way does capture them;
* `Expr.exists_branch` — **proved**: a way through a choice goes through one of its branches;
* `Expr.find_anchored` — **proved**: what an expression finds that begins where the text does.
-/

namespace Deobfuscation.Regex

/-! ### Rounds as chains -/

/-- Exactly so many rounds are a chain of rounds. -/
theorem reflTransGen_of_mem_times {body : Ways} (count : Nat) :
    ∀ {a b : Attempt}, b ∈ times body count a →
      Relation.ReflTransGen (fun a b => b ∈ body a) a b := by
  induction count with
  | zero =>
    intro a b hb
    rw [times, List.mem_singleton] at hb
    exact hb ▸ .refl
  | succ count ih =>
    intro a b hb
    obtain ⟨c, hc, hbc⟩ := List.mem_flatMap.1 hb
    exact .head hc (ih hbc)

/-- At most so many rounds are a chain of rounds. -/
theorem reflTransGen_of_mem_upTo {body : Ways} {greedy : Bool} (count : Nat) :
    ∀ {a b : Attempt}, b ∈ upTo body greedy count a →
      Relation.ReflTransGen (fun a b => b ∈ body a) a b := by
  induction count with
  | zero =>
    intro a b hb
    rw [upTo, List.mem_singleton] at hb
    exact hb ▸ .refl
  | succ count ih =>
    intro a b hb
    have hcases : b = a ∨ b ∈ (body a).flatMap (upTo body greedy count) := by
      rw [upTo] at hb
      cases greedy with
      | true => exact (List.mem_append.1 hb).symm.imp_left List.mem_singleton.1
      | false => exact List.mem_cons.1 hb
    rcases hcases with rfl | hround
    · exact .refl
    · obtain ⟨c, hc, hbc⟩ := List.mem_flatMap.1 hround
      exact .head hc (ih hbc)

/-- **Repeated rounds are a chain of rounds**, however many of them there are. -/
theorem Expr.reflTransGen_of_mem_rounds {least : Nat} {most : Option Nat} {greedy : Bool} {x : Expr}
    {a b : Attempt} (hb : b ∈ (rounds least most greedy x).ways a) :
    Relation.ReflTransGen (fun a b => b ∈ x.ways a) a b := by
  cases most with
  | none =>
    obtain ⟨c, hc, hbc⟩ := List.mem_flatMap.1 hb
    exact (reflTransGen_of_mem_times least hc).trans (reflTransGen_of_mem_upTo _ hbc)
  | some most =>
    obtain ⟨c, hc, hbc⟩ := List.mem_flatMap.1 hb
    exact (reflTransGen_of_mem_times least hc).trans (reflTransGen_of_mem_upTo _ hbc)

/-- Where a round is required, there is a first one, and the others are a chain. -/
theorem Expr.exists_round_of_mem_rounds {least : Nat} {most : Option Nat} {greedy : Bool} {x : Expr}
    {a b : Attempt} (hleast : least ≠ 0) (hb : b ∈ (rounds least most greedy x).ways a) :
    ∃ c ∈ x.ways a, Relation.ReflTransGen (fun a b => b ∈ x.ways a) c b := by
  obtain ⟨least, rfl⟩ := Nat.exists_eq_succ_of_ne_zero hleast
  have hfirst : ∀ {d : Attempt}, d ∈ times x.ways (least + 1) a →
      Relation.ReflTransGen (fun a b => b ∈ x.ways a) d b →
        ∃ c ∈ x.ways a, Relation.ReflTransGen (fun a b => b ∈ x.ways a) c b := by
    intro d hd hdb
    obtain ⟨c, hc, hcd⟩ := List.mem_flatMap.1 hd
    exact ⟨c, hc, (reflTransGen_of_mem_times least hcd).trans hdb⟩
  cases most with
  | none =>
    obtain ⟨d, hd, hdb⟩ := List.mem_flatMap.1 hb
    exact hfirst hd (reflTransGen_of_mem_upTo _ hdb)
  | some most =>
    obtain ⟨d, hd, hdb⟩ := List.mem_flatMap.1 hb
    exact hfirst hd (reflTransGen_of_mem_upTo _ hdb)

/-! ### What is captured -/

namespace Expr

/-- The groups of an expression. -/
def groups : Expr → List Nat
  | empty | literal _ | set _ | assert _ => []
  | seq x y | alt x y => x.groups ++ y.groups
  | rounds _ _ _ x => x.groups
  | group index x => index :: x.groups

/-- The groups that an expression captures on every way through it. -/
def certain : Expr → List Nat
  | empty | literal _ | set _ | assert _ => []
  | seq x y => x.certain ++ y.certain
  | alt x y => x.certain.filter (· ∈ y.certain)
  | rounds least _ _ x => if least = 0 then [] else x.certain
  | group index x => index :: x.certain

end Expr

namespace Attempt

/-- A walk has captured what another has, and then some of the groups more. -/
def Adds (groups : List Nat) (a b : Attempt) : Prop :=
  ∃ new, b.captures = new ++ a.captures ∧ ∀ capture ∈ new, capture.group ∈ groups

namespace Adds

variable {groups : List Nat} {a b c : Attempt}

theorem of_eq (h : b.captures = a.captures) : a.Adds groups b := ⟨[], h, by simp⟩

theorem trans (hab : a.Adds groups b) (hbc : b.Adds groups c) : a.Adds groups c := by
  obtain ⟨first, hfirst, hgroups⟩ := hab
  obtain ⟨second, hsecond, hgroups'⟩ := hbc
  refine ⟨second ++ first, by rw [hsecond, hfirst, List.append_assoc], ?_⟩
  exact List.forall_mem_append.2 ⟨hgroups', hgroups⟩

theorem capture (h : a.Adds groups b) {index : Nat} (hindex : index ∈ groups) (start : Nat) :
    a.Adds groups (b.capture index start) := by
  obtain ⟨new, hnew, hgroups⟩ := h
  refine ⟨⟨index, start, b.cursor.position⟩ :: new, ?_, List.forall_mem_cons.2 ⟨hindex, hgroups⟩⟩
  rw [List.cons_append, ← hnew]
  rfl

/-- A chain of rounds adds captures as each of them does. -/
theorem of_chain {body : Ways} (hbody : ∀ a, ∀ b ∈ body a, a.Adds groups b)
    (h : Relation.ReflTransGen (fun a b => b ∈ body a) a b) : a.Adds groups b := by
  induction h with
  | refl => exact .of_eq rfl
  | tail _ hround hbefore => exact hbefore.trans (hbody _ _ hround)

/-- **What other groups have captured stays.** -/
theorem captured?_eq (h : a.Adds groups b) {group : Nat} (hgroup : group ∉ groups) :
    captured? b.captures group = captured? a.captures group := by
  obtain ⟨new, hnew, hgroups⟩ := h
  have hnone : new.find? (fun capture => capture.group == group) = none := by
    rw [List.find?_eq_none]
    intro capture hmem hequal
    exact hgroup (beq_iff_eq.1 hequal ▸ hgroups capture hmem)
  rw [captured?, captured?, hnew, List.find?_append, hnone, Option.none_or]

/-- What has been captured is not forgotten. -/
theorem isSome_captured? (h : a.Adds groups b) {group : Nat}
    (ha : (captured? a.captures group).isSome = true) :
    (captured? b.captures group).isSome = true := by
  obtain ⟨new, hnew, -⟩ := h
  rw [captured?, Option.isSome_map] at ha ⊢
  rw [hnew, List.find?_append, Option.isSome_or, ha, Bool.or_true]

end Adds

/-- A group that has just been captured is. -/
theorem isSome_captured?_capture (a : Attempt) (index start : Nat) :
    (captured? (a.capture index start).captures index).isSome = true := by
  rw [captured?, Option.isSome_map]
  exact List.find?_isSome.2 ⟨_, List.mem_cons_self, beq_self_eq_true _⟩

@[simp] theorem captures_eat (s : List Char) : ∀ a : Attempt, (a.eat s).captures = a.captures := by
  induction s with
  | nil => exact fun a => rfl
  | cons c s ih => exact fun a => ih _

end Attempt

namespace Expr

/-- One character of a set adds no capture. -/
theorem captures_of_mem_setWays {s : CharSet} {a b : Attempt} (hb : b ∈ setWays s a) :
    b.captures = a.captures := by
  rcases setWays_cases s a with hstop | ⟨c, rest, -, -, hways⟩
  · exact absurd (hstop ▸ hb) List.not_mem_nil
  · rw [hways, List.mem_singleton] at hb
    exact hb ▸ rfl

/-- **Every way through an expression adds captures of its groups and nothing else.** -/
theorem adds_ways {groups : List Nat} (x : Expr) :
    x.groups ⊆ groups → ∀ a, ∀ b ∈ x.ways a, a.Adds groups b := by
  induction x with
  | empty =>
    intro _ a b hb
    rw [ways, List.mem_singleton] at hb
    exact .of_eq (hb ▸ rfl)
  | literal s =>
    intro _ a b hb
    rw [ways] at hb
    split at hb
    · rw [List.mem_singleton] at hb
      exact .of_eq (hb ▸ Attempt.captures_eat s a)
    · exact absurd hb List.not_mem_nil
  | set s => exact fun _ a b hb => .of_eq (captures_of_mem_setWays hb)
  | assert p =>
    intro _ a b hb
    rw [ways] at hb
    split at hb
    · rw [List.mem_singleton] at hb
      exact .of_eq (hb ▸ rfl)
    · exact absurd hb List.not_mem_nil
  | seq x y ihx ihy =>
    intro h a b hb
    rw [Expr.groups, List.append_subset] at h
    obtain ⟨c, hc, hbc⟩ := List.mem_flatMap.1 hb
    exact (ihx h.1 a c hc).trans (ihy h.2 c b hbc)
  | alt x y ihx ihy =>
    intro h a b hb
    rw [Expr.groups, List.append_subset] at h
    rcases List.mem_append.1 hb with hx | hy
    · exact ihx h.1 a b hx
    · exact ihy h.2 a b hy
  | rounds least most greedy x ih =>
    intro h a b hb
    exact .of_chain (ih h) (reflTransGen_of_mem_rounds hb)
  | group index x ih =>
    intro h a b hb
    rw [Expr.groups, List.cons_subset] at h
    obtain ⟨c, hc, rfl⟩ := List.mem_map.1 hb
    exact (ih h.2 a c hc).capture h.1 a.cursor.position

/-- **Every way through an expression captures its certain groups.** -/
theorem isSome_captured?_ways (x : Expr) : ∀ a, ∀ b ∈ x.ways a, ∀ group ∈ x.certain,
    (captured? b.captures group).isSome = true := by
  induction x with
  | seq x y ihx ihy =>
    intro a b hb group hgroup
    obtain ⟨c, hc, hbc⟩ := List.mem_flatMap.1 hb
    rcases List.mem_append.1 hgroup with hx | hy
    · exact (y.adds_ways (List.Subset.refl _) c b hbc).isSome_captured? (ihx a c hc group hx)
    · exact ihy c b hbc group hy
  | alt x y ihx ihy =>
    intro a b hb group hgroup
    obtain ⟨hx, hy⟩ := List.mem_filter.1 hgroup
    rcases List.mem_append.1 hb with hway | hway
    · exact ihx a b hway group hx
    · exact ihy a b hway group (of_decide_eq_true hy)
  | rounds least most greedy x ih =>
    intro a b hb group hgroup
    rw [certain] at hgroup
    split at hgroup
    · exact absurd hgroup List.not_mem_nil
    · rename_i hleast
      obtain ⟨c, hc, hchain⟩ := exists_round_of_mem_rounds hleast hb
      have hadds := Attempt.Adds.of_chain (x.adds_ways (List.Subset.refl _)) hchain
      exact hadds.isSome_captured? (ih a c hc group hgroup)
  | group index x ih =>
    intro a b hb group hgroup
    obtain ⟨c, hc, rfl⟩ := List.mem_map.1 hb
    rcases List.mem_cons.1 hgroup with rfl | hx
    · exact c.isSome_captured?_capture group a.cursor.position
    · have hadds : c.Adds [index] (c.capture index a.cursor.position) :=
        .capture (.of_eq rfl) List.mem_cons_self _
      exact hadds.isSome_captured? (ih a c hc group hx)
  | _ => exact fun _ _ _ _ hgroup => absurd hgroup List.not_mem_nil

/-- **A way through a choice goes through one of its branches.** -/
theorem exists_branch {x : Expr} {a b : Attempt} (hb : b ∈ x.ways a) :
    ∃ y ∈ x.branches, b ∈ y.ways a := by
  induction x with
  | alt x y ihx ihy =>
    rcases List.mem_append.1 hb with hx | hy
    · obtain ⟨z, hz, hway⟩ := ihx hx
      exact ⟨z, List.mem_append_left _ hz, hway⟩
    · obtain ⟨z, hz, hway⟩ := ihy hy
      exact ⟨z, List.mem_append_right _ hz, hway⟩
  | _ => exact ⟨_, List.mem_singleton_self _, hb⟩

/-! ### Where the text begins -/

/-- No place that a walk can begin from is the beginning of the text but the first. -/
theorem before_of_mem_startsFrom (rest : List Char) :
    ∀ cursor : Cursor, cursor.before.isSome = true →
      ∀ a ∈ startsFrom rest cursor, a.cursor.before.isSome = true := by
  induction rest with
  | nil =>
    intro cursor h a ha
    rw [startsFrom, List.mem_singleton] at ha
    exact ha ▸ h
  | cons c rest ih =>
    intro cursor h a ha
    rw [startsFrom, List.mem_cons] at ha
    rcases ha with rfl | hlater
    · exact h
    · exact ih (cursor.advance c rest) rfl a hlater

/-- **What begins where the text does is found there or not at all.** -/
theorem find_anchored {x : Expr} (hx : (seq (assert .textStart) x).isProductive = true)
    (text : List Char) :
    (Plan.ofExpr (seq (assert .textStart) x)).find text =
      (x.first some (.between [] text [])).map Attempt.captures := by
  have hlater : ∀ {a : Attempt}, a.cursor.before.isSome = true →
      (seq (assert .textStart) x).ways a = [] := by
    intro a ha
    obtain ⟨c, hc⟩ := Option.isSome_iff_exists.1 ha
    simp [ways, Assertion.holds, hc]
  have hfirst : (seq (assert .textStart) x).ways (.between [] text []) =
      x.ways (.between [] text []) := by
    simp [ways, Assertion.holds, Attempt.between]
  have hall : (starts text).flatMap (seq (assert .textStart) x).ways =
      x.ways (.between [] text []) := by
    cases text with
    | nil =>
      rw [← hfirst]
      exact List.flatMap_singleton _ _
    | cons c text =>
      have hrest : (startsFrom text (Cursor.advance (.start (c :: text)) c text)).flatMap
          (seq (assert .textStart) x).ways = [] := by
        rw [List.flatMap_eq_nil_iff]
        exact fun a ha => hlater (before_of_mem_startsFrom text _ rfl a ha)
      rw [← hfirst]
      show (_ :: startsFrom text _).flatMap _ = _
      rw [List.flatMap_cons, hrest, List.append_nil]
      rfl
  rw [find_ofExpr hx, hall, first]
  cases x.ways (.between [] text []) with
  | nil => rfl
  | cons b bs => rfl

end Expr

end Deobfuscation.Regex
