import Deobfuscation.Proofs.Regex.First
import Deobfuscation.Proofs.Regex.Language

/-!
# Plain expressions

An expression without assertions and groups is **plain**: a walk through it reads a text and does
nothing else.  So its ways are known from its language alone, up to their order: there is one past
each beginning of the rest of the text that belongs to the language, and there are no others.  Where
only one of these leads on, the order does not matter either.

* `Spells` — a body of rounds whose ways are given by a language;
* `Spells.flatMap`, `Spells.upTo`, `Spells.unlimited` — **proved**: so are repeated rounds of it;
* `Expr.spells_ways` — **proved**, one case for each constructor: so are plain expressions;
* `Expr.first_of_text` — **proved**: the only text that leads on is read;
* `Expr.excludes`, `Expr.not_mem_of_excludes` — **proved**: characters that an expression never
  reads.
-/

namespace Deobfuscation.Regex

open scoped Computability

/-! ### Bodies given by a language -/

theorem Attempt.eat_append (s t : List Char) : ∀ a : Attempt, a.eat (s ++ t) = (a.eat s).eat t := by
  induction s with
  | nil => exact fun a => rfl
  | cons c s ih => exact fun a => ih _

/-- The ways go past the beginnings of the rest of the text that belong to a language. -/
def Spells (body : Ways) (l : Language Char) : Prop :=
  ∀ a b, b ∈ body a ↔ ∃ t ∈ l, t <+: a.cursor.rest ∧ b = a.eat t

/-- Two texts after one another begin a text if the second begins what the first leaves of it. -/
theorem append_prefix_iff {s t rest : List Char} :
    s ++ t <+: rest ↔ s <+: rest ∧ t <+: rest.drop s.length := by
  constructor
  · rintro ⟨u, rfl⟩
    rw [List.append_assoc, List.drop_left]
    exact ⟨List.prefix_append s (t ++ u), List.prefix_append t u⟩
  · rintro ⟨⟨v, rfl⟩, hsecond⟩
    rw [List.drop_left] at hsecond
    exact List.prefix_append_right_inj s |>.2 hsecond

/-- Texts that are no longer than the number of rounds are reached by rounds that read something. -/
theorem flatten_mem_pow {l : Language Char} {parts : List (List Char)}
    (hparts : ∀ part ∈ parts, part ∈ l ∧ part ≠ []) :
    ∀ {count : Nat}, parts.flatten.length ≤ count → parts.flatten ∈ (1 + l) ^ count := by
  induction parts with
  | nil =>
    intro count _
    cases count with
    | zero => exact Language.nil_mem_one
    | succ count =>
      rw [one_add_pow_succ]
      exact Or.inl Language.nil_mem_one
  | cons part parts ih =>
    intro count hlength
    obtain ⟨hpart, hne⟩ := hparts part List.mem_cons_self
    have hpos : 0 < part.length := List.length_pos_iff.2 hne
    rw [List.flatten_cons, List.length_append] at hlength
    obtain ⟨more, rfl⟩ : ∃ more, count = more + 1 := ⟨count - 1, by omega⟩
    rw [List.flatten_cons, pow_succ']
    refine Language.append_mem_mul (Or.inr hpart) (ih ?_ (by omega))
    exact fun other hmem => hparts other (List.mem_cons_of_mem part hmem)

namespace Spells

variable {body next : Ways} {l m : Language Char}

/-- **Two bodies after one another read two texts after one another.** -/
theorem flatMap (h : Spells body l) (hnext : Spells next m) :
    Spells (fun a => (body a).flatMap next) (l * m) := by
  intro a b
  rw [List.mem_flatMap]
  constructor
  · rintro ⟨c, hc, hb⟩
    obtain ⟨t, ht, hfirst, rfl⟩ := (h a c).1 hc
    obtain ⟨u, hu, hsecond, rfl⟩ := (hnext _ b).1 hb
    rw [Attempt.rest_eat] at hsecond
    exact ⟨t ++ u, Language.append_mem_mul ht hu, append_prefix_iff.2 ⟨hfirst, hsecond⟩,
      (Attempt.eat_append t u a).symm⟩
  · rintro ⟨s, hs, hbegins, rfl⟩
    obtain ⟨t, ht, u, hu, rfl⟩ := Language.mem_mul.1 hs
    obtain ⟨hfirst, hsecond⟩ := append_prefix_iff.1 hbegins
    refine ⟨a.eat t, (h a _).2 ⟨t, ht, hfirst, rfl⟩, (hnext _ _).2 ⟨u, hu, ?_, ?_⟩⟩
    · rw [Attempt.rest_eat]
      exact hsecond
    · exact Attempt.eat_append t u a

/-- Going nowhere reads the empty text. -/
theorem one : Spells (fun a => [a]) 1 := by
  intro a b
  rw [List.mem_singleton]
  constructor
  · rintro rfl
    exact ⟨[], Language.nil_mem_one, List.nil_prefix, rfl⟩
  · rintro ⟨t, rfl, -, rfl⟩
    rfl

theorem times (h : Spells body l) (count : Nat) : Spells (times body count) (l ^ count) := by
  induction count with
  | zero =>
    rw [pow_zero]
    exact one
  | succ count ih =>
    rw [pow_succ']
    exact h.flatMap ih

theorem upTo (h : Spells body l) (greedy : Bool) (count : Nat) :
    Spells (upTo body greedy count) ((1 + l) ^ count) := by
  induction count with
  | zero =>
    rw [pow_zero]
    exact one
  | succ count ih =>
    intro a b
    have hmore := h.flatMap ih a b
    have hrounds : b ∈ Regex.upTo body greedy (count + 1) a ↔
        b ∈ [a] ∨ b ∈ (body a).flatMap (Regex.upTo body greedy count) := by
      rw [Regex.upTo]
      cases greedy with
      | true => rw [if_pos rfl, List.mem_append, or_comm]
      | false => rw [if_neg Bool.false_ne_true, List.mem_cons, List.mem_singleton]
    rw [hrounds, one a b, hmore, one_add_pow_succ]
    constructor
    · rintro (⟨t, ht, hrest⟩ | ⟨t, ht, hrest⟩)
      · exact ⟨t, Or.inl ht, hrest⟩
      · exact ⟨t, Or.inr ht, hrest⟩
    · rintro ⟨t, ht | ht, hrest⟩
      · exact Or.inl ⟨t, ht, hrest⟩
      · exact Or.inr ⟨t, ht, hrest⟩

/-- **Unlimited rounds read the repetitions of the texts**: rounds that read nothing can be left
out, and of the others there are no more than characters. -/
theorem unlimited (h : Spells body l) (greedy : Bool) : Spells (unlimited body greedy) l∗ := by
  intro a b
  rw [Regex.unlimited, h.upTo greedy _ a b]
  constructor
  · rintro ⟨t, ht, hrest⟩
    exact ⟨t, one_add_pow_le_kstar l _ ht, hrest⟩
  · rintro ⟨t, ht, hbegins, rfl⟩
    obtain ⟨parts, rfl, hparts⟩ := Language.mem_kstar_iff_exists_nonempty.1 ht
    exact ⟨_, flatten_mem_pow hparts hbegins.length_le, hbegins, rfl⟩

end Spells

/-! ### Plain expressions -/

namespace Expr

/-- The expression has no assertions and no groups. -/
def isPlain : Expr → Bool
  | empty | literal _ | set _ => true
  | assert _ | group _ _ => false
  | seq x y => x.isPlain && y.isPlain
  | alt x y => x.isPlain && y.isPlain
  | rounds _ _ _ x => x.isPlain

/-- **The ways of a plain expression go past the beginnings that belong to its language.** -/
theorem spells_ways {x : Expr} (hx : x.isPlain = true) : Spells x.ways x.language := by
  induction x with
  | empty => exact Spells.one
  | literal s =>
    intro a b
    rw [ways, List.mem_ite_nil_right, List.isPrefixOf_iff_prefix, List.mem_singleton]
    constructor
    · rintro ⟨hbegins, rfl⟩
      exact ⟨s, rfl, hbegins, rfl⟩
    · rintro ⟨t, rfl, hbegins, rfl⟩
      exact ⟨hbegins, rfl⟩
  | set s =>
    intro a b
    rw [ways]
    constructor
    · intro hb
      rcases setWays_cases s a with hstop | ⟨c, rest, hrest, hc, hgrow⟩
      · simp [hstop] at hb
      · rw [hgrow, List.mem_singleton] at hb
        refine ⟨[c], ⟨c, hc, rfl⟩, ?_, hb.trans (Attempt.consume_eq_eat hrest)⟩
        rw [hrest]
        exact List.prefix_append [c] rest
    · rintro ⟨t, ⟨c, hc, rfl⟩, ⟨rest, hrest⟩, rfl⟩
      rw [setWays_cons hrest.symm hc, List.mem_singleton]
  | assert p => simp [isPlain] at hx
  | seq x y ihx ihy =>
    rw [isPlain, Bool.and_eq_true] at hx
    exact (ihx hx.1).flatMap (ihy hx.2)
  | alt x y ihx ihy =>
    rw [isPlain, Bool.and_eq_true] at hx
    intro a b
    rw [ways, List.mem_append, ihx hx.1 a b, ihy hx.2 a b]
    constructor
    · rintro (⟨t, ht, hrest⟩ | ⟨t, ht, hrest⟩)
      · exact ⟨t, Or.inl ht, hrest⟩
      · exact ⟨t, Or.inr ht, hrest⟩
    · rintro ⟨t, ht | ht, hrest⟩
      · exact Or.inl ⟨t, ht, hrest⟩
      · exact Or.inr ⟨t, ht, hrest⟩
  | rounds least most greedy x ih =>
    cases most with
    | none => exact ((ih hx).times least).flatMap ((ih hx).unlimited greedy)
    | some most => exact ((ih hx).times least).flatMap ((ih hx).upTo greedy (most - least))
  | group index x ih => simp [isPlain] at hx

/-- **If only one of the texts that a plain expression can read leads on, this one is read**,
whatever it prefers. -/
theorem first_of_text {x : Expr} (hx : x.isPlain = true) {next : Attempt → Option Attempt}
    {a r : Attempt} {t : List Char} (ht : t ∈ x.language) (hbegins : t <+: a.cursor.rest)
    (hnext : next (a.eat t) = some r)
    (hothers : ∀ s ∈ x.language, s <+: a.cursor.rest → s ≠ t → next (a.eat s) = none) :
    x.first next a = some r := by
  have hway : a.eat t ∈ x.ways a := (spells_ways hx a _).2 ⟨t, ht, hbegins, rfl⟩
  have hsome : (x.first next a).isSome = true := by
    rw [first, List.isSome_findSome?, List.any_eq_true]
    exact ⟨a.eat t, hway, by rw [hnext, Option.isSome_some]⟩
  obtain ⟨found, hfound⟩ := Option.isSome_iff_exists.1 hsome
  obtain ⟨b, hb, hfoundAt⟩ := List.exists_of_findSome?_eq_some hfound
  obtain ⟨s, hs, hbegins, rfl⟩ := (spells_ways hx a b).1 hb
  by_cases hsame : s = t
  · rw [hfound, ← hfoundAt, hsame, hnext]
  · rw [hothers s hs hbegins hsame] at hfoundAt
    exact absurd hfoundAt (by simp)

/-! ### Characters that are not read -/

/-- The expression never reads a character. -/
def excludes (c : Char) : Expr → Bool
  | empty | assert _ => true
  | literal s => !s.contains c
  | set s => !s.contains c
  | seq x y => x.excludes c && y.excludes c
  | alt x y => x.excludes c && y.excludes c
  | rounds _ _ _ x => x.excludes c
  | group _ x => x.excludes c

/-- However many rounds there are, they read a repetition. -/
theorem language_rounds_le (least : Nat) (most : Option Nat) (greedy : Bool) (x : Expr) :
    (rounds least most greedy x).language ≤ x.language∗ := by
  have hmul : ∀ {l : Language Char}, l ≤ x.language∗ → x.language ^ least * l ≤ x.language∗ :=
    fun hl => (mul_le_mul' pow_le_kstar hl).trans (kstar_mul_kstar _).le
  cases most with
  | none => exact hmul le_rfl
  | some most => exact hmul (one_add_pow_le_kstar x.language _)

/-- **A character that an expression excludes is in none of its texts.** -/
theorem not_mem_of_excludes {c : Char} {x : Expr} (hx : x.excludes c = true) :
    ∀ t ∈ x.language, c ∉ t := by
  induction x with
  | empty =>
    rintro t rfl
    exact List.not_mem_nil
  | literal s =>
    rintro t rfl
    simpa [excludes] using hx
  | set s =>
    rintro t ⟨d, hd, rfl⟩ hmem
    rw [← List.mem_singleton.1 hmem] at hd
    simp [excludes, hd] at hx
  | assert p =>
    rintro t rfl
    exact List.not_mem_nil
  | seq x y ihx ihy =>
    rw [excludes, Bool.and_eq_true] at hx
    intro t ht
    obtain ⟨s, hs, u, hu, rfl⟩ := Language.mem_mul.1 ht
    rw [List.mem_append, not_or]
    exact ⟨ihx hx.1 s hs, ihy hx.2 u hu⟩
  | alt x y ihx ihy =>
    rw [excludes, Bool.and_eq_true] at hx
    rintro t (ht | ht)
    · exact ihx hx.1 t ht
    · exact ihy hx.2 t ht
  | rounds least most greedy x ih =>
    intro t ht
    obtain ⟨parts, rfl, hparts⟩ :=
      Language.mem_kstar.1 (language_rounds_le least most greedy x ht)
    intro hmem
    obtain ⟨part, hpart, hc⟩ := List.mem_flatten.1 hmem
    exact ih hx part (hparts part hpart) hc
  | group index x ih => exact ih hx

end Expr

end Deobfuscation.Regex
