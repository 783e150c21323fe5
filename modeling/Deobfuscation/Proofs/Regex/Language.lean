import Mathlib.Computability.Language
import Mathlib.Order.CompletePartialOrder
import Deobfuscation.Proofs.Regex.Ways

/-!
# The language of an expression

Whatever way a walk takes through an expression, the text that it reads on the way belongs to the
language of the expression.  An assertion looks around and reads nothing, so the language tells
what can be read but not where.

* `Expr.language` — the texts that an expression can read, as a language;
* `Reads.upTo`, `Reads.times`, `Reads.unlimited` — **proved**: what repeated rounds read;
* `Expr.reads_ways` — **proved**: each way through an expression reads a text of its language.
-/

namespace Deobfuscation.Regex

open scoped Computability

/-! ### Languages -/

/-- The texts of one character of a set. -/
def CharSet.language (s : CharSet) : Language Char := {t | ∃ c, s.contains c = true ∧ t = [c]}

/-- The texts that an expression can read. -/
def Expr.language : Expr → Language Char
  | empty => 1
  | literal s => {s}
  | set s => s.language
  | assert _ => 1
  | seq x y => x.language * y.language
  | alt x y => x.language + y.language
  | rounds least none _ x => x.language ^ least * x.language∗
  | rounds least (some most) _ x => x.language ^ least * (1 + x.language) ^ (most - least)
  | group _ x => x.language

/-- Repetitions of one character of a set are texts of characters of the set. -/
theorem CharSet.contains_of_mem_kstar {s : CharSet} {t : List Char} (h : t ∈ s.language∗) :
    ∀ c ∈ t, s.contains c = true := by
  obtain ⟨parts, rfl, hparts⟩ := Language.mem_kstar.1 h
  intro c hc
  obtain ⟨part, hpart, hmem⟩ := List.mem_flatten.1 hc
  obtain ⟨d, hd, rfl⟩ := hparts part hpart
  exact List.mem_singleton.1 hmem ▸ hd

/-- A text in front of a repetition makes one more round. -/
theorem append_mem_kstar {l : Language Char} {s t : List Char} (hs : s ∈ l) (ht : t ∈ l∗) :
    s ++ t ∈ l∗ := by
  have hle : l * l∗ ≤ l∗ := mul_kstar_le_kstar
  exact hle (Language.append_mem_mul hs ht)

/-- Texts of characters of a set are repetitions of one character. -/
theorem CharSet.mem_kstar_of_contains {s : CharSet} {t : List Char}
    (h : ∀ c ∈ t, s.contains c = true) : t ∈ s.language∗ := by
  induction t with
  | nil => exact Language.nil_mem_kstar _
  | cons c t ih =>
    have hfirst : [c] ∈ s.language := ⟨c, h c List.mem_cons_self, rfl⟩
    exact append_mem_kstar hfirst (ih fun d hd => h d (List.mem_cons_of_mem c hd))

/-! ### Rounds -/

/-- Some rounds or none are a repetition. -/
theorem one_add_pow_le_kstar (l : Language Char) (count : Nat) : (1 + l) ^ count ≤ l∗ :=
  calc (1 + l) ^ count ≤ (1 + l)∗ := pow_le_kstar
    _ ≤ l∗∗ := kstar_mono (add_le one_le_kstar le_kstar)
    _ = l∗ := kstar_idem l

/-- At most so many rounds are no round, or one round and fewer after it. -/
theorem one_add_pow_succ (l : Language Char) (count : Nat) :
    (1 + l) ^ (count + 1) = 1 + l * (1 + l) ^ count := by
  induction count with
  | zero => rw [pow_one, pow_zero, mul_one]
  | succ count ih =>
    have hfewer : l * (1 + l) ^ count ≤ l * (1 + l) ^ (count + 1) := by
      rw [pow_succ]
      exact mul_le_mul_right (le_mul_of_one_le_right' le_self_add) l
    calc (1 + l) ^ (count + 2) = (1 + l) ^ (count + 1) + l * (1 + l) ^ (count + 1) := by
          rw [pow_succ' (1 + l) (count + 1), add_mul, one_mul]
      _ = 1 + (l * (1 + l) ^ count + l * (1 + l) ^ (count + 1)) := by rw [ih, add_assoc, ← ih]
      _ = 1 + l * (1 + l) ^ (count + 1) := by rw [add_eq_right_iff_le.2 hfewer]

/-- Every way reads a text of a language. -/
def Reads (body : Ways) (l : Language Char) : Prop :=
  ∀ a, ∀ b ∈ body a, ∃ t ∈ l, a.cursor.rest = t ++ b.cursor.rest

namespace Reads

variable {body : Ways} {l m : Language Char}

theorem mono (h : Reads body l) (hle : l ≤ m) : Reads body m := by
  intro a b hb
  obtain ⟨t, ht, hrest⟩ := h a b hb
  exact ⟨t, hle ht, hrest⟩

/-- Two walks after one another read two texts after one another. -/
theorem flatMap {next : Ways} (h : Reads body l) (hnext : Reads next m) :
    Reads (fun a => (body a).flatMap next) (l * m) := by
  intro a b hb
  obtain ⟨c, hc, hbc⟩ := List.mem_flatMap.1 hb
  obtain ⟨t, ht, hac⟩ := h a c hc
  obtain ⟨u, hu, hcb⟩ := hnext c b hbc
  refine ⟨t ++ u, Language.append_mem_mul ht hu, ?_⟩
  rw [hac, hcb, List.append_assoc]

theorem times (h : Reads body l) (count : Nat) : Reads (times body count) (l ^ count) := by
  induction count with
  | zero =>
    intro a b hb
    rw [Regex.times, List.mem_singleton] at hb
    exact ⟨[], Language.nil_mem_one, hb ▸ rfl⟩
  | succ count ih =>
    rw [pow_succ']
    exact h.flatMap ih

theorem upTo (h : Reads body l) (greedy : Bool) (count : Nat) :
    Reads (upTo body greedy count) ((1 + l) ^ count) := by
  induction count with
  | zero =>
    intro a b hb
    rw [Regex.upTo, List.mem_singleton] at hb
    exact ⟨[], Language.nil_mem_one, hb ▸ rfl⟩
  | succ count ih =>
    rw [one_add_pow_succ]
    intro a b hb
    have hcases : b = a ∨ b ∈ (body a).flatMap (Regex.upTo body greedy count) := by
      rw [Regex.upTo] at hb
      cases greedy with
      | true => exact (List.mem_append.1 hb).symm.imp_left List.mem_singleton.1
      | false => exact List.mem_cons.1 hb
    rcases hcases with rfl | hround
    · exact ⟨[], Or.inl Language.nil_mem_one, rfl⟩
    · exact (h.flatMap ih).mono le_add_self a b hround

theorem unlimited (h : Reads body l) (greedy : Bool) : Reads (unlimited body greedy) l∗ :=
  fun a => (h.upTo greedy a.cursor.rest.length).mono (one_add_pow_le_kstar l _) a

end Reads

/-! ### Expressions -/

/-- **Each way through an expression reads a text of its language.** -/
theorem Expr.reads_ways (x : Expr) : Reads x.ways x.language := by
  induction x with
  | empty =>
    intro a b hb
    rw [ways, List.mem_singleton] at hb
    exact ⟨[], Language.nil_mem_one, hb ▸ rfl⟩
  | literal s =>
    intro a b hb
    rw [ways] at hb
    split at hb
    · rename_i hprefix
      obtain ⟨rest, hrest⟩ := List.isPrefixOf_iff_prefix.1 hprefix
      rw [List.mem_singleton] at hb
      refine ⟨s, rfl, ?_⟩
      rw [hb, Attempt.rest_eat, ← hrest, List.drop_left]
    · simp at hb
  | set s =>
    intro a b hb
    rw [ways, setWays] at hb
    split at hb
    · simp at hb
    · rename_i c rest hrest
      split at hb
      · rename_i hc
        rw [List.mem_singleton] at hb
        exact ⟨[c], ⟨c, hc, rfl⟩, hb ▸ hrest⟩
      · simp at hb
  | assert p =>
    intro a b hb
    rw [ways] at hb
    split at hb
    · rw [List.mem_singleton] at hb
      exact ⟨[], Language.nil_mem_one, hb ▸ rfl⟩
    · simp at hb
  | seq x y ihx ihy => exact ihx.flatMap ihy
  | alt x y ihx ihy =>
    intro a b hb
    rcases List.mem_append.1 hb with hx | hy
    · exact ihx.mono le_self_add a b hx
    · exact ihy.mono le_add_self a b hy
  | rounds least most greedy x ih =>
    cases most with
    | none => exact (ih.times least).flatMap (ih.unlimited greedy)
    | some most => exact (ih.times least).flatMap (ih.upTo greedy (most - least))
  | group index x ih =>
    intro a b hb
    obtain ⟨c, hc, rfl⟩ := List.mem_map.1 hb
    exact ih a c hc

end Deobfuscation.Regex
