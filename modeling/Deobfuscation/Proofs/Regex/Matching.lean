import Mathlib.Algebra.Order.Monoid.Unbundled.Pow
import Deobfuscation.Proofs.Regex.Language
import Deobfuscation.Proofs.Regex.Walk

/-!
# What an expression matches

An expression matches a text in its place: between what is in front of it and what is behind it,
since an assertion looks at both.  Nothing is preferred here and nothing is remembered.  Whatever a
search finds, each of its captures is a stretch that the body of its group matches where it stands,
for every expression and however the search came there.

* `Matching`, `Expr.Matches` — what is matched between two texts, and what an expression matches;
* `Expr.bodies` — the groups of an expression, each with its body;
* `Expr.mem_language_of_matches` — **proved**: what is matched belongs to the language;
* `Goes` — a walk has passed a text that is matched, and captured what bodies match;
* `Passes`, `Plan.passes_number` — **proved**, one case for each constructor: a search walks an
  expression so;
* `Expr.matchesAt_of_find` — **proved**: what a group has captured, its body matches there.
-/

namespace Deobfuscation.Regex

open scoped Computability

/-! ### Matching in place -/

/-- What is matched between a text in front and a text behind. -/
abbrev Matching := List Char → List Char → List Char → Prop

namespace Matching

/-- One thing and then another. -/
def seq (m n : Matching) : Matching := fun before s after =>
  ∃ t u, s = t ++ u ∧ m before t (u ++ after) ∧ n (before ++ t) u after

/-- Exactly so many rounds. -/
def times (m : Matching) : Nat → Matching
  | 0, _, s, _ => s = []
  | count + 1, before, s, after => m.seq (times m count) before s after

/-- One matching allows no more than another. -/
def Le (m n : Matching) : Prop := ∀ before s after, m before s after → n before s after

/-- Rounds, of which so many are allowed. -/
def rounds (m : Matching) (allowed : Nat → Prop) : Matching := fun before s after =>
  ∃ count, allowed count ∧ m.times count before s after

theorem seq_assoc (l m n : Matching) : (l.seq (m.seq n)).Le ((l.seq m).seq n) := by
  rintro before s after ⟨t, _, rfl, ht, u, v, rfl, hu, hv⟩
  refine ⟨t ++ u, v, (List.append_assoc _ _ _).symm, ⟨t, u, rfl, ?_, hu⟩, ?_⟩
  · rwa [← List.append_assoc]
  · rwa [← List.append_assoc]

theorem seq_mono {l m n o : Matching} (hlm : l.Le m) (hno : n.Le o) : (l.seq n).Le (m.seq o) := by
  rintro before s after ⟨t, u, rfl, ht, hu⟩
  exact ⟨t, u, rfl, hlm _ _ _ ht, hno _ _ _ hu⟩

theorem times_add (m : Matching) (i j : Nat) :
    ((m.times i).seq (m.times j)).Le (m.times (i + j)) := by
  induction i with
  | zero =>
    rintro before s after ⟨t, u, rfl, rfl, hu⟩
    rw [List.append_nil] at hu
    rwa [Nat.zero_add]
  | succ i ih =>
    rintro before s after ⟨_, u, rfl, ⟨t, v, rfl, ht, hv⟩, hu⟩
    rw [Nat.add_right_comm]
    refine ⟨t, v ++ u, List.append_assoc _ _ _, by rwa [List.append_assoc],
      ih _ _ _ ⟨v, u, rfl, hv, ?_⟩⟩
    rwa [List.append_assoc]

/-- One round, where it is allowed. -/
theorem le_rounds (m : Matching) {allowed : Nat → Prop} (h : allowed 1) :
    m.Le (m.rounds allowed) :=
  fun _ s _ hs => ⟨1, h, s, [], (List.append_nil s).symm, hs, rfl⟩

theorem rounds_mono (m : Matching) {few many : Nat → Prop} (h : ∀ count, few count → many count) :
    (m.rounds few).Le (m.rounds many) := by
  rintro before s after ⟨count, hcount, htimes⟩
  exact ⟨count, h count hcount, htimes⟩

theorem times_le {m n : Matching} (h : m.Le n) (count : Nat) :
    (m.times count).Le (n.times count) := by
  induction count with
  | zero => exact fun _ _ _ hs => hs
  | succ count ih => exact seq_mono h ih

theorem rounds_le {m n : Matching} (h : m.Le n) {allowed : Nat → Prop} :
    (m.rounds allowed).Le (n.rounds allowed) := by
  rintro before s after ⟨count, hcount, htimes⟩
  exact ⟨count, hcount, times_le h count _ _ _ htimes⟩

/-- Rounds and then further rounds. -/
theorem rounds_seq (m : Matching) {first second all : Nat → Prop}
    (h : ∀ i j, first i → second j → all (i + j)) :
    ((m.rounds first).seq (m.rounds second)).Le (m.rounds all) := by
  rintro before s after ⟨t, u, rfl, ⟨i, hi, ht⟩, j, hj, hu⟩
  exact ⟨i + j, h i j hi hj, m.times_add i j _ _ _ ⟨t, u, rfl, ht, hu⟩⟩

end Matching

namespace Expr

/-- What an expression matches: a text between what is in front of it and what is behind it. -/
def Matches : Expr → Matching
  | empty, _, s, _ => s = []
  | literal t, _, s, _ => s = t
  | set t, _, s, _ => ∃ c, t.contains c = true ∧ s = [c]
  | assert p, before, s, after => s = [] ∧ p.holds before.getLast? after.head? = true
  | seq x y, before, s, after => Matching.seq x.Matches y.Matches before s after
  | alt x y, before, s, after => x.Matches before s after ∨ y.Matches before s after
  | rounds least most _ x, before, s, after =>
    Matching.rounds x.Matches (fun count => least ≤ count ∧ ∀ m ∈ most, count ≤ max least m)
      before s after
  | group _ x, before, s, after => x.Matches before s after

/-- The groups of an expression, each with its body. -/
def bodies : Expr → List (Nat × Expr)
  | empty | literal _ | set _ | assert _ => []
  | seq x y | alt x y => x.bodies ++ y.bodies
  | rounds _ _ _ x => x.bodies
  | group index x => (index, x) :: x.bodies

/-- An expression matches a stretch of a text where it stands. -/
def MatchesAt (x : Expr) (text : List Char) (span : Span) : Prop :=
  ∃ before s after, text = before ++ s ++ after ∧
    span = ⟨before.length, (before ++ s).length⟩ ∧ x.Matches before s after

/-- So many rounds are read that each matches. -/
theorem mem_pow_of_times {m : Matching} {l : Language Char}
    (h : ∀ before s after, m before s after → s ∈ l) (count : Nat) :
    ∀ before s after, m.times count before s after → s ∈ l ^ count := by
  induction count with
  | zero =>
    rintro before s after rfl
    exact Language.nil_mem_one
  | succ count ih =>
    rintro before s after ⟨t, u, rfl, ht, hu⟩
    rw [pow_succ']
    exact Language.append_mem_mul (h _ _ _ ht) (ih _ _ _ hu)

/-- Fewer rounds are as many rounds or none. -/
theorem pow_le_one_add_pow (l : Language Char) {few many : Nat} (h : few ≤ many) :
    l ^ few ≤ (1 + l) ^ many := by
  obtain ⟨more, rfl⟩ := Nat.exists_eq_add_of_le h
  calc l ^ few = l ^ few * 1 := (mul_one _).symm
    _ ≤ (1 + l) ^ few * (1 + l) ^ more :=
      mul_le_mul' (pow_le_pow_left' le_add_self few) (one_le_pow_of_one_le' le_self_add more)
    _ = (1 + l) ^ (few + more) := (pow_add _ _ _).symm

/-- **What an expression matches belongs to its language.** -/
theorem mem_language_of_matches (x : Expr) :
    ∀ before s after, x.Matches before s after → s ∈ x.language := by
  induction x with
  | empty =>
    rintro before s after rfl
    exact Language.nil_mem_one
  | literal t => exact fun before s after h => h
  | set t => exact fun before s after h => h
  | assert p =>
    rintro before s after ⟨rfl, -⟩
    exact Language.nil_mem_one
  | seq x y ihx ihy =>
    rintro before s after ⟨t, u, rfl, ht, hu⟩
    exact Language.append_mem_mul (ihx _ _ _ ht) (ihy _ _ _ hu)
  | alt x y ihx ihy =>
    rintro before s after (hx | hy)
    · exact .inl (ihx _ _ _ hx)
    · exact .inr (ihy _ _ _ hy)
  | rounds least most greedy x ih =>
    rintro before s after ⟨count, ⟨hleast, hmost⟩, htimes⟩
    obtain ⟨more, rfl⟩ := Nat.exists_eq_add_of_le hleast
    have hpow := mem_pow_of_times ih _ _ _ _ htimes
    rw [pow_add] at hpow
    cases most with
    | none =>
      have hle : x.language ^ least * x.language ^ more ≤ x.language ^ least * x.language∗ :=
        mul_le_mul' le_rfl pow_le_kstar
      exact hle hpow
    | some most =>
      have hmore : more ≤ most - least := by
        have := hmost most rfl
        omega
      have hle : x.language ^ least * x.language ^ more ≤
          x.language ^ least * (1 + x.language) ^ (most - least) :=
        mul_le_mul' le_rfl (pow_le_one_add_pow x.language hmore)
      exact hle hpow
  | group index x ih => exact ih

/-- The text of a stretch is what stands there. -/
theorem text_span (before s after : List Char) :
    Span.text ⟨before.length, (before ++ s).length⟩ (before ++ s ++ after) = s := by
  simp [Span.text]

/-- **The text of a stretch that an expression matches belongs to its language.** -/
theorem MatchesAt.mem_language {x : Expr} {text : List Char} {span : Span}
    (h : x.MatchesAt text span) : span.text text ∈ x.language := by
  obtain ⟨before, s, after, rfl, rfl, hs⟩ := h
  rw [text_span]
  exact mem_language_of_matches x _ _ _ hs

end Expr

/-! ### What a walk matches -/

/-- The walk stands behind a text. -/
def Attempt.Behind (before : List Char) (a : Attempt) : Prop :=
  a.cursor.position = before.length ∧ a.cursor.before = before.getLast?

/-- A walk has captured more than another: stretches of a text that the bodies of their groups
match. -/
def Attempt.Captures (bodies : List (Nat × Expr)) (text : List Char) (a b : Attempt) : Prop :=
  ∃ new, b.captures = new ++ a.captures ∧
    ∀ capture ∈ new, ∃ y, (capture.group, y) ∈ bodies ∧ y.MatchesAt text capture.span

/-- A walk has gone on past a text that is matched, and has captured what bodies match. -/
def Goes (m : Matching) (bodies : List (Nat × Expr)) (a b : Attempt) : Prop :=
  ∀ before, a.Behind before → ∃ s, a.cursor.rest = s ++ b.cursor.rest ∧
    b.Behind (before ++ s) ∧ m before s b.cursor.rest ∧
    a.Captures bodies (before ++ a.cursor.rest) b

namespace Goes

variable {m n : Matching} {bodies others : List (Nat × Expr)} {a b c : Attempt}

theorem mono (h : Goes m bodies a b) (hle : m.Le n) (hbodies : bodies ⊆ others) :
    Goes n others a b := by
  intro before hbefore
  obtain ⟨s, hrest, hbehind, hs, new, hnew, hcaptures⟩ := h before hbefore
  refine ⟨s, hrest, hbehind, hle _ _ _ hs, new, hnew, fun capture hmem => ?_⟩
  obtain ⟨y, hy, hmatch⟩ := hcaptures capture hmem
  exact ⟨y, hbodies hy, hmatch⟩

/-- Walks one after the other pass texts one after the other. -/
theorem seq (hab : Goes m bodies a b) (hbc : Goes n bodies b c) : Goes (m.seq n) bodies a c := by
  intro before hbefore
  obtain ⟨s, hs, hbehind, hms, new, hnew, hcaptures⟩ := hab before hbefore
  obtain ⟨t, ht, hbehind', hnt, later, hlater, hcaptures'⟩ := hbc _ hbehind
  have htext : before ++ a.cursor.rest = before ++ s ++ b.cursor.rest := by
    rw [hs, List.append_assoc]
  refine ⟨s ++ t, by rw [hs, ht, List.append_assoc], by rwa [← List.append_assoc], ?_,
    later ++ new, by rw [hlater, hnew, List.append_assoc], ?_⟩
  · exact ⟨s, t, rfl, ht ▸ hms, hnt⟩
  · rw [htext]
    refine List.forall_mem_append.2 ⟨hcaptures', ?_⟩
    rwa [htext] at hcaptures

/-- A walk that stays where it is passes nothing. -/
theorem stay {m : Matching} (hcursor : b.cursor = a.cursor) (hcaptures : b.captures = a.captures)
    (hm : ∀ before, a.Behind before → m before [] a.cursor.rest) : Goes m bodies a b := by
  intro before hbefore
  refine ⟨[], by rw [hcursor]; rfl, ?_, by rw [hcursor]; exact hm before hbefore, [],
    hcaptures, by simp⟩
  rw [List.append_nil, Attempt.Behind, hcursor]
  exact hbefore

/-- A walk past a junction goes on where it is. -/
theorem of_pass {j : Junction} (h : Goes m bodies (a.pass j) b) : Goes m bodies a b := by
  have hcursor : (a.pass j).cursor = a.cursor := by
    unfold Attempt.pass
    split <;> rfl
  have hcaptures : (a.pass j).captures = a.captures := by
    unfold Attempt.pass
    split <;> rfl
  intro before hbefore
  have hgoes := h before (by rwa [Attempt.Behind, hcursor])
  rwa [hcursor, Attempt.Captures, hcaptures] at hgoes

/-- A walk passes a character. -/
theorem consume {s : CharSet} {d : Char} {rest : List Char} (hrest : a.cursor.rest = d :: rest)
    (hd : s.contains d = true) : Goes (Expr.set s).Matches bodies a (a.consume d rest) := by
  rintro before ⟨hposition, -⟩
  refine ⟨[d], hrest, ⟨?_, ?_⟩, ⟨d, hd, rfl⟩, [], rfl, by simp⟩
  · show a.cursor.position + 1 = (before ++ [d]).length
    rw [hposition, List.length_append, List.length_singleton]
  · show some d = (before ++ [d]).getLast?
    rw [List.getLast?_concat]

/-- A walk closes a group. -/
theorem capture {x : Expr} (index : Nat) (h : Goes x.Matches x.bodies a b) :
    Goes x.Matches ((index, x) :: x.bodies) a (b.capture index a.cursor.position) := by
  intro before hbefore
  obtain ⟨s, hrest, hbehind, hs, new, hnew, hcaptures⟩ := h before hbefore
  refine ⟨s, hrest, hbehind, hs, ⟨index, a.cursor.position, b.cursor.position⟩ :: new, ?_,
    List.forall_mem_cons.2 ⟨⟨x, List.mem_cons_self, ?_⟩, fun later hmem => ?_⟩⟩
  · rw [List.cons_append, ← hnew]
    rfl
  · refine ⟨before, s, b.cursor.rest, by rw [hrest, List.append_assoc], ?_, hs⟩
    rw [hbefore.1, hbehind.1]
  · obtain ⟨y, hy, hmatch⟩ := hcaptures later hmem
    exact ⟨y, List.mem_cons_of_mem _ hy, hmatch⟩

end Goes

/-- Any number of rounds, one after the other. -/
theorem chains_rounds (m : Matching) (bodies : List (Nat × Expr)) :
    Chains (Goes (m.rounds fun _ => True) bodies) where
  trans hab hbc :=
    (hab.seq hbc).mono (m.rounds_seq fun _ _ _ _ => trivial) (List.Subset.refl _)
  pass a j := by
    refine .stay ?_ ?_ fun _ _ => ⟨0, trivial, rfl⟩
    · unfold Attempt.pass
      split <;> rfl
    · unfold Attempt.pass
      split <;> rfl

/-! ### Plans -/

/-- Whatever a walk of a plan finds, its continuation finds behind a text that is matched. -/
structure Passes (limit : Nat) (m : Matching) (bodies : List (Nat × Expr)) (x : Plan) : Prop where
  goesOn : GoesOn (Goes m bodies) (x.walk limit)

namespace Passes

variable {limit : Nat} {m n : Matching} {bodies others : List (Nat × Expr)} {x y : Plan}

theorem mono (h : Passes limit m bodies x) (hle : m.Le n) (hbodies : bodies ⊆ others) :
    Passes limit n others x := by
  refine ⟨fun {a next refuted r} hfound => ?_⟩
  obtain ⟨b, known, hb, hnext⟩ := h.goesOn hfound
  exact ⟨b, known, hb.mono hle hbodies, hnext⟩

theorem le (h : Passes limit m bodies x) (hle : m.Le n) : Passes limit n bodies x :=
  h.mono hle (List.Subset.refl _)

theorem seq (hx : Passes limit m bodies x) (hy : Passes limit n bodies y) :
    Passes limit (m.seq n) bodies (.seq x y) := by
  refine ⟨fun {a next refuted r} hfound => ?_⟩
  obtain ⟨b, known, hb, hrest⟩ := hx.goesOn hfound
  obtain ⟨c, known', hc, hnext⟩ := hy.goesOn hrest
  exact ⟨c, known', hb.seq hc, hnext⟩

theorem alt (hx : Passes limit m bodies x) (hy : Passes limit m bodies y) (j : Junction) :
    Passes limit m bodies (.alt j x y) := by
  refine ⟨fun {a next refuted r} hfound => ?_⟩
  rw [Plan.walk] at hfound
  rcases orElse_found (enter_found hfound) with hfirst | ⟨known, hsecond⟩
  · obtain ⟨b, known, hb, hnext⟩ := hx.goesOn hfirst
    exact ⟨b, known, hb.of_pass, hnext⟩
  · obtain ⟨b, known', hb, hnext⟩ := hy.goesOn hsecond
    exact ⟨b, known', hb.of_pass, hnext⟩

theorem branch (hx : Passes limit m bodies x) (hy : Passes limit m bodies y) (j : Junction)
    (greedy : Bool) : Passes limit m bodies (Plan.branch j greedy x y) := by
  cases greedy with
  | true => exact hx.alt hy j
  | false => exact hy.alt hx j

theorem empty : Passes limit Expr.empty.Matches bodies .empty :=
  ⟨fun {a _ refuted _} hfound => ⟨a, refuted, .stay rfl rfl fun _ _ => rfl, hfound⟩⟩

theorem set (s : CharSet) : Passes limit (Expr.set s).Matches bodies (.set s) := by
  refine ⟨fun {a next refuted r} hfound => ?_⟩
  rw [Plan.walk] at hfound
  split at hfound
  · simp at hfound
  · rename_i c rest hrest
    split at hfound
    · rename_i hc
      exact ⟨a.consume c rest, refuted, .consume hrest hc, hfound⟩
    · simp at hfound

theorem assert (p : Assertion) : Passes limit (Expr.assert p).Matches bodies (.assert p) := by
  refine ⟨fun {a next refuted r} hfound => ?_⟩
  rw [Plan.walk] at hfound
  split at hfound
  · rename_i hholds
    exact ⟨a, refuted, .stay rfl rfl fun before hbefore => ⟨rfl, hbefore.2 ▸ hholds⟩, hfound⟩
  · simp at hfound

theorem literal (s : List Char) : Passes limit (Expr.literal s).Matches bodies (.literal s) := by
  have hone : ∀ c, (Expr.set (.only c)).Matches.Le (Expr.literal [c]).Matches := by
    rintro c before _ after ⟨d, hd, rfl⟩
    rw [CharSet.contains_only] at hd
    rw [hd]
    rfl
  induction s with
  | nil => exact empty
  | cons c s ih =>
    cases s with
    | nil => exact (set (.only c)).le (hone c)
    | cons d s =>
      refine ((set (.only c)).seq ih).le ?_
      rintro before _ after ⟨t, _, rfl, ht, rfl⟩
      rw [hone c _ _ _ ht]
      rfl

/-- Characters of a set are rounds of one. -/
theorem span (j : Junction) (greedy : Bool) (s : CharSet) :
    Passes limit ((Expr.set s).Matches.rounds fun _ => True) bodies (.span j greedy s) := by
  have hchains := chains_rounds (Expr.set s).Matches bodies
  have hconsume : ∀ {a : Attempt} {c : Char} {rest : List Char}, a.cursor.rest = c :: rest →
      s.contains c = true →
      Goes ((Expr.set s).Matches.rounds fun _ => True) bodies a (a.consume c rest) :=
    fun hrest hc => (Goes.consume hrest hc).mono (Matching.le_rounds _ trivial)
      (List.Subset.refl _)
  refine ⟨fun {a next refuted r} hfound => ?_⟩
  rw [Plan.walk] at hfound
  split at hfound
  · obtain ⟨b, hmem, known, hnext⟩ := trySpanStops_found hfound
    rcases mem_spanStops hchains hconsume rfl hmem with hb | hb
    · exact ⟨b, known, hb, hnext⟩
    · simp at hb
  · exact growSpan_found hchains hconsume rfl hfound

/-- Rounds of a body go on behind rounds that are matched. -/
theorem rounds (hx : Passes limit m bodies x) (j : Junction) (greedy : Bool) (bound : Nat) :
    GoesOn (Goes (m.rounds fun _ => True) bodies)
      fun a next => Regex.rounds (x.walk limit) j greedy next bound a :=
  fun hfound => rounds_found (chains_rounds m bodies) (hx.le (m.le_rounds trivial)).goesOn hfound

theorem star (hx : Passes limit m bodies x) (j : Junction) (greedy : Bool) :
    Passes limit (m.rounds fun _ => True) bodies (.star j greedy x) :=
  ⟨hx.rounds j greedy limit⟩

theorem plus (hx : Passes limit m bodies x) (j : Junction) (greedy : Bool) :
    Passes limit (m.seq (m.rounds fun _ => True)) bodies (.plus j greedy x) := by
  refine ⟨fun {a next refuted r} hfound => ?_⟩
  obtain ⟨b, known, hb, hrest⟩ := hx.goesOn hfound
  obtain ⟨c, known', hc, hnext⟩ := hx.rounds j greedy limit hrest
  exact ⟨c, known', hb.seq hc, hnext⟩

theorem group {x : Plan} {y : Expr} (hx : Passes limit y.Matches y.bodies x) (index : Nat) :
    Passes limit y.Matches ((index, y) :: y.bodies) (.group index x) := by
  refine ⟨fun {a next refuted r} hfound => ?_⟩
  obtain ⟨b, known, hb, hnext⟩ := hx.goesOn hfound
  exact ⟨_, known, hb.capture index, hnext⟩

end Passes

/-! ### Repetitions that are written out -/

section Repetitions

variable {limit : Nat} {m : Matching} {bodies : List (Nat × Expr)} {x : Plan.Numbered}

/-- Copies in front of a plan are so many rounds in front of it. -/
theorem passes_prependCopies (hx : ∀ next, Passes limit m bodies (x next).1) (count : Nat) :
    ∀ {n : Matching} {rest : Plan} (next : Nat), Passes limit n bodies rest →
      Passes limit ((m.rounds (· = count)).seq n) bodies
        (Plan.prependCopies x count rest next).1 := by
  induction count with
  | zero =>
    intro n rest next hrest
    refine hrest.le fun before s after hs => ?_
    exact ⟨[], s, rfl, ⟨0, rfl, rfl⟩, by rwa [List.append_nil]⟩
  | succ count ih =>
    intro n rest next hrest
    have hsucc : ((m.rounds (· = count)).seq m).Le (m.rounds (· = count + 1)) := by
      intro before s after hs
      have hone : ((m.rounds (· = count)).seq m).Le
          ((m.rounds (· = count)).seq (m.rounds (· = 1))) :=
        Matching.seq_mono (fun _ _ _ h => h) (m.le_rounds rfl)
      exact m.rounds_seq (by omega) _ _ _ (hone _ _ _ hs)
    refine (ih (x next).2 ((hx next).seq hrest)).le fun before s after hs => ?_
    exact Matching.seq_mono hsucc (fun _ _ _ h => h) _ _ _ (Matching.seq_assoc _ _ _ _ _ _ hs)

/-- Optional copies, each inside the one before it, are at most so many rounds more. -/
theorem passes_nestOptions (hx : ∀ next, Passes limit m bodies (x next).1) (guarded greedy : Bool)
    (count : Nat) : ∀ {done : Nat} {inner : Plan} (next : Nat),
      Passes limit (m.rounds (· ≤ done)) bodies inner →
      Passes limit (m.rounds (· ≤ done + count)) bodies
        (Plan.nestOptions x guarded greedy count inner next).1 := by
  induction count with
  | zero => exact fun {done inner} next hinner => hinner
  | succ count ih =>
    intro done inner next hinner
    have hone : m.Le (m.rounds (· = 1)) := m.le_rounds rfl
    have hround : Passes limit (m.rounds (· ≤ done + 1)) bodies (.seq (x (next + 1)).1 inner) :=
      (((hx (next + 1)).le hone).seq hinner).le (m.rounds_seq fun i j hi hj => by omega)
    have hnone : Passes limit (m.rounds (· ≤ done + 1)) bodies .empty :=
      Passes.empty.le fun _ _ _ h => ⟨0, Nat.zero_le _, h⟩
    have hmore := ih (x (next + 1)).2 (hround.branch hnone ⟨next, guarded⟩ greedy)
    rwa [Nat.add_assoc, Nat.add_comm 1 count] at hmore

/-- An expression that always consumes one character of a set matches what the set matches. -/
theorem matches_of_oneOf? {y : Expr} {s : CharSet} (h : Plan.oneOf? y = some s) :
    (Expr.set s).Matches.Le y.Matches := by
  unfold Plan.oneOf? at h
  split at h
  · obtain rfl := Option.some.inj h
    exact fun _ _ _ hs => hs
  · obtain rfl := Option.some.inj h
    rintro before _ after ⟨d, hd, rfl⟩
    rw [CharSet.contains_only] at hd
    rw [hd]
    rfl
  · simp at h

variable {y : Expr}

theorem passes_onceOrMore (hx : ∀ next, Passes limit y.Matches bodies (x next).1)
    (guarded greedy : Bool) (next : Nat) :
    Passes limit (y.Matches.rounds (1 ≤ ·)) bodies (Plan.onceOrMore y x guarded greedy next).1 := by
  have hmore : (y.Matches.seq (y.Matches.rounds fun _ => True)).Le (y.Matches.rounds (1 ≤ ·)) := by
    intro before s after hs
    have hone : (y.Matches.seq (y.Matches.rounds fun _ => True)).Le
        ((y.Matches.rounds (· = 1)).seq (y.Matches.rounds fun _ => True)) :=
      Matching.seq_mono (y.Matches.le_rounds rfl) fun _ _ _ h => h
    exact y.Matches.rounds_seq (by omega) _ _ _ (hone _ _ _ hs)
  unfold Plan.onceOrMore
  split
  · rename_i s hs
    have hset := matches_of_oneOf? hs
    refine ((Passes.set s).seq (Passes.span ⟨next, guarded⟩ greedy s)).le fun before u after h => ?_
    exact hmore _ _ _ (Matching.seq_mono hset (Matching.rounds_le hset) _ _ _ h)
  · exact ((hx (next + 1)).plus ⟨next, guarded⟩ greedy).le hmore

theorem passes_zeroOrMore (hx : ∀ next, Passes limit y.Matches bodies (x next).1)
    (guarded greedy : Bool) (next : Nat) :
    Passes limit (y.Matches.rounds fun _ => True) bodies
      (Plan.zeroOrMore y x guarded greedy next).1 := by
  unfold Plan.zeroOrMore
  split
  · rename_i s hs
    exact (Passes.span ⟨next, guarded⟩ greedy s).le (Matching.rounds_le (matches_of_oneOf? hs))
  · exact (hx (next + 1)).star ⟨next, guarded⟩ greedy

/-- A repetition without an upper bound. -/
theorem passes_unbounded (hx : ∀ next, Passes limit y.Matches bodies (x next).1)
    (guarded greedy : Bool) (least next : Nat) :
    Passes limit (y.Matches.rounds (least ≤ ·)) bodies
      (Plan.unbounded y x guarded greedy least next).1 := by
  cases least with
  | zero =>
    rw [Plan.unbounded]
    split
    · have honce : Passes limit (y.Matches.rounds (0 ≤ ·)) bodies
          (Plan.onceOrMore y x guarded greedy (next + 1)).1 :=
        (passes_onceOrMore hx guarded greedy (next + 1)).le
          (y.Matches.rounds_mono fun count _ => Nat.zero_le count)
      have hnone : Passes limit (y.Matches.rounds (0 ≤ ·)) bodies .empty :=
        Passes.empty.le fun _ _ _ h => ⟨0, Nat.le_refl 0, h⟩
      exact honce.branch hnone ⟨next, guarded⟩ greedy
    · exact (passes_zeroOrMore hx guarded greedy next).le
        (y.Matches.rounds_mono fun count _ => Nat.zero_le count)
  | succ least =>
    have honce := passes_onceOrMore hx guarded greedy next
    exact (passes_prependCopies hx least _ honce).le
      (y.Matches.rounds_seq fun i j hi hj => by omega)

/-- A repetition with an upper bound. -/
theorem passes_bounded (hx : ∀ next, Passes limit y.Matches bodies (x next).1)
    (guarded greedy : Bool) (least most next : Nat) :
    Passes limit (y.Matches.rounds fun count => least ≤ count ∧ count ≤ max least most) bodies
      (Plan.bounded x guarded greedy least most next).1 := by
  have hempty : Passes limit (y.Matches.rounds (· ≤ 0)) bodies .empty :=
    Passes.empty.le fun _ _ _ h => ⟨0, Nat.le_refl 0, h⟩
  have hoptions := passes_nestOptions hx guarded greedy (most - least) next hempty
  exact (passes_prependCopies hx least _ hoptions).le
    (y.Matches.rounds_seq fun i j hi hj => by omega)

end Repetitions

/-! ### Expressions -/

/-- **A search walks an expression past what it matches**, and captures what bodies match. -/
theorem Plan.passes_number (limit : Nat) (x : Expr) :
    ∀ guarded next, Passes limit x.Matches x.bodies (number x guarded next).1 := by
  induction x with
  | empty => exact fun guarded next => .empty
  | literal s => exact fun guarded next => .literal s
  | set s => exact fun guarded next => .set s
  | assert p => exact fun guarded next => .assert p
  | seq x y ihx ihy =>
    intro guarded next
    have hx := (ihx guarded next).mono (fun _ _ _ h => h) (List.subset_append_left _ y.bodies)
    have hy := (ihy guarded (number x guarded next).2).mono (fun _ _ _ h => h)
      (List.subset_append_right x.bodies _)
    exact hx.seq hy
  | alt x y ihx ihy =>
    intro guarded next
    have hx : Passes limit (Expr.alt x y).Matches (Expr.alt x y).bodies
        (number x guarded (next + 1)).1 :=
      (ihx guarded (next + 1)).mono (fun _ _ _ => Or.inl) (List.subset_append_left _ _)
    have hy : Passes limit (Expr.alt x y).Matches (Expr.alt x y).bodies
        (number y guarded (number x guarded (next + 1)).2).1 :=
      (ihy guarded _).mono (fun _ _ _ => Or.inr) (List.subset_append_right _ _)
    exact hx.alt hy ⟨next, guarded⟩
  | rounds least most greedy x ih =>
    intro guarded next
    cases most with
    | none =>
      refine (passes_unbounded (ih (guarded || x.isNullable)) _ greedy least next).le
        (x.Matches.rounds_mono fun count hcount => ⟨hcount, by simp⟩)
    | some most =>
      refine (passes_bounded (ih guarded) guarded greedy least most next).le
        (x.Matches.rounds_mono fun count hcount => ⟨hcount.1, fun m hm => ?_⟩)
      exact Option.some.inj hm ▸ hcount.2
  | group index x ih => exact fun guarded next => (ih guarded next).group index

/-- What a search from a place finds, it has captured where bodies match. -/
theorem Plan.findFrom_captures {plan : Plan} {limit : Nat} {m : Matching}
    {bodies : List (Nat × Expr)} (hplan : Passes limit m bodies plan) :
    ∀ {rest before : List Char} {cursor : Cursor} {refuted : Refuted} {r : Attempt},
      cursor.rest = rest → Attempt.Behind before ⟨cursor, [], []⟩ →
      plan.findFrom limit rest cursor refuted = some r →
      Attempt.Captures bodies (before ++ rest) ⟨cursor, [], []⟩ r := by
  -- a walk that starts at a place captures what bodies match
  have fromHere : ∀ {before : List Char} {cursor : Cursor} {refuted : Refuted} {r : Attempt},
      Attempt.Behind before ⟨cursor, [], []⟩ →
      (plan.walk limit ⟨cursor, [], []⟩ accept refuted).1 = some r →
      Attempt.Captures bodies (before ++ cursor.rest) ⟨cursor, [], []⟩ r := by
    intro before cursor refuted r hbefore h
    obtain ⟨b, known, hb, haccept⟩ := hplan.goesOn h
    obtain ⟨-, -, -, -, hcaptures⟩ := hb before hbefore
    exact Option.some.inj haccept ▸ hcaptures
  intro rest
  induction rest with
  | nil =>
    intro before cursor refuted r hrest hbefore h
    rw [findFrom] at h
    split at h
    · rename_i found known hwalk
      exact hrest ▸ fromHere hbefore (by rw [hwalk]; exact h)
    · simp at h
  | cons c rest ih =>
    intro before cursor refuted r hrest hbefore h
    rw [findFrom] at h
    split at h
    · rename_i found known hwalk
      exact hrest ▸ fromHere hbefore (by rw [hwalk]; exact h)
    · have hadvance : Attempt.Behind (before ++ [c]) ⟨cursor.advance c rest, [], []⟩ := by
        refine ⟨?_, ?_⟩
        · show cursor.position + 1 = (before ++ [c]).length
          rw [List.length_append, List.length_singleton]
          exact congrArg (· + 1) hbefore.1
        · show some c = (before ++ [c]).getLast?
          rw [List.getLast?_concat]
      have hlater := ih (by rfl) hadvance h
      rwa [List.append_assoc] at hlater

/-- **Whatever a search finds, each of its captures is a stretch that the body of its group matches
where it stands.** -/
theorem Expr.matchesAt_of_find {x : Expr} {s : List Char} {captures : List Capture}
    (h : (Plan.ofExpr x).find s = some captures) :
    ∀ capture ∈ captures, ∃ y, (capture.group, y) ∈ x.bodies ∧ y.MatchesAt s capture.span := by
  obtain ⟨r, hr, rfl⟩ := Option.map_eq_some_iff.1 h
  have hstart : Attempt.Behind [] ⟨.start s, [], []⟩ := ⟨rfl, rfl⟩
  have hplan := Plan.passes_number (s.length + 1) x false 0
  obtain ⟨new, hnew, hcaptures⟩ := Plan.findFrom_captures hplan (by rfl) hstart hr
  rw [List.append_nil] at hnew
  rw [hnew]
  exact hcaptures

end Deobfuscation.Regex
