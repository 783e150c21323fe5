import Deobfuscation.Proofs.Regex.Ways

/-!
# What a walk keeps

Whatever a search finds, it finds by walking: from where it stands it goes past characters, past
junctions and past the ends of groups, and then it goes on with what is to follow.  A relation
that holds across each of these steps holds between the beginning and the end of every walk, for
every plan and whatever is refuted.

* `Chains`, `Keeps` — a relation that can be chained past junctions, and one that holds across each
  step of a walk;
* `Plan.walk_keeps` — **proved**: what a walk finds, its continuation finds at a place that the
  relation reaches;
* `Capture.Within`, `Plan.find_within` — **proved**: the captures of a match are stretches of the
  text.
-/

namespace Deobfuscation.Regex

/-- A relation that can be chained and holds past junctions. -/
structure Chains (R : Attempt → Attempt → Prop) : Prop where
  trans : ∀ {a b c}, R a b → R b c → R a c
  pass : ∀ (a : Attempt) (j : Junction), R a (a.pass j)

/-- A lasting relation that holds past junctions too. -/
structure Keeps (R : Attempt → Attempt → Prop) : Prop extends Lasting R where
  pass : ∀ (a : Attempt) (j : Junction), R a (a.pass j)

theorem Keeps.chains {R : Attempt → Attempt → Prop} (hR : Keeps R) : Chains R :=
  ⟨hR.trans, hR.pass⟩

section Steps

variable {next : Continuation} {refuted : Refuted} {r : Attempt}

/-! ### Searches that find something -/

theorem orElse_found {first second : Search} (h : (first.orElse second refuted).1 = some r) :
    (first refuted).1 = some r ∨ ∃ known, (second known).1 = some r := by
  unfold Search.orElse at h
  split at h
  · rename_i found known hfirst
    left
    rw [hfirst]
    exact h
  · rename_i known hfirst
    exact Or.inr ⟨known, h⟩

theorem enter_found {j : Junction} {a : Attempt} {behind : Continuation}
    (h : (enter j a behind refuted).1 = some r) : (behind (a.pass j) refuted).1 = some r := by
  unfold enter at h
  split at h
  · simp at h
  · split at h
    · rename_i found known hbehind
      rw [hbehind]
      exact h
    · simp at h

theorem trySpanStops_found {j : Junction} {stops : List Attempt}
    (h : (trySpanStops j next stops refuted).1 = some r) :
    ∃ b ∈ stops, ∃ known, (next b known).1 = some r := by
  induction stops generalizing refuted with
  | nil => simp [trySpanStops] at h
  | cons a stops ih =>
    rw [trySpanStops] at h
    split at h
    · rename_i found known hnext
      refine ⟨a, List.mem_cons_self, refuted, ?_⟩
      rw [hnext]
      exact h
    · obtain ⟨b, hb, known, hknown⟩ := ih h
      exact ⟨b, List.mem_cons_of_mem a hb, known, hknown⟩

/-! ### The places of a span -/

variable {R : Attempt → Attempt → Prop} {s : CharSet}

/-- A span reaches places that a relation reaches which holds past the characters of its set. -/
theorem mem_spanStops (hR : Chains R)
    (hconsume : ∀ {a : Attempt} {c : Char} {rest : List Char}, a.cursor.rest = c :: rest →
      s.contains c = true → R a (a.consume c rest)) {j : Junction} {b : Attempt} :
    ∀ {rest : List Char} {a : Attempt} {reached : List Attempt}, a.cursor.rest = rest →
      b ∈ spanStops j s refuted rest a reached → R a b ∨ b ∈ reached := by
  intro rest
  induction rest with
  | nil =>
    intro a reached _ hb
    rw [spanStops] at hb
    split at hb
    · exact Or.inr hb
    · rcases List.mem_cons.1 hb with rfl | hold
      · exact Or.inl (hR.pass a j)
      · exact Or.inr hold
  | cons c rest ih =>
    intro a reached hrest hb
    rw [spanStops] at hb
    have here : ∀ {l : List Attempt}, b ∈ a.pass j :: l → R a b ∨ b ∈ l := by
      intro l hl
      rcases List.mem_cons.1 hl with rfl | hold
      · exact Or.inl (hR.pass a j)
      · exact Or.inr hold
    split at hb
    · exact Or.inr hb
    · split at hb
      · rename_i hc
        rcases ih rfl hb with hlater | hmem
        · exact Or.inl (hR.trans (hconsume hrest hc) hlater)
        · exact here hmem
      · exact here hb

theorem growSpan_found (hR : Chains R)
    (hconsume : ∀ {a : Attempt} {c : Char} {rest : List Char}, a.cursor.rest = c :: rest →
      s.contains c = true → R a (a.consume c rest)) {j : Junction} :
    ∀ {rest : List Char} {a : Attempt} {refuted : Refuted}, a.cursor.rest = rest →
      (growSpan j s next rest a refuted).1 = some r →
        ∃ b known, R a b ∧ (next b known).1 = some r := by
  intro rest
  induction rest with
  | nil =>
    intro a refuted _ h
    rw [growSpan] at h
    split at h
    · simp at h
    · split at h
      · rename_i found known hnext
        exact ⟨a.pass j, refuted, hR.pass a j, by rw [hnext]; exact h⟩
      · simp at h
  | cons c rest ih =>
    intro a refuted hrest h
    rw [growSpan] at h
    split at h
    · simp at h
    · split at h
      · rename_i found known hnext
        exact ⟨a.pass j, refuted, hR.pass a j, by rw [hnext]; exact h⟩
      · dsimp only at h
        split at h
        · rename_i hc
          obtain ⟨b, known, hb, hfound⟩ := ih rfl h
          exact ⟨b, known, hR.trans (hconsume hrest hc) hb, hfound⟩
        · simp at h

/-! ### Rounds and plans -/

/-- A search that goes on with a continuation finds what the continuation finds at a place that
the relation reaches. -/
def GoesOn (R : Attempt → Attempt → Prop) (body : Attempt → Continuation → Search) : Prop :=
  ∀ {a : Attempt} {next : Continuation} {refuted : Refuted} {r : Attempt},
    (body a next refuted).1 = some r → ∃ b known, R a b ∧ (next b known).1 = some r

theorem rounds_found (hR : Chains R) {body : Attempt → Continuation → Search}
    (hbody : GoesOn R body) {j : Junction} {greedy : Bool} {bound : Nat} :
    ∀ {a : Attempt} {refuted : Refuted}, (rounds body j greedy next bound a refuted).1 = some r →
      ∃ b known, R a b ∧ (next b known).1 = some r := by
  induction bound with
  | zero =>
    intro a refuted h
    simp [rounds] at h
  | succ bound ih =>
    intro a refuted h
    have hpass := hR.pass a j
    -- a round and then further rounds, from behind the junction
    have again : ∀ {known}, (body (a.pass j) (rounds body j greedy next bound) known).1 = some r →
        ∃ b known, R a b ∧ (next b known).1 = some r := by
      intro known hround
      obtain ⟨c, known', hc, hrest⟩ := hbody hround
      obtain ⟨b, known'', hb, hfound⟩ := ih hrest
      exact ⟨b, known'', hR.trans hpass (hR.trans hc hb), hfound⟩
    rw [rounds] at h
    have hbehind := enter_found h
    split at hbehind
    · rcases orElse_found hbehind with hround | ⟨known, hnext⟩
      · exact again hround
      · exact ⟨a.pass j, known, hpass, hnext⟩
    · rcases orElse_found hbehind with hnext | ⟨known, hround⟩
      · exact ⟨a.pass j, refuted, hpass, hnext⟩
      · exact again hround

/-- **What a walk finds, its continuation finds at a place that the relation reaches.** -/
theorem Plan.walk_keeps (hR : Keeps R) (limit : Nat) (plan : Plan) :
    GoesOn R (plan.walk limit) := by
  induction plan with
  | empty => exact fun {a next refuted r} h => ⟨a, refuted, hR.refl a, h⟩
  | set s =>
    intro a next refuted r h
    rw [walk] at h
    split at h
    · simp at h
    · rename_i c rest hrest
      split at h
      · exact ⟨a.consume c rest, refuted, hR.consume hrest, h⟩
      · simp at h
  | assert p =>
    intro a next refuted r h
    rw [walk] at h
    split at h
    · exact ⟨a, refuted, hR.refl a, h⟩
    · simp at h
  | seq x y ihx ihy =>
    intro a next refuted r h
    obtain ⟨c, known, hc, hy⟩ := ihx h
    obtain ⟨b, known', hb, hfound⟩ := ihy hy
    exact ⟨b, known', hR.trans hc hb, hfound⟩
  | alt j x y ihx ihy =>
    intro a next refuted r h
    rw [walk] at h
    have either : ∃ b known, R (a.pass j) b ∧ (next b known).1 = some r := by
      rcases orElse_found (enter_found h) with hx | ⟨known, hy⟩
      · exact ihx hx
      · exact ihy hy
    obtain ⟨b, known, hb, hfound⟩ := either
    exact ⟨b, known, hR.trans (hR.pass a j) hb, hfound⟩
  | span j greedy s =>
    intro a next refuted r h
    rw [walk] at h
    split at h
    · obtain ⟨b, hmem, known, hfound⟩ := trySpanStops_found h
      rcases mem_spanStops hR.chains (fun hrest _ => hR.consume hrest) rfl hmem with hb | hb
      · exact ⟨b, known, hb, hfound⟩
      · simp at hb
    · exact growSpan_found hR.chains (fun hrest _ => hR.consume hrest) rfl h
  | star j greedy x ih => exact fun {a next refuted r} h => rounds_found hR.chains ih h
  | plus j greedy x ih =>
    intro a next refuted r h
    obtain ⟨c, known, hc, hrounds⟩ := ih h
    obtain ⟨b, known', hb, hfound⟩ := rounds_found hR.chains ih hrounds
    exact ⟨b, known', hR.trans hc hb, hfound⟩
  | group index x ih =>
    intro a next refuted r h
    obtain ⟨b, known, hb, hfound⟩ := ih h
    exact ⟨b.capture index a.cursor.position, known, hR.capture index hb, hfound⟩

end Steps

/-! ### Captures -/

/-- A stretch of a text of the given length. -/
def Span.Within (length : Nat) (span : Span) : Prop :=
  span.start ≤ span.stop ∧ span.stop ≤ length

namespace Attempt

/-- The walk stands in a text of the given length, and so do its captures. -/
structure Inside (length : Nat) (a : Attempt) : Prop where
  place : a.cursor.position + a.cursor.rest.length = length
  captures : ∀ capture ∈ a.captures, capture.span.Within length

theorem keeps_inside (length : Nat) :
    Keeps fun a b => a.Inside length → b.Inside length ∧ a.cursor.position ≤ b.cursor.position where
  refl a ha := ⟨ha, Nat.le_refl _⟩
  trans hab hbc ha := ⟨(hbc (hab ha).1).1, Nat.le_trans (hab ha).2 (hbc (hab ha).1).2⟩
  consume := by
    intro a c rest hrest ha
    refine ⟨⟨?_, ha.captures⟩, Nat.le_succ _⟩
    have hplace := ha.place
    rw [hrest, List.length_cons] at hplace
    show a.cursor.position + 1 + rest.length = length
    omega
  capture := by
    intro a b index hab ha
    obtain ⟨hb, hle⟩ := hab ha
    have hstop : b.cursor.position ≤ length := by
      have := hb.place
      omega
    refine ⟨⟨hb.place, fun capture hmem => ?_⟩, hle⟩
    rcases List.mem_cons.1 hmem with rfl | hold
    · exact ⟨hle, hstop⟩
    · exact hb.captures capture hold
  pass := by
    intro a j ha
    unfold Attempt.pass
    split
    · exact ⟨⟨ha.place, ha.captures⟩, Nat.le_refl _⟩
    · exact ⟨ha, Nat.le_refl _⟩

end Attempt

theorem Plan.findFrom_inside (plan : Plan) (limit length : Nat) :
    ∀ {rest : List Char} {cursor : Cursor} {refuted : Refuted} {r : Attempt},
      cursor.rest = rest → cursor.position + rest.length = length →
      plan.findFrom limit rest cursor refuted = some r → r.Inside length := by
  -- a walk from a place of the text ends in it
  have fromHere : ∀ {cursor : Cursor} {refuted : Refuted} {r : Attempt},
      cursor.position + cursor.rest.length = length →
      (plan.walk limit ⟨cursor, [], []⟩ accept refuted).1 = some r → r.Inside length := by
    intro cursor refuted r hplace h
    obtain ⟨b, known, hb, haccept⟩ := walk_keeps (Attempt.keeps_inside length) limit plan h
    have hbr : b = r := Option.some.inj haccept
    exact hbr ▸ (hb ⟨hplace, by simp⟩).1
  intro rest
  induction rest with
  | nil =>
    intro cursor refuted r hrest hplace h
    rw [findFrom] at h
    split at h
    · rename_i found known hwalk
      exact fromHere (by rw [hrest]; exact hplace) (by rw [hwalk]; exact h)
    · simp at h
  | cons c rest ih =>
    intro cursor refuted r hrest hplace h
    rw [findFrom] at h
    split at h
    · rename_i found known hwalk
      exact fromHere (by rw [hrest]; exact hplace) (by rw [hwalk]; exact h)
    · refine ih (by rfl) ?_ h
      rw [List.length_cons] at hplace
      show cursor.position + 1 + rest.length = length
      omega

/-- **The captures of a match are stretches of the text.** -/
theorem Plan.find_within {plan : Plan} {s : List Char} {captures : List Capture}
    (h : plan.find s = some captures) : ∀ capture ∈ captures, capture.span.Within s.length := by
  obtain ⟨r, hr, rfl⟩ := Option.map_eq_some_iff.1 h
  exact (findFrom_inside plan _ s.length (by rfl) (Nat.zero_add _) hr).captures

/-- What a group captured last is a stretch of the text. -/
theorem Plan.captured?_within {plan : Plan} {s : List Char} {captures : List Capture}
    (h : plan.find s = some captures) {group : Nat} {span : Span}
    (hspan : captured? captures group = some span) : span.Within s.length := by
  obtain ⟨capture, hfind, rfl⟩ := Option.map_eq_some_iff.1 hspan
  exact find_within h capture (List.mem_of_find?_eq_some hfind)

end Deobfuscation.Regex
