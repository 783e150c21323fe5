import Deobfuscation.Proofs.Regex.Refutation

/-!
# A search finds the first way

A plan is **tame** if none of its junctions is guarded and the rounds of its repetitions always
consume a character.  On a tame plan whose junctions have numbers of their own, the search with
its memory finds just what a search without one would: the first of all ways, of the leftmost
place from which there is one.

* `Plan.Tame` — the plans this holds of;
* `growSpan_realises`, `trySpanStops_realises` — **proved**: the two searches through a span of
  characters;
* `walk_realises` — **proved**, one case for each constructor: walking a plan finds the first of
  its ways from which the rest succeeds;
* `find_eq` — **proved**: the captures found in a text are those of the first way.
-/

namespace Deobfuscation.Regex

/-- No junction is guarded, and every round of a repetition consumes a character. -/
def Plan.Tame : Plan → Prop
  | empty | set _ | assert _ => True
  | seq x y => x.Tame ∧ y.Tame
  | alt j x y => j.guarded = false ∧ x.Tame ∧ y.Tame
  | span j _ _ => j.guarded = false
  | star j _ x => j.guarded = false ∧ Consuming x.ways ∧ x.Tame
  | plus j _ x => j.guarded = false ∧ Consuming x.ways ∧ x.Tame
  | group _ x => x.Tame

/-! ### Spans -/

section Spans

variable {text : List Char} {dead : Station → Prop} {j : Junction} {s : CharSet}
variable {next : Continuation} {results : Ways} {goal : Goal}

theorem pass_of_unguarded (hj : j.guarded = false) (a : Attempt) : a.pass j = a := by
  simp [Attempt.pass, hj]

/-- A junction without a guard is closed where it is refuted. -/
theorem closed_or_open {α : Type} (hj : j.guarded = false) (a : Attempt) (refuted : Refuted)
    (x y : α) :
    (if isClosed j a refuted = true then x else y) =
      if a.station j ∈ refuted then x else y := by
  simp [isClosed, Attempt.isGuarded, hj]

/-- What a span has behind it at a place: the way on from the next place, or from this one. -/
theorem flatMap_span (s : CharSet) (results : Ways) (greedy : Bool) (a : Attempt) :
    (unlimited (setWays s) greedy a).flatMap results =
      if greedy then
        ((setWays s a).flatMap (unlimited (setWays s) greedy)).flatMap results ++ results a
      else
        results a ++ ((setWays s a).flatMap (unlimited (setWays s) greedy)).flatMap results := by
  rw [unlimited_unfold (consuming_setWays s)]
  cases greedy <;> simp

theorem setWays_of_rest {a : Attempt} {c : Char} {rest : List Char}
    (h : a.cursor.rest = c :: rest) :
    setWays s a = if s.contains c then [a.consume c rest] else [] := by
  rw [setWays, h]

theorem setWays_cases (s : CharSet) (a : Attempt) :
    setWays s a = [] ∨ ∃ c rest, a.cursor.rest = c :: rest ∧ s.contains c = true ∧
      setWays s a = [a.consume c rest] := by
  cases hrest : a.cursor.rest with
  | nil =>
    left
    rw [setWays, hrest]
  | cons c rest =>
    rw [setWays_of_rest hrest]
    by_cases hc : s.contains c = true
    · exact .inr ⟨c, rest, rfl, hc, if_pos hc⟩
    · exact .inl (if_neg hc)

theorem setWays_of_nil {a : Attempt} (h : a.cursor.rest = []) : setWays s a = [] := by
  rw [setWays, h]

theorem mem_unlimited_self (greedy : Bool) (a : Attempt) :
    a ∈ unlimited (setWays s) greedy a := by
  rw [unlimited_unfold (consuming_setWays s)]
  cases greedy <;> simp

theorem mem_unlimited_of_consume {greedy : Bool} {a b : Attempt} {c : Char} {rest : List Char}
    (hrest : a.cursor.rest = c :: rest) (hc : s.contains c = true)
    (hb : b ∈ unlimited (setWays s) greedy (a.consume c rest)) :
    b ∈ unlimited (setWays s) greedy a := by
  rw [unlimited_unfold (consuming_setWays s), setWays_of_rest hrest, if_pos hc]
  cases greedy <;> simp [hb]

theorem on_consume {a : Attempt} {c : Char} {rest : List Char} (ha : a.On text)
    (hrest : a.cursor.rest = c :: rest) : (a.consume c rest).On text :=
  ((Attempt.lasting_on text).consume hrest ha).1

theorem not_contains_of_stop {a : Attempt} {c : Char} {rest : List Char}
    (hstop : setWays s a = []) (hrest : a.cursor.rest = c :: rest) : s.contains c = false := by
  rw [setWays_of_rest hrest] at hstop
  cases hc : s.contains c with
  | false => rfl
  | true => simp [hc] at hstop

/-- A span that cannot grow is entered like any junction. -/
theorem growSpan_of_stop {a : Attempt} (hstop : setWays s a = []) :
    growSpan j s next a.cursor.rest a = enter j a next := by
  funext refuted
  cases hrest : a.cursor.rest with
  | nil =>
    rw [growSpan, enter]
  | cons c rest =>
    have hc := not_contains_of_stop hstop hrest
    rw [growSpan, enter]
    simp only [hc]
    rfl

/-- The only stop of a span that cannot grow is the place itself. -/
theorem spanStops_of_stop {a : Attempt} {old : Refuted} {reached : List Attempt}
    (hstop : setWays s a = []) :
    spanStops j s old a.cursor.rest a reached =
      if isClosed j a old = true then reached else a.pass j :: reached := by
  cases hrest : a.cursor.rest with
  | nil =>
    rw [spanStops]
  | cons c rest =>
    have hc := not_contains_of_stop hstop hrest
    rw [spanStops]
    simp only [hc]
    rfl

/-- A span that cannot grow has the place itself for its only way. -/
theorem growSpan_realises_of_stop (hj : j.guarded = false) {a : Attempt}
    (hdead : dead (a.station j) ↔ (unlimited (setWays s) false a).flatMap results = [])
    (hstop : setWays s a = [])
    (hnext : Realises dead a.cursor.position (next a) (results a)) :
    Realises dead a.cursor.position (growSpan j s next a.cursor.rest a)
      ((unlimited (setWays s) false a).flatMap results) := by
  have ways := flatMap_span s results false a
  simp only [hstop, List.flatMap_nil, List.append_nil, Bool.false_eq_true, if_false] at ways
  rw [ways] at hdead ⊢
  rw [growSpan_of_stop hstop]
  exact enter_realises hj hdead hnext

/-- **Growing a span finds the first of its ways, nearest first.** -/
theorem growSpan_realises (hj : j.guarded = false)
    (hdead : ∀ a : Attempt, a.On text →
      (dead (a.station j) ↔ (unlimited (setWays s) false a).flatMap results = []))
    (count : Nat) :
    ∀ a : Attempt, a.On text → a.cursor.rest.length = count →
      (∀ b ∈ unlimited (setWays s) false a,
        Realises dead b.cursor.position (next b) (results b)) →
      Realises dead a.cursor.position (growSpan j s next a.cursor.rest a)
        ((unlimited (setWays s) false a).flatMap results) := by
  induction count with
  | zero =>
    intro a ha hcount hnext
    have hstop := setWays_of_nil (s := s) (List.eq_nil_of_length_eq_zero hcount)
    exact growSpan_realises_of_stop hj (hdead a ha) hstop (hnext a (mem_unlimited_self false a))
  | succ count ih =>
    intro a ha hcount hnext
    have ways := flatMap_span s results false a
    have hhere := hdead a ha
    rcases setWays_cases s a with hstop | ⟨c, rest, hrest, hc, hgrow⟩
    · exact growSpan_realises_of_stop hj hhere hstop (hnext a (mem_unlimited_self false a))
    · simp only [hgrow, List.flatMap_cons, List.flatMap_nil, List.append_nil,
        Bool.false_eq_true, if_false] at ways
      rw [ways] at hhere ⊢
      intro refuted hsound
      rw [hrest, growSpan, closed_or_open hj]
      by_cases hclosed : a.station j ∈ refuted
      · rw [if_pos hclosed, hhere.1 (hsound _ hclosed (Nat.le_refl _))]
        exact ⟨rfl, fun _ => .refl refuted⟩
      · rw [if_neg hclosed, pass_of_unguarded hj]
        obtain ⟨hfound, hrefutes⟩ := hnext a (mem_unlimited_self false a) refuted hsound
        cases hrun : next a refuted with
        | mk result refuted' =>
          rw [hrun] at hfound hrefutes
          cases hresults : results a with
          | cons r rs =>
            have hresult : result = some r := by simpa [hresults] using hfound
            rw [hresult]
            exact ⟨rfl, fun h => by simp at h⟩
          | nil =>
            have hresult : result = none := by simpa [hresults] using hfound
            have kept := hrefutes hresults
            rw [hresults, List.nil_append] at hhere
            rw [hresult]
            -- the junction is refuted here before the span has grown, so the search beyond
            -- may only trust what is refuted further on
            have beyond : SoundFrom dead (a.consume c rest).cursor.position
                (refuted'.insert (a.station j)) :=
              (kept.soundFrom hsound).insert_before (Nat.le_succ _) (Nat.lt_succ_self _)
            have shorter : (a.consume c rest).cursor.rest.length = count := by
              rw [hrest] at hcount
              exact Nat.succ.inj hcount
            obtain ⟨hfound', hrefutes'⟩ := ih (a.consume c rest) (on_consume ha hrest) shorter
              (fun b hb => hnext b (mem_unlimited_of_consume hrest hc hb)) _ beyond
            simp only [hc, if_true, List.nil_append]
            exact ⟨hfound', fun h => (kept.insert (hhere.2 h)).trans (hrefutes' h)⟩

/-- Trying the stops from a place on has come to an end: either the first way on was found, or
there is none and the stops reached before are tried next. -/
def Ended (dead : Station → Prop) (j : Junction) (next : Continuation) (found : Found)
    (ways reached : List Attempt) (refuted : Refuted) : Prop :=
  (ways ≠ [] ∧ found.1 = ways.head?) ∨
    (ways = [] ∧ ∃ refuted', RefutesDead dead refuted refuted' ∧
      found = trySpanStops j next reached refuted')

/-- The furthest of the stops is tried after all beyond it have failed. -/
theorem ended_cons {a : Attempt} {reached beyond : List Attempt} {refuted : Refuted} {start : Nat}
    (hstart : start ≤ a.cursor.position) (hhere : dead (a.station j) ↔ beyond ++ results a = [])
    (hnext : Realises dead a.cursor.position (next a) (results a))
    (hsound : SoundFrom dead start refuted) {found : Found}
    (hbeyond : Ended dead j next found beyond (a :: reached) refuted) :
    Ended dead j next found (beyond ++ results a) reached refuted := by
  rcases hbeyond with ⟨hne, hfound⟩ | ⟨rfl, refuted', kept, rfl⟩
  · refine .inl ⟨by simp [hne], ?_⟩
    rw [hfound, List.head?_append_of_ne_nil _ hne]
  · have hsound' := (kept.soundFrom hsound).mono hstart
    obtain ⟨hfound, hrefutes⟩ := hnext refuted' hsound'
    rw [List.nil_append] at hhere ⊢
    rw [trySpanStops]
    cases hrun : next a refuted' with
    | mk result refuted'' =>
      rw [hrun] at hfound hrefutes
      cases hresults : results a with
      | cons r rs =>
        have hresult : result = some r := by simpa [hresults] using hfound
        rw [hresult]
        exact .inl ⟨by simp, rfl⟩
      | nil =>
        have hresult : result = none := by simpa [hresults] using hfound
        rw [hresult]
        exact .inr ⟨rfl, _, kept.trans ((hrefutes hresults).insert (hhere.2 hresults)), rfl⟩

theorem ended_of_stop (hj : j.guarded = false)
    (hdead : ∀ a : Attempt, a.On text →
      (dead (a.station j) ↔ (unlimited (setWays s) true a).flatMap results = []))
    {start : Nat} {old refuted : Refuted} (hold : SoundFrom dead start old) {a : Attempt}
    {reached : List Attempt} (hstop : setWays s a = []) (ha : a.On text)
    (hstart : start ≤ a.cursor.position) (hsound : SoundFrom dead start refuted)
    (hnext : Realises dead a.cursor.position (next a) (results a)) :
    Ended dead j next (trySpanStops j next (spanStops j s old a.cursor.rest a reached) refuted)
      ((unlimited (setWays s) true a).flatMap results) reached refuted := by
  have ways := flatMap_span s results true a
  have hhere := hdead a ha
  simp only [hstop, List.flatMap_nil, if_true] at ways
  rw [ways] at hhere ⊢
  rw [spanStops_of_stop hstop, closed_or_open hj]
  split
  · rename_i hclosed
    exact .inr ⟨hhere.1 (hold _ hclosed hstart), refuted, .refl refuted, rfl⟩
  · rw [pass_of_unguarded hj]
    exact ended_cons hstart hhere hnext hsound (.inr ⟨rfl, refuted, .refl refuted, rfl⟩)

theorem ended_spanStops (hj : j.guarded = false)
    (hdead : ∀ a : Attempt, a.On text →
      (dead (a.station j) ↔ (unlimited (setWays s) true a).flatMap results = []))
    {start : Nat} {old : Refuted} (hold : SoundFrom dead start old) (count : Nat) :
    ∀ (a : Attempt) (reached : List Attempt) (refuted : Refuted), a.On text →
      a.cursor.rest.length ≤ count → start ≤ a.cursor.position → SoundFrom dead start refuted →
      (∀ b ∈ unlimited (setWays s) true a,
        Realises dead b.cursor.position (next b) (results b)) →
      Ended dead j next (trySpanStops j next (spanStops j s old a.cursor.rest a reached) refuted)
        ((unlimited (setWays s) true a).flatMap results) reached refuted := by
  induction count with
  | zero =>
    intro a reached refuted ha hcount hstart hsound hnext
    have hrest : a.cursor.rest = [] := List.eq_nil_of_length_eq_zero (by omega)
    exact ended_of_stop hj hdead hold (setWays_of_nil hrest) ha hstart hsound
      (hnext a (mem_unlimited_self true a))
  | succ count ih =>
    intro a reached refuted ha hcount hstart hsound hnext
    have hself := hnext a (mem_unlimited_self true a)
    rcases setWays_cases s a with hstop | ⟨c, rest, hrest, hc, hgrow⟩
    · exact ended_of_stop hj hdead hold hstop ha hstart hsound hself
    · have ways := flatMap_span s results true a
      have hhere := hdead a ha
      simp only [hgrow, List.flatMap_cons, List.flatMap_nil, List.append_nil, if_true] at ways
      rw [ways] at hhere ⊢
      rw [hrest, spanStops, closed_or_open hj]
      split
      · rename_i hclosed
        exact .inr ⟨hhere.1 (hold _ hclosed hstart), refuted, .refl refuted, rfl⟩
      · rw [pass_of_unguarded hj]
        have shorter : (a.consume c rest).cursor.rest.length ≤ count := by
          rw [hrest] at hcount
          exact Nat.le_of_succ_le_succ hcount
        exact ended_cons hstart hhere hself hsound
          (ih (a.consume c rest) (a :: reached) refuted (on_consume ha hrest) shorter
            (Nat.le_succ_of_le hstart) hsound
            (fun b hb => hnext b (mem_unlimited_of_consume hrest hc hb)))

/-- **Trying the stops of a span finds the first of its ways, furthest first.** -/
theorem trySpanStops_realises (hj : j.guarded = false)
    (hdead : ∀ a : Attempt, a.On text →
      (dead (a.station j) ↔ (unlimited (setWays s) true a).flatMap results = []))
    {a : Attempt} (ha : a.On text)
    (hnext : ∀ b ∈ unlimited (setWays s) true a,
      Realises dead b.cursor.position (next b) (results b)) :
    Realises dead a.cursor.position
      (fun refuted => trySpanStops j next (spanStops j s refuted a.cursor.rest a []) refuted)
      ((unlimited (setWays s) true a).flatMap results) := by
  intro refuted hsound
  rcases ended_spanStops hj hdead hsound _ a [] refuted ha (Nat.le_refl _) (Nat.le_refl _) hsound
      hnext with
    ⟨hne, hfound⟩ | ⟨hnil, refuted', kept, hrun⟩
  · exact ⟨hfound, fun h => absurd h hne⟩
  · show (trySpanStops _ _ _ _).1 = _ ∧ (_ → RefutesDead dead refuted (trySpanStops _ _ _ _).2)
    rw [hrun, hnil]
    exact ⟨rfl, fun _ => kept⟩

end Spans

/-! ### Walks -/

theorem Agrees.append {text : List Char} {dead : Station → Prop} {xs ys : List (Nat × Goal)}
    (h : Agrees text dead (xs ++ ys)) : Agrees text dead xs ∧ Agrees text dead ys :=
  ⟨fun exit hexit => h exit (List.mem_append_left ys hexit),
    fun exit hexit => h exit (List.mem_append_right xs hexit)⟩

/-- A junction is dead where nothing follows it. -/
theorem Agrees.dead_iff {text : List Char} {dead : Station → Prop} {j : Junction} {goal : Goal}
    {behind : List (Nat × Goal)} {results : Ways} (h : Agrees text dead ((j.id, goal) :: behind))
    (hmeets : Meets text results goal) (a : Attempt) (ha : a.On text) :
    dead (a.station j) ↔ results a = [] := by
  have hexit : dead (a.station j) ↔ ¬ goal a.cursor :=
    h (j.id, goal) List.mem_cons_self a ha
  rw [hexit, ← hmeets a ha, not_not]

/-- **Rounds of a body find the first of their ways.**  The bound is no limit as long as it
exceeds the number of characters left. -/
theorem rounds_realises {text : List Char} {dead : Station → Prop} {j : Junction} {greedy : Bool}
    {ways results : Ways} {body : Attempt → Continuation → Search} {next : Continuation}
    (hj : j.guarded = false) (hways : Consuming ways)
    (hstays : ∀ a, ∀ b ∈ ways a, a.On text → b.On text)
    (hdead : ∀ a : Attempt, a.On text →
      (dead (a.station j) ↔ (unlimited ways greedy a).flatMap results = []))
    (hbody : ∀ (a : Attempt) (next : Continuation), a.On text →
      (∀ b ∈ ways a, Realises dead b.cursor.position (next b)
        ((unlimited ways greedy b).flatMap results)) →
      Realises dead a.cursor.position (body a next)
        ((ways a).flatMap fun b => (unlimited ways greedy b).flatMap results))
    (bound : Nat) :
    ∀ a : Attempt, a.On text → a.cursor.rest.length < bound →
      (∀ b ∈ unlimited ways greedy a, Realises dead b.cursor.position (next b) (results b)) →
      Realises dead a.cursor.position (rounds body j greedy next bound a)
        ((unlimited ways greedy a).flatMap results) := by
  induction bound with
  | zero =>
    intro a ha hbound
    omega
  | succ bound ih =>
    intro a ha hbound hnext
    have unfolded := unlimited_unfold hways greedy a
    have hself : a ∈ unlimited ways greedy a := by
      rw [unfolded]
      cases greedy <;> simp
    have more := hbody a (rounds body j greedy next bound) ha fun b hb => by
      have shorter := hways a b hb
      refine ih b (hstays a b hb ha) (by omega) fun c hc => hnext c ?_
      have : c ∈ (ways a).flatMap (unlimited ways greedy) := List.mem_flatMap.2 ⟨b, hb, hc⟩
      rw [unfolded]
      cases greedy <;> simp [this]
    refine enter_realises hj (hdead a ha) ?_
    rw [unfolded]
    cases greedy with
    | true =>
      simp only [if_true, List.flatMap_append, List.flatMap_assoc, List.flatMap_singleton]
      exact orElse_realises more (hnext a hself)
    | false =>
      simp only [Bool.false_eq_true, if_false, List.flatMap_cons, List.flatMap_assoc]
      exact orElse_realises (hnext a hself) more

/-- A character of a set is consumed, or there is no way on. -/
theorem set_realises {dead : Station → Prop} {limit : Nat} {s : CharSet} {results : Ways}
    {next : Continuation} {a : Attempt}
    (hnext : ∀ b ∈ setWays s a, Realises dead b.cursor.position (next b) (results b)) :
    Realises dead a.cursor.position ((Plan.set s).walk limit a next)
      ((setWays s a).flatMap results) := by
  intro refuted hsound
  rcases setWays_cases s a with hstop | ⟨c, rest, hrest, hc, hgrow⟩
  · have hwalk : (Plan.set s).walk limit a next refuted = (none, refuted) := by
      cases hrest : a.cursor.rest with
      | nil => simp [Plan.walk, hrest]
      | cons c rest => simp [Plan.walk, hrest, not_contains_of_stop hstop hrest]
    rw [hwalk, hstop]
    exact ⟨rfl, fun _ => .refl refuted⟩
  · have hwalk : (Plan.set s).walk limit a next refuted = next (a.consume c rest) refuted := by
      simp [Plan.walk, hrest, hc]
    have further := hnext (a.consume c rest) (by rw [hgrow]; exact List.mem_singleton_self _)
    rw [hwalk, hgrow, List.flatMap_singleton]
    exact further.mono (Nat.le_succ _) refuted hsound

/-- **Walking a tame plan finds the first of its ways from which the rest succeeds.** -/
theorem Plan.walk_realises {text : List Char} {dead : Station → Prop} {limit : Nat}
    (hlimit : text.length < limit) (x : Plan) :
    ∀ {goal : Goal} {results : Ways} {next : Continuation} {a : Attempt}, x.Tame → a.On text →
      Agrees text dead (x.behind goal) → Meets text results goal →
      (∀ b ∈ x.ways a, Realises dead b.cursor.position (next b) (results b)) →
      Realises dead a.cursor.position (x.walk limit a next) ((x.ways a).flatMap results) := by
  induction x with
  | empty =>
    intro goal results next a _ _ _ _ hnext
    simpa [ways, walk] using hnext a (by simp [ways])
  | set s =>
    intro goal results next a _ _ _ _ hnext
    exact set_realises hnext
  | assert p =>
    intro goal results next a _ _ _ _ hnext refuted hsound
    simp only [ways, walk] at hnext ⊢
    split
    · rename_i hholds
      rw [List.flatMap_singleton]
      exact hnext a (by rw [if_pos hholds]; exact List.mem_singleton_self _) refuted hsound
    · exact ⟨rfl, fun _ => .refl refuted⟩
  | seq x y ihx ihy =>
    intro goal results next a hx ha hagrees hmeets hnext
    obtain ⟨hagreesx, hagreesy⟩ := hagrees.append
    have hmeetsy := hmeets.flatMap y.placed_ways (y.stays text)
    have second : ∀ b ∈ x.ways a, Realises dead b.cursor.position (y.walk limit b next)
        ((y.ways b).flatMap results) :=
      fun b hb => ihy hx.2 (x.stays text a b hb ha) hagreesy hmeets
        fun c hc => hnext c (List.mem_flatMap.2 ⟨b, hb, hc⟩)
    rw [ways, List.flatMap_assoc]
    show Realises dead a.cursor.position (x.walk limit a fun b => y.walk limit b next) _
    exact ihx hx.1 ha hagreesx hmeetsy second
  | alt j x y ihx ihy =>
    intro goal results next a hx ha hagrees hmeets hnext
    have hdead := hagrees.dead_iff
      (hmeets.flatMap (alt j x y).placed_ways ((alt j x y).stays text)) a ha
    obtain ⟨hagreesx, hagreesy⟩ :=
      Agrees.append fun exit hexit => hagrees exit (List.mem_cons_of_mem _ hexit)
    have first := ihx hx.2.1 ha hagreesx hmeets
      fun b hb => hnext b (List.mem_append_left _ hb)
    have second := ihy hx.2.2 ha hagreesy hmeets
      fun b hb => hnext b (List.mem_append_right _ hb)
    refine enter_realises hx.1 hdead ?_
    rw [ways, List.flatMap_append]
    exact orElse_realises first second
  | span j greedy s =>
    intro goal results next a hj ha hagrees hmeets hnext
    have hdead := hagrees.dead_iff
      (hmeets.flatMap (span j greedy s).placed_ways ((span j greedy s).stays text))
    cases greedy with
    | true => exact trySpanStops_realises hj hdead ha hnext
    | false => exact growSpan_realises hj hdead _ a ha rfl hnext
  | star j greedy x ih =>
    intro goal results next a hx ha hagrees hmeets hnext
    have hmeets' := hmeets.flatMap (star j greedy x).placed_ways ((star j greedy x).stays text)
    have hagrees' : Agrees text dead (x.behind ((star j greedy x).Reaches goal)) :=
      fun exit hexit => hagrees exit (List.mem_cons_of_mem _ hexit)
    have hrest := ha.rest_length
    exact rounds_realises hx.1 hx.2.1 (x.stays text) (hagrees.dead_iff hmeets')
      (fun b next hb hnext => ih hx.2.2 hb hagrees' hmeets' hnext) limit a ha (by omega) hnext
  | plus j greedy x ih =>
    intro goal results next a hx ha hagrees hmeets hnext
    have hmeets' := hmeets.flatMap (star j greedy x).placed_ways ((star j greedy x).stays text)
    have hagrees' : Agrees text dead (x.behind ((star j greedy x).Reaches goal)) :=
      fun exit hexit => hagrees exit (List.mem_cons_of_mem _ hexit)
    have more : ∀ b ∈ x.ways a, Realises dead b.cursor.position
        (rounds (x.walk limit) j greedy next limit b)
        ((unlimited x.ways greedy b).flatMap results) := by
      intro b hb
      have hb' := x.stays text a b hb ha
      have hrest := hb'.rest_length
      exact rounds_realises hx.1 hx.2.1 (x.stays text) (hagrees.dead_iff hmeets')
        (fun c next hc hnext => ih hx.2.2 hc hagrees' hmeets' hnext) limit b hb' (by omega)
        fun c hc => hnext c (List.mem_flatMap.2 ⟨b, hb, hc⟩)
    rw [ways, List.flatMap_assoc]
    show Realises dead a.cursor.position
      (x.walk limit a (rounds (x.walk limit) j greedy next limit)) _
    exact ih hx.2.2 ha hagrees' hmeets' more
  | group index x ih =>
    intro goal results next a hx ha hagrees hmeets hnext
    have hmeets' : Meets text (fun b => results (b.capture index a.cursor.position)) goal :=
      fun b hb => hmeets (b.capture index a.cursor.position) hb
    rw [ways, List.flatMap_map]
    show Realises dead a.cursor.position
      (x.walk limit a fun b => next (b.capture index a.cursor.position)) _
    exact ih hx ha hagrees hmeets' fun b hb => hnext _ (List.mem_map_of_mem hb)

/-! ### The first match -/

/-- The places of a text from which a match may begin, from one of them on. -/
def startsFrom : List Char → Cursor → List Attempt
  | [], cursor => [⟨cursor, [], []⟩]
  | c :: rest, cursor => ⟨cursor, [], []⟩ :: startsFrom rest (cursor.advance c rest)

/-- The places of a text from which a match may begin. -/
def starts (text : List Char) : List Attempt := startsFrom text (.start text)

theorem Plan.findFrom_eq {text : List Char} {dead : Station → Prop} {plan : Plan} {goal : Goal}
    (htame : plan.Tame) (hagrees : Agrees text dead (plan.behind goal))
    (hmeets : Meets text (fun a => [a]) goal) (rest : List Char) :
    ∀ (cursor : Cursor) (refuted : Refuted), Attempt.On text ⟨cursor, [], []⟩ →
      cursor.rest = rest → SoundFrom dead cursor.position refuted →
      plan.findFrom (text.length + 1) rest cursor refuted =
        ((startsFrom rest cursor).flatMap plan.ways).head? := by
  have hwalk : ∀ {cursor : Cursor}, Attempt.On text ⟨cursor, [], []⟩ →
      Realises dead cursor.position (plan.walk (text.length + 1) ⟨cursor, [], []⟩ accept)
        ((plan.ways ⟨cursor, [], []⟩).flatMap fun a => [a]) := fun hon =>
    plan.walk_realises (Nat.lt_succ_self _) htame hon hagrees hmeets
      fun b _ refuted _ => ⟨rfl, fun h => by simp at h⟩
  induction rest with
  | nil =>
    intro cursor refuted hon _ hsound
    obtain ⟨hfound, -⟩ := hwalk hon refuted hsound
    simp only [List.flatMap_singleton'] at hfound
    rw [findFrom, startsFrom, List.flatMap_singleton, ← hfound]
    cases plan.walk (text.length + 1) ⟨cursor, [], []⟩ accept refuted with
    | mk result refuted' => cases result <;> rfl
  | cons c rest ih =>
    intro cursor refuted hon hrest hsound
    obtain ⟨hfound, hrefutes⟩ := hwalk hon refuted hsound
    simp only [List.flatMap_singleton'] at hfound hrefutes
    rw [findFrom, startsFrom, List.flatMap_cons]
    cases hrun : plan.walk (text.length + 1) ⟨cursor, [], []⟩ accept refuted with
    | mk result refuted' =>
      rw [hrun] at hfound hrefutes
      cases hways : plan.ways ⟨cursor, [], []⟩ with
      | cons b bs =>
        have hresult : result = some b := by simpa [hways] using hfound
        rw [hresult]
        rfl
      | nil =>
        have hresult : result = none := by simpa [hways] using hfound
        have hon' : Attempt.On text ⟨cursor.advance c rest, [], []⟩ :=
          on_consume (a := ⟨cursor, [], []⟩) hon hrest
        rw [hresult, List.nil_append]
        exact ih (cursor.advance c rest) refuted' hon' rfl
          (((hrefutes hways).soundFrom hsound).mono (Nat.le_succ _))

/-- **The captures found in a text are those of the first way**, of the leftmost place from which
there is one. -/
theorem Plan.find_eq {plan : Plan} (htame : plan.Tame) (hnodup : plan.junctions.Nodup)
    (text : List Char) :
    plan.find text = ((starts text).flatMap plan.ways).head?.map Attempt.captures := by
  have hmeets : Meets text (fun a => [a]) fun _ => True := fun b _ => by simp
  obtain ⟨dead, hagrees⟩ := exists_agrees text (plan.behind fun _ => True)
    (by rw [plan.map_fst_behind]; exact hnodup)
  rw [find, findFrom_eq htame hagrees hmeets text (.start text) ∅ ⟨[], rfl, rfl, rfl⟩ rfl
    (fun station h => absurd h Std.TreeSet.not_mem_emptyc)]
  rfl

end Deobfuscation.Regex
