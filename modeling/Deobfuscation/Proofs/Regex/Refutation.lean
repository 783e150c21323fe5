import Deobfuscation.Proofs.Regex.Ways

/-!
# What a search remembers

A search does not enter a junction again at a position where it has failed.  This is right
because what follows a junction depends on the place alone, and never on the captures made before
it: a junction that is refuted at a position leads nowhere from there, whichever way it is
reached.

While a repetition that prefers few rounds is still trying, its junction is already refuted at the
positions it has left behind.  So the refuted junctions are only trusted from the position of the
walk on; a walk never goes back.

* `Attempt.On` — the walk stands in a given text;
* `Plan.Reaches` — a plan leads from a place to a goal;
* `Plan.behind` — the junctions of a plan, each with the places that it leads on from;
* `Realises` — a search finds the first of given results and refutes only what is dead;
* `orElse_realises`, `enter_realises` — **proved**: the two ways in which searches are composed;
* `exists_agrees` — **proved**: where junctions have numbers of their own, whether a junction is
  dead at a position is well defined.
-/

namespace Deobfuscation.Regex

/-! ### Places in a text -/

/-- The walk stands in a text. -/
def Attempt.On (text : List Char) (a : Attempt) : Prop :=
  ∃ before, text = before ++ a.cursor.rest ∧ a.cursor.position = before.length ∧
    a.cursor.before = before.getLast?

namespace Attempt

theorem On.rest_length {text : List Char} {a : Attempt} (h : a.On text) :
    a.cursor.position + a.cursor.rest.length = text.length := by
  obtain ⟨before, htext, hposition, -⟩ := h
  rw [htext, hposition, List.length_append]

/-- A position of a text is the position of one place. -/
theorem On.cursor_eq {text : List Char} {a b : Attempt} (ha : a.On text) (hb : b.On text)
    (h : a.cursor.position = b.cursor.position) : a.cursor = b.cursor := by
  obtain ⟨before, htext, hposition, hbefore⟩ := ha
  obtain ⟨before', htext', hposition', hbefore'⟩ := hb
  have parts := List.append_inj (htext.symm.trans htext') (by omega)
  obtain ⟨rfl, hrest⟩ := parts
  cases hca : a.cursor
  cases hcb : b.cursor
  simp_all

/-- Walks stay in their text and do not go back. -/
theorem lasting_on (text : List Char) :
    Lasting fun a b => a.On text → b.On text ∧ a.cursor.position ≤ b.cursor.position where
  refl a ha := ⟨ha, Nat.le_refl _⟩
  trans hab hbc ha := ⟨(hbc (hab ha).1).1, Nat.le_trans (hab ha).2 (hbc (hab ha).1).2⟩
  consume := by
    rintro a c rest h ⟨before, htext, hposition, -⟩
    refine ⟨⟨before ++ [c], ?_, ?_, ?_⟩, Nat.le_succ _⟩
    · show text = (before ++ [c]) ++ rest
      rw [htext, h]
      simp
    · show a.cursor.position + 1 = (before ++ [c]).length
      rw [hposition]
      simp
    · simp [Cursor.advance]
  capture index h := h

end Attempt

/-! ### Captures make no difference -/

/-- Where the ways lead depends on the place alone. -/
def Placed (body : Ways) : Prop :=
  ∀ a : Attempt, (body a).map Attempt.cursor = (body ⟨a.cursor, [], []⟩).map Attempt.cursor

theorem Placed.congr {body : Ways} (h : Placed body) {a b : Attempt} (hab : a.cursor = b.cursor) :
    (body a).map Attempt.cursor = (body b).map Attempt.cursor := by
  rw [h a, h b, hab]

theorem Placed.flatMap {first second : Ways} (hfirst : Placed first) (hsecond : Placed second) :
    Placed fun a => (first a).flatMap second := by
  intro a
  have through : ∀ l : List Attempt, (l.flatMap second).map Attempt.cursor =
      (l.map Attempt.cursor).flatMap fun c => (second ⟨c, [], []⟩).map Attempt.cursor := by
    intro l
    rw [List.map_flatMap, List.flatMap_map]
    exact List.flatMap_congr fun b _ => hsecond b
  rw [through, through, hfirst a]

theorem placed_setWays (s : CharSet) : Placed (setWays s) := by
  intro a
  unfold setWays
  cases a.cursor.rest with
  | nil => rfl
  | cons c rest =>
    show List.map _ (if s.contains c then _ else _) = List.map _ (if s.contains c then _ else _)
    split <;> rfl

theorem Placed.upTo {body : Ways} (h : Placed body) (greedy : Bool) (count : Nat) :
    Placed (upTo body greedy count) := by
  induction count with
  | zero => exact fun a => rfl
  | succ count ih =>
    intro a
    have more := h.flatMap ih a
    simp only [Regex.upTo]
    cases greedy with
    | true => simpa using more
    | false => simpa using more

theorem Placed.unlimited {body : Ways} (h : Placed body) (greedy : Bool) :
    Placed (unlimited body greedy) :=
  fun a => h.upTo greedy a.cursor.rest.length a

theorem Plan.placed_ways (x : Plan) : Placed x.ways := by
  induction x with
  | empty => exact fun a => rfl
  | set s => exact placed_setWays s
  | assert p =>
    intro a
    simp only [ways]
    split <;> rfl
  | seq x y ihx ihy => exact ihx.flatMap ihy
  | alt j x y ihx ihy =>
    intro a
    simp only [ways, List.map_append]
    rw [ihx a, ihy a]
  | span j greedy s => exact (placed_setWays s).unlimited greedy
  | star j greedy x ih => exact ih.unlimited greedy
  | plus j greedy x ih => exact ih.flatMap (ih.unlimited greedy)
  | group index x ih =>
    intro a
    simp only [ways, List.map_map]
    exact ih a

/-! ### Goals -/

/-- The places from which the rest of a search finds something. -/
abbrev Goal := Cursor → Prop

/-- Some way leads to a goal. -/
def LeadsTo (body : Ways) (goal : Goal) : Goal := fun c => ∃ b ∈ body ⟨c, [], []⟩, goal b.cursor

/-- A plan leads from a place to a goal. -/
abbrev Plan.Reaches (x : Plan) (goal : Goal) : Goal := LeadsTo x.ways goal

theorem Placed.leadsTo_iff {body : Ways} (h : Placed body) (goal : Goal) (a : Attempt) :
    LeadsTo body goal a.cursor ↔ ∃ b ∈ body a, goal b.cursor := by
  have same : ∀ l : List Attempt,
      (∃ b ∈ l, goal b.cursor) ↔ ∃ c ∈ l.map Attempt.cursor, goal c := by
    intro l
    simp
  rw [LeadsTo, same, same, h a]

/-- What follows has results exactly at the goal. -/
def Meets (text : List Char) (next : Ways) (goal : Goal) : Prop :=
  ∀ b : Attempt, b.On text → (next b ≠ [] ↔ goal b.cursor)

theorem Meets.flatMap {text : List Char} {body next : Ways} {goal : Goal} (hplaced : Placed body)
    (hstays : ∀ a, ∀ b ∈ body a, a.On text → b.On text) (h : Meets text next goal) :
    Meets text (fun a => (body a).flatMap next) (LeadsTo body goal) := by
  intro a ha
  rw [hplaced.leadsTo_iff]
  constructor
  · intro hne
    obtain ⟨r, hr⟩ := List.exists_mem_of_ne_nil _ hne
    obtain ⟨b, hb, hrb⟩ := List.mem_flatMap.1 hr
    exact ⟨b, hb, (h b (hstays a b hb ha)).1 (List.ne_nil_of_mem hrb)⟩
  · rintro ⟨b, hb, hgoal⟩ hnil
    have := (h b (hstays a b hb ha)).2 hgoal
    exact this (List.flatMap_eq_nil_iff.1 hnil b hb)

theorem Plan.stays (x : Plan) (text : List Char) : ∀ a, ∀ b ∈ x.ways a, a.On text → b.On text :=
  fun a b hb ha => ((Attempt.lasting_on text).planWays x a b hb ha).1

/-! ### What lies behind a junction -/

/-- The junctions of a plan in front of a goal, each with the places that it leads on from. -/
def Plan.behind : Plan → Goal → List (Nat × Goal)
  | empty, _ | set _, _ | assert _, _ => []
  | seq x y, goal => x.behind (y.Reaches goal) ++ y.behind goal
  | alt j x y, goal => (j.id, (alt j x y).Reaches goal) :: (x.behind goal ++ y.behind goal)
  | span j greedy s, goal => [(j.id, (span j greedy s).Reaches goal)]
  | star j greedy x, goal =>
    (j.id, (star j greedy x).Reaches goal) :: x.behind ((star j greedy x).Reaches goal)
  | plus j greedy x, goal =>
    (j.id, (star j greedy x).Reaches goal) :: x.behind ((star j greedy x).Reaches goal)
  | group _ x, goal => x.behind goal

theorem Plan.map_fst_behind (x : Plan) : ∀ goal, (x.behind goal).map Prod.fst = x.junctions := by
  induction x with
  | empty => intro goal; rfl
  | set s => intro goal; rfl
  | assert p => intro goal; rfl
  | seq x y ihx ihy => intro goal; simp [behind, junctions, ihx, ihy]
  | alt j x y ihx ihy => intro goal; simp [behind, junctions, ihx, ihy]
  | span j greedy s => intro goal; rfl
  | star j greedy x ih => intro goal; simp [behind, junctions, ih]
  | plus j greedy x ih => intro goal; simp [behind, junctions, ih]
  | group index x ih => intro goal; simp [behind, junctions, ih]

/-- The dead stations are those behind which nothing leads to the goal. -/
def Agrees (text : List Char) (dead : Station → Prop) (behind : List (Nat × Goal)) : Prop :=
  ∀ exit ∈ behind, ∀ a : Attempt, a.On text →
    (dead ⟨a.cursor.position, exit.1⟩ ↔ ¬ exit.2 a.cursor)

/-- **Where junctions have numbers of their own, whether a junction is dead at a position is well
defined.** -/
theorem exists_agrees (text : List Char) (behind : List (Nat × Goal))
    (hnodup : (behind.map Prod.fst).Nodup) : ∃ dead, Agrees text dead behind := by
  refine ⟨fun station => ∃ exit ∈ behind, exit.1 = station.junction ∧ ∃ a : Attempt,
    a.On text ∧ a.cursor.position = station.position ∧ ¬ exit.2 a.cursor, ?_⟩
  intro exit hexit a ha
  constructor
  · rintro ⟨other, hother, hid, b, hb, hposition, hdead⟩
    have same : other = exit := List.inj_on_of_nodup_map hnodup hother hexit hid
    rw [← same, ha.cursor_eq hb hposition.symm]
    exact hdead
  · intro hdead
    exact ⟨exit, hexit, rfl, a, ha, rfl, hdead⟩

/-! ### Searches and their results -/

/-- From a position on, only dead stations are refuted. -/
def SoundFrom (dead : Station → Prop) (position : Nat) (refuted : Refuted) : Prop :=
  ∀ station ∈ refuted, position ≤ station.position → dead station

theorem SoundFrom.mono {dead : Station → Prop} {p q : Nat} {refuted : Refuted}
    (h : SoundFrom dead p refuted) (hpq : p ≤ q) : SoundFrom dead q refuted :=
  fun station hmem hq => h station hmem (Nat.le_trans hpq hq)

/-- What is refuted behind a position may be trusted or not. -/
theorem SoundFrom.insert_before {dead : Station → Prop} {p q : Nat} {refuted : Refuted}
    {station : Station} (h : SoundFrom dead p refuted) (hpq : p ≤ q)
    (hstation : station.position < q) : SoundFrom dead q (refuted.insert station) := by
  intro other hmem hq
  rw [Std.TreeSet.mem_insert] at hmem
  rcases hmem with heq | hmem
  · rw [Std.LawfulEqOrd.compare_eq_iff_eq] at heq
    subst heq
    omega
  · exact h other hmem (by omega)

/-- All that is refuted was refuted before, or is dead. -/
def RefutesDead (dead : Station → Prop) (old new : Refuted) : Prop :=
  ∀ station ∈ new, station ∈ old ∨ dead station

namespace RefutesDead

variable {dead : Station → Prop} {old mid new : Refuted}

theorem refl (old : Refuted) : RefutesDead dead old old := fun _ h => .inl h

theorem trans (h : RefutesDead dead old mid) (h' : RefutesDead dead mid new) :
    RefutesDead dead old new := by
  intro station hmem
  rcases h' station hmem with hmid | hdead
  · exact h station hmid
  · exact .inr hdead

theorem insert (h : RefutesDead dead old new) {station : Station} (hdead : dead station) :
    RefutesDead dead old (new.insert station) := by
  intro other hmem
  rw [Std.TreeSet.mem_insert] at hmem
  rcases hmem with heq | hmem
  · rw [Std.LawfulEqOrd.compare_eq_iff_eq] at heq
    exact .inr (heq ▸ hdead)
  · exact h other hmem

theorem soundFrom (h : RefutesDead dead old new) {p : Nat} (hsound : SoundFrom dead p old) :
    SoundFrom dead p new := by
  intro station hmem hp
  rcases h station hmem with hold | hdead
  · exact hsound station hold hp
  · exact hdead

end RefutesDead

/-- A search at a position finds the first of the results, and where there are none it refutes
only dead stations. -/
def Realises (dead : Station → Prop) (position : Nat) (search : Search)
    (results : List Attempt) : Prop :=
  ∀ refuted, SoundFrom dead position refuted →
    (search refuted).1 = results.head? ∧
      (results = [] → RefutesDead dead refuted (search refuted).2)

theorem Realises.mono {dead : Station → Prop} {p q : Nat} {search : Search}
    {results : List Attempt} (h : Realises dead q search results) (hpq : p ≤ q) :
    Realises dead p search results :=
  fun refuted hsound => h refuted (hsound.mono hpq)

/-- **A search that finds nothing gives way to the next, whose results follow.** -/
theorem orElse_realises {dead : Station → Prop} {position : Nat} {first second : Search}
    {rs ss : List Attempt} (hfirst : Realises dead position first rs)
    (hsecond : Realises dead position second ss) :
    Realises dead position (Search.orElse first second) (rs ++ ss) := by
  intro refuted hsound
  obtain ⟨hfound, hrefutes⟩ := hfirst refuted hsound
  unfold Search.orElse
  cases hrun : first refuted with
  | mk result refuted' =>
    rw [hrun] at hfound hrefutes
    cases rs with
    | cons r rs =>
      have hresult : result = some r := hfound
      rw [hresult]
      exact ⟨rfl, fun h => by simp at h⟩
    | nil =>
      have hresult : result = none := hfound
      have kept := hrefutes rfl
      rw [hresult]
      obtain ⟨hfound', hrefutes'⟩ := hsecond refuted' (kept.soundFrom hsound)
      exact ⟨hfound', fun h => kept.trans (hrefutes' h)⟩

/-- **A junction is entered unless it is refuted, and then it leads nowhere.** -/
theorem enter_realises {dead : Station → Prop} {j : Junction} (hj : j.guarded = false)
    {a : Attempt} {continuation : Continuation} {results : List Attempt}
    (hdead : dead (a.station j) ↔ results = [])
    (h : Realises dead a.cursor.position (continuation a) results) :
    Realises dead a.cursor.position (enter j a continuation) results := by
  intro refuted hsound
  have hpass : a.pass j = a := by simp [Attempt.pass, hj]
  unfold enter
  rw [hpass]
  by_cases hclosed : a.station j ∈ refuted
  · have none : results = [] := hdead.1 (hsound _ hclosed (Nat.le_refl _))
    have : isClosed j a refuted = true := by
      simp [isClosed, hclosed]
    rw [if_pos this, none]
    exact ⟨rfl, fun _ => .refl refuted⟩
  · have : ¬ isClosed j a refuted = true := by
      simp [isClosed, Attempt.isGuarded, hj, hclosed]
    rw [if_neg this]
    obtain ⟨hfound, hrefutes⟩ := h refuted hsound
    cases hrun : continuation a refuted with
    | mk result refuted' =>
      rw [hrun] at hfound hrefutes
      cases results with
      | cons r rs =>
        have hresult : result = some r := hfound
        rw [hresult]
        exact ⟨rfl, fun h => by simp at h⟩
      | nil =>
        have hresult : result = none := hfound
        rw [hresult]
        exact ⟨rfl, fun _ => (hrefutes rfl).insert (hdead.2 rfl)⟩

end Deobfuscation.Regex
