import Std.Data.TreeSet
import Deobfuscation.Regex.Plan

/-!
# Searching a text

A search walks a plan from a place in the text.  Where it can go two ways it takes the preferred
one first and the other only if the first leads to no match, so the match it finds is the first
in the order of preference; the start that lies furthest left comes before all preferences.

What follows a junction depends on the junction and the position alone, so a junction that has
failed at a position is **refuted** there and is not entered again.  This bounds the work by
the number of junctions times the number of positions, whatever the expression.

* `Cursor`, `Attempt` — a place in the text, and a walk that has reached it;
* `Refuted` — the junctions known to fail, with their positions;
* `Plan.walk` — the walk, with what is to follow it as a continuation;
* `Plan.find` — the captures of the first match in a text.
-/

namespace Deobfuscation.Regex

/-! ### Places and walks -/

/-- A stretch of a text, from a position up to another. -/
structure Span where
  start : Nat
  stop : Nat
  deriving DecidableEq, Repr, Inhabited

/-- The stretch of the text. -/
def Span.text (span : Span) (s : List Char) : List Char :=
  (s.drop span.start).take (span.stop - span.start)

/-- Two stretches have a character in common, or one of them is empty and lies inside the
other. -/
def Span.overlaps (a b : Span) : Bool := a.start < b.stop && b.start < a.stop

/-- A place in a text: its position, the character before it and the text from it on. -/
structure Cursor where
  position : Nat
  before : Option Char
  rest : List Char
  deriving DecidableEq, Repr

/-- The beginning of a text. -/
def Cursor.start (s : List Char) : Cursor := ⟨0, none, s⟩

/-- The place after the next character. -/
def Cursor.advance (cursor : Cursor) (c : Char) (rest : List Char) : Cursor :=
  ⟨cursor.position + 1, some c, rest⟩

/-- A group and the stretch that it has captured. -/
structure Capture where
  group : Nat
  span : Span
  deriving DecidableEq, Repr, Inhabited

/-- A walk: the place it has reached, what it has captured, newest first, and the guarded
junctions it has passed since the last character. -/
structure Attempt where
  cursor : Cursor
  captures : List Capture
  passed : List Nat
  deriving DecidableEq, Repr

namespace Attempt

/-- The walk goes on past a character. -/
def consume (a : Attempt) (c : Char) (rest : List Char) : Attempt :=
  { a with cursor := a.cursor.advance c rest, passed := [] }

/-- The walk passes a junction. -/
def pass (a : Attempt) (j : Junction) : Attempt :=
  if j.guarded then { a with passed := j.id :: a.passed } else a

/-- The walk has passed a guarded junction at this position already. -/
def isGuarded (a : Attempt) (j : Junction) : Bool := j.guarded && a.passed.contains j.id

/-- The walk closes a group that it opened at a position. -/
def capture (a : Attempt) (group start : Nat) : Attempt :=
  { a with captures := ⟨group, start, a.cursor.position⟩ :: a.captures }

end Attempt

/-! ### What has failed -/

/-- A junction at a position of the text. -/
structure Station where
  position : Nat
  junction : Nat
  deriving DecidableEq, Repr

namespace Station

instance : Ord Station :=
  ⟨compareLex (compareOn Station.position) (compareOn Station.junction)⟩

instance : Std.TransOrd Station :=
  inferInstanceAs
    (Std.TransCmp (compareLex (compareOn Station.position) (compareOn Station.junction)))

instance : Std.LawfulEqOrd Station where
  compare_self := Std.ReflCmp.compare_self
  eq_of_compare {a b} h := by
    have hlex :
        compareLex (compareOn Station.position) (compareOn Station.junction) a b = .eq := h
    rw [compareLex_eq_eq] at hlex
    obtain ⟨hposition, hjunction⟩ := hlex
    cases a
    cases b
    simp only [compareOn, Std.LawfulEqOrd.compare_eq_iff_eq] at hposition hjunction
    simp_all

end Station

/-- The junctions that are known to lead to no match, each at a position. -/
abbrev Refuted := Std.TreeSet Station

/-- The walk stands at a junction. -/
def Attempt.station (a : Attempt) (j : Junction) : Station := ⟨a.cursor.position, j.id⟩

/-! ### Walking a plan -/

/-- What a search finds, and what is refuted after it. -/
abbrev Found := Option Attempt × Refuted

/-- A search goes on from what is refuted before it. -/
abbrev Search := Refuted → Found

/-- What is to follow a walk. -/
abbrev Continuation := Attempt → Search

/-- The first search, or the second if the first finds nothing. -/
def Search.orElse (first second : Search) (refuted : Refuted) : Found :=
  match first refuted with
  | (some found, refuted) => (some found, refuted)
  | (none, refuted) => second refuted

/-- Ends a walk with a match. -/
def accept : Continuation := fun a refuted => (some a, refuted)

/-- The walk may not enter a junction. -/
def isClosed (j : Junction) (a : Attempt) (refuted : Refuted) : Bool :=
  a.isGuarded j || refuted.contains (a.station j)

/-- Enters a junction, which is refuted if nothing is found behind it. -/
def enter (j : Junction) (a : Attempt) (behind : Continuation) (refuted : Refuted) : Found :=
  if isClosed j a refuted then (none, refuted)
  else
    match behind (a.pass j) refuted with
    | (some found, refuted) => (some found, refuted)
    | (none, refuted) => (none, refuted.insert (a.station j))

/-- Rounds of a body, with a junction before each and after the last.  The number bounds the
rounds; every round of a path is at a new position, so one more than the text has characters is
enough. -/
def rounds (body : Attempt → Continuation → Search) (j : Junction) (greedy : Bool)
    (next : Continuation) : Nat → Attempt → Refuted → Found
  | 0, _, refuted => (none, refuted)
  | bound + 1, a, refuted =>
    enter j a (fun a =>
      if greedy then Search.orElse (body a (rounds body j greedy next bound)) (next a)
      else Search.orElse (next a) (body a (rounds body j greedy next bound))) refuted

/-- The places that a span of a set can reach from a place whose remaining text is given, from
the furthest to the nearest, in front of the places already reached. -/
def spanStops (j : Junction) (s : CharSet) (refuted : Refuted) :
    List Char → Attempt → List Attempt → List Attempt
  | rest, a, reached =>
    if isClosed j a refuted then reached
    else
      match rest with
      | [] => a.pass j :: reached
      | c :: rest =>
        if s.contains c then spanStops j s refuted rest (a.consume c rest) (a.pass j :: reached)
        else a.pass j :: reached

/-- Goes on from each of some places in turn; where nothing is found, the junction is refuted. -/
def trySpanStops (j : Junction) (next : Continuation) : List Attempt → Refuted → Found
  | [], refuted => (none, refuted)
  | a :: stops, refuted =>
    match next a refuted with
    | (some found, refuted) => (some found, refuted)
    | (none, refuted) => trySpanStops j next stops (refuted.insert (a.station j))

/-- Goes on from the nearest place that a span of a set can reach, or the next one. -/
def growSpan (j : Junction) (s : CharSet) (next : Continuation) :
    List Char → Attempt → Refuted → Found
  | rest, a, refuted =>
    if isClosed j a refuted then (none, refuted)
    else
      match next (a.pass j) refuted with
      | (some found, refuted) => (some found, refuted)
      | (none, refuted) =>
        match rest with
        | [] => (none, refuted.insert (a.station j))
        | c :: rest =>
          if s.contains c then
            growSpan j s next rest (a.consume c rest) (refuted.insert (a.station j))
          else (none, refuted.insert (a.station j))

/-- Walks a plan and goes on with what is to follow.  No repetition takes more rounds than
`limit`. -/
def Plan.walk (limit : Nat) : Plan → Attempt → Continuation → Refuted → Found
  | .empty, a, next, refuted => next a refuted
  | .set s, a, next, refuted =>
    match a.cursor.rest with
    | [] => (none, refuted)
    | c :: rest => if s.contains c then next (a.consume c rest) refuted else (none, refuted)
  | .assert assertion, a, next, refuted =>
    if assertion.holds a.cursor.before a.cursor.rest.head? then next a refuted
    else (none, refuted)
  | .seq x y, a, next, refuted => x.walk limit a (fun b => y.walk limit b next) refuted
  | .alt j x y, a, next, refuted =>
    enter j a (fun a => Search.orElse (x.walk limit a next) (y.walk limit a next)) refuted
  | .span j greedy s, a, next, refuted =>
    if greedy then trySpanStops j next (spanStops j s refuted a.cursor.rest a []) refuted
    else growSpan j s next a.cursor.rest a refuted
  | .star j greedy x, a, next, refuted => rounds (x.walk limit) j greedy next limit a refuted
  | .plus j greedy x, a, next, refuted =>
    x.walk limit a (rounds (x.walk limit) j greedy next limit) refuted
  | .group index x, a, next, refuted =>
    x.walk limit a (fun b => next (b.capture index a.cursor.position)) refuted

/-! ### The first match -/

/-- The first match from a place or from any place after it. -/
def Plan.findFrom (plan : Plan) (limit : Nat) : List Char → Cursor → Refuted → Option Attempt
  | rest, cursor, refuted =>
    match plan.walk limit ⟨cursor, [], []⟩ accept refuted with
    | (some found, _) => some found
    | (none, refuted) =>
      match rest with
      | [] => none
      | c :: rest => plan.findFrom limit rest (cursor.advance c rest) refuted

/-- The captures of the first match in a text, newest first. -/
def Plan.find (plan : Plan) (s : List Char) : Option (List Capture) :=
  (plan.findFrom (s.length + 1) s (.start s) ∅).map Attempt.captures

/-- What a group captured last. -/
def captured? (captures : List Capture) (group : Nat) : Option Span :=
  (captures.find? fun capture => capture.group == group).map Capture.span

end Deobfuscation.Regex
