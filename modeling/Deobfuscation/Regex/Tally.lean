/-!
# Tallies of automata

An automaton consists of states, of transitions between them, and of junctions, which are states
with a link for each of their branches.  A tally says how many there are of each, and so how much
the automaton takes: a state takes as much as four transitions, and a transition as much as two
links.

* `Direction` — automata read a text forward or backward;
* `Tally`, `Tally.size` — what an automaton consists of, and how much it takes;
* `Tally.repeated` — a step of the construction, time after time;
* `size_le_size` — **proved**: an automaton takes no less than a part of it;
* `repeated_le` — **proved**: steps that add no more than some part add no more than this part time
  after time.
-/

namespace Deobfuscation.Regex

/-- In which direction a text is read. -/
inductive Direction where
  | forward
  | backward
  deriving DecidableEq, Repr

/-- What an automaton consists of. -/
@[ext] structure Tally where
  states : Nat
  transitions : Nat
  links : Nat
  deriving DecidableEq, Repr

namespace Tally

instance : Add Tally :=
  ⟨fun t u => ⟨t.states + u.states, t.transitions + u.transitions, t.links + u.links⟩⟩

instance : LE Tally :=
  ⟨fun t u => t.states ≤ u.states ∧ t.transitions ≤ u.transitions ∧ t.links ≤ u.links⟩

/-- Nothing. -/
def nothing : Tally := ⟨0, 0, 0⟩

/-- So many states that are no junctions, without the transitions between them. -/
@[grind =] def ofStates (count : Nat) : Tally := ⟨count, 0, 0⟩

/-- So many links. -/
@[grind =] def ofLinks (count : Nat) : Tally := ⟨0, 0, count⟩

/-- A part, so many times. -/
def times (count : Nat) (t : Tally) : Tally :=
  ⟨count * t.states, count * t.transitions, count * t.links⟩

/-- What several parts consist of together. -/
def total (parts : List Tally) : Tally := parts.foldr (· + ·) nothing

/-! ### Sizes -/

/-- What a state takes. -/
def stateSize : Nat := 32

/-- What a transition takes. -/
def transitionSize : Nat := 8

/-- What a link of a junction takes. -/
def linkSize : Nat := 4

/-- What an automaton may take. -/
def sizeLimit : Nat := 10485760

/-- How much an automaton takes. -/
def size (t : Tally) : Nat :=
  stateSize * t.states + transitionSize * t.transitions + linkSize * t.links

/-- The automaton takes too much. -/
def isTooLarge (t : Tally) : Bool := sizeLimit < t.size

/-! ### Steps -/

/-- A step that is made so many times; once the automaton is too large, it remains so, and the
steps may end. -/
def repeated (step : Tally → Tally) : Nat → Tally → Tally
  | 0, t => t
  | count + 1, t => if t.isTooLarge then t else repeated step count (step t)

/-! ### Parts -/

theorem le_refl (t : Tally) : t ≤ t :=
  ⟨Nat.le_refl _, Nat.le_refl _, Nat.le_refl _⟩

theorem le_trans {t u v : Tally} (htu : t ≤ u) (huv : u ≤ v) : t ≤ v :=
  ⟨Nat.le_trans htu.1 huv.1, Nat.le_trans htu.2.1 huv.2.1, Nat.le_trans htu.2.2 huv.2.2⟩

theorem le_add (t u : Tally) : t ≤ t + u :=
  ⟨Nat.le_add_right _ _, Nat.le_add_right _ _, Nat.le_add_right _ _⟩

-- sums are compared part by part, which is linear arithmetic
@[grind =] theorem le_iff {t u : Tally} :
    t ≤ u ↔ t.states ≤ u.states ∧ t.transitions ≤ u.transitions ∧ t.links ≤ u.links := Iff.rfl

instance (t u : Tally) : Decidable (t ≤ u) :=
  inferInstanceAs
    (Decidable (t.states ≤ u.states ∧ t.transitions ≤ u.transitions ∧ t.links ≤ u.links))

@[simp, grind =] theorem states_add (t u : Tally) : (t + u).states = t.states + u.states := rfl

@[simp, grind =] theorem transitions_add (t u : Tally) :
    (t + u).transitions = t.transitions + u.transitions := rfl

@[simp, grind =] theorem links_add (t u : Tally) : (t + u).links = t.links + u.links := rfl

theorem add_assoc (t u v : Tally) : t + u + v = t + (u + v) :=
  Tally.ext (Nat.add_assoc _ _ _) (Nat.add_assoc _ _ _) (Nat.add_assoc _ _ _)

theorem add_le_add {t t' u u' : Tally} (ht : t ≤ t') (hu : u ≤ u') : t + u ≤ t' + u' :=
  ⟨Nat.add_le_add ht.1 hu.1, Nat.add_le_add ht.2.1 hu.2.1, Nat.add_le_add ht.2.2 hu.2.2⟩

theorem add_comm (t u : Tally) : t + u = u + t :=
  Tally.ext (Nat.add_comm _ _) (Nat.add_comm _ _) (Nat.add_comm _ _)

theorem times_succ (count : Nat) (t : Tally) : times (count + 1) t = times count t + t :=
  Tally.ext (Nat.succ_mul _ _) (Nat.succ_mul _ _) (Nat.succ_mul _ _)

theorem times_add (count more : Nat) (t : Tally) :
    times (count + more) t = times count t + times more t :=
  Tally.ext (Nat.add_mul _ _ _) (Nat.add_mul _ _ _) (Nat.add_mul _ _ _)

theorem le_times {count : Nat} (h : 0 < count) (t : Tally) : t ≤ times count t :=
  ⟨Nat.le_mul_of_pos_left _ h, Nat.le_mul_of_pos_left _ h, Nat.le_mul_of_pos_left _ h⟩

theorem times_le_times {count count' : Nat} {t t' : Tally} (hcount : count ≤ count')
    (ht : t ≤ t') : times count t ≤ times count' t' :=
  ⟨Nat.mul_le_mul hcount ht.1, Nat.mul_le_mul hcount ht.2.1, Nat.mul_le_mul hcount ht.2.2⟩

/-- **An automaton takes no less than a part of it.** -/
theorem size_le_size {t u : Tally} (h : t ≤ u) : t.size ≤ u.size :=
  Nat.add_le_add
    (Nat.add_le_add (Nat.mul_le_mul_left _ h.1) (Nat.mul_le_mul_left _ h.2.1))
    (Nat.mul_le_mul_left _ h.2.2)

/-- **Steps that add no more than a part add no more than this part time after time.** -/
theorem repeated_le {step : Tally → Tally} {part : Tally} (h : ∀ t, step t ≤ t + part)
    (count : Nat) (t : Tally) : repeated step count t ≤ t + times count part := by
  induction count generalizing t with
  | zero => exact le_add t _
  | succ count ih =>
    rw [repeated]
    split
    · exact le_add t _
    · rw [times_succ, add_comm _ part, ← add_assoc]
      exact le_trans (ih (step t)) (add_le_add (h t) (le_refl _))

end Tally

end Deobfuscation.Regex
