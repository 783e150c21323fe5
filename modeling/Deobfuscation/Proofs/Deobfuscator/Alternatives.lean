import Mathlib.Data.List.Forall2
import Deobfuscation.Deobfuscator.Line

/-!
# Outcomes under one another

Where a line tells its line number, or has a single outcome, its outcomes are shown as they are.
Otherwise nothing but the symbol table tells them apart, and they are shown under one another: the
first in full, each later one under its predecessor as that one stood before it was shown.  What the
two begin with is blanked out, as far as it goes, so that every character that differs stays in its
column; an outcome is left out only if it is empty.

* `beneath` — a line with everything in front of a column blanked out;
* `IsShared`, `exists_isShared_blankShared` — the longest beginning that two lines share;
  **proved**: it is what is blanked out;
* `ShownUnder`, `shownUnder_blankShared` — **proved**: how a line is shown under another;
* `ShownBelow`, `shownBelow_alternativesAfter` — **proved**: how lines are shown below a first one;
* `line_alternatives` — **proved**: how the outcomes of a line are shown.
-/

namespace Deobfuscation.Deobfuscator

/-! ### Blanking out -/

/-- A line with everything in front of a column blanked out. -/
def beneath (column : Nat) (s : List Char) : List Char :=
  List.replicate column ' ' ++ s.drop column

/-- Nothing changes behind the column. -/
theorem drop_beneath {column k : Nat} (h : column ≤ k) (s : List Char) :
    (beneath column s).drop k = s.drop k := by
  have hleft : (List.replicate column ' ').length ≤ k := by
    rw [List.length_replicate]
    exact h
  rw [beneath, List.drop_append, List.drop_of_length_le hleft, List.nil_append,
    List.length_replicate, List.drop_drop, Nat.add_sub_cancel' h]

theorem length_beneath {column : Nat} {s : List Char} (h : column ≤ s.length) :
    (beneath column s).length = s.length := by
  rw [beneath, List.length_append, List.length_replicate, List.length_drop,
    Nat.add_sub_cancel' h]

/-! ### What two lines share -/

/-- The longest beginning that two lines share. -/
structure IsShared (shared above below : List Char) : Prop where
  begins_above : shared <+: above
  begins_below : shared <+: below
  longest : ∀ other, other <+: above → other <+: below → other <+: shared

namespace IsShared

variable {shared above below : List Char}

/-- Lines share one more character if both begin with it. -/
theorem cons (h : IsShared shared above below) (c : Char) :
    IsShared (c :: shared) (c :: above) (c :: below) where
  begins_above := List.cons_prefix_cons.2 ⟨rfl, h.begins_above⟩
  begins_below := List.cons_prefix_cons.2 ⟨rfl, h.begins_below⟩
  longest other habove hbelow := by
    cases other with
    | nil => exact List.nil_prefix
    | cons e other =>
      obtain ⟨rfl, hbehind⟩ := List.cons_prefix_cons.1 habove
      have hrest := (List.cons_prefix_cons.1 hbelow).2
      exact List.cons_prefix_cons.2 ⟨rfl, h.longest other hbehind hrest⟩

/-- Lines share nothing if there is no character that both begin with. -/
theorem nil (h : ∀ c, above.head? = some c → below.head? ≠ some c) : IsShared [] above below where
  begins_above := List.nil_prefix
  begins_below := List.nil_prefix
  longest other habove hbelow := by
    cases other with
    | nil => exact List.nil_prefix
    | cons e other =>
      obtain ⟨behind, rfl⟩ := habove
      obtain ⟨rest, rfl⟩ := hbelow
      exact absurd rfl (h e rfl)

/-- What is shared ends in front of every column in which the lines differ. -/
theorem length_le (h : IsShared shared above below) {i : Nat} (hi : above[i]? ≠ below[i]?) :
    shared.length ≤ i := by
  refine Nat.le_of_not_lt fun hlt => hi ?_
  obtain ⟨behind, rfl⟩ := h.begins_above
  obtain ⟨rest, rfl⟩ := h.begins_below
  rw [List.getElem?_append_left hlt, List.getElem?_append_left hlt]

end IsShared

/-- **What a line shares with the one above it is blanked out**, as far as it goes. -/
theorem exists_isShared_blankShared (above below : List Char) :
    ∃ shared, IsShared shared above below ∧
      Text.blankShared above below = beneath shared.length below := by
  induction above generalizing below with
  | nil => exact ⟨[], .nil fun c hc => absurd hc (by simp), by simp [Text.blankShared, beneath]⟩
  | cons p above ih =>
    cases below with
    | nil =>
      exact ⟨[], .nil fun c _ => by simp, by simp [Text.blankShared, beneath]⟩
    | cons c below =>
      rw [Text.blankShared]
      by_cases hpc : p = c
      · obtain ⟨shared, hshared, hblank⟩ := ih below
        rw [if_pos hpc, hblank, hpc]
        exact ⟨c :: shared, hshared.cons c, rfl⟩
      · rw [if_neg hpc]
        refine ⟨[], .nil fun e he hbelow => hpc ?_, rfl⟩
        exact (Option.some.inj he).trans (Option.some.inj hbelow).symm

/-- What a line shares with the one above is its beginning. -/
theorem exists_beneath_blankShared (above below : List Char) :
    ∃ column ≤ below.length, Text.blankShared above below = beneath column below := by
  obtain ⟨shared, hshared, hblank⟩ := exists_isShared_blankShared above below
  exact ⟨shared.length, hshared.begins_below.length_le, hblank⟩

/-! ### How outcomes are shown -/

/-- How a line is shown under another. -/
structure ShownUnder (above below shown : List Char) : Prop where
  /-- The longest beginning that the two lines share is replaced by as many spaces. -/
  blanked : ∃ shared, IsShared shared above below ∧ shown = beneath shared.length below
  /-- No column is lost. -/
  length : shown.length = below.length
  /-- Everything stays from the first column on in which the two lines differ. -/
  kept : ∀ i, above[i]? ≠ below[i]? → shown.drop i = below.drop i

theorem shownUnder_blankShared (above below : List Char) :
    ShownUnder above below (Text.blankShared above below) := by
  obtain ⟨shared, hshared, hblank⟩ := exists_isShared_blankShared above below
  refine ⟨⟨shared, hshared, hblank⟩, Text.length_blankShared above below, fun i hi => ?_⟩
  rw [hblank]
  exact drop_beneath (hshared.length_le hi) below

/-- How lines are shown below a first one: each under its predecessor among the lines, and none that
is empty. -/
def ShownBelow (first : List Char) (later shown : List (List Char)) : Prop :=
  List.Forall₂ (fun pair line => ShownUnder pair.1 pair.2 line)
    (((first :: later).zip later).filter fun pair => pair.2 ≠ []) shown

/-- **Alternatives are shown so.** -/
theorem shownBelow_alternativesAfter (later : List (List Char)) :
    ∀ first, ShownBelow first later (Text.alternativesAfter first later) := by
  induction later with
  | nil => exact fun first => .nil
  | cons line later ih =>
    intro first
    have hempty : (Text.blankShared first line).isEmpty = true ↔ line = [] := by
      rw [List.isEmpty_iff_length_eq_zero, Text.length_blankShared, List.length_eq_zero_iff]
    rw [ShownBelow, List.zip_cons_cons, List.filter_cons, Text.alternativesAfter]
    by_cases hline : line = []
    · -- the next line is shown under the empty one, though that is not shown
      rw [if_pos (hempty.2 hline), if_neg (by simpa using hline)]
      exact ih line
    · rw [if_neg fun h => hline (hempty.1 h), if_pos (by simpa using hline)]
      exact .cons (shownUnder_blankShared first line) (ih line)

/-- The line tells its number. -/
def TellsNumber (d : Deobfuscator) (line : List Char) : Prop :=
  ∃ frame, d.template.parse? line = some frame ∧ frame.line ≠ 0

theorem isAmbiguous_iff (d : Deobfuscator) (line : List Char) :
    d.isAmbiguous line = true ↔ ¬ d.TellsNumber line := by
  rw [isAmbiguous, TellsNumber]
  split
  · rename_i frame hframe
    rw [beq_iff_eq, hframe]
    simp
  · rename_i hnone
    simp [hnone]

/-- **The outcomes of a line are shown as they are if it tells its number or there is only one.
Otherwise the first is shown as it is and the later ones are shown below it.** -/
theorem line_alternatives {d : Deobfuscator} (hall : d.allClassNames = false)
    (line : List Char) :
    ∃ first later, d.outcomes line = first :: later ∧
      (d.TellsNumber line ∨ later = [] → d.line line = first :: later) ∧
      (¬ d.TellsNumber line ∧ later ≠ [] →
        ∃ shown, d.line line = first :: shown ∧ ShownBelow first later shown) := by
  obtain ⟨first, later, houtcomes⟩ := List.exists_cons_of_ne_nil (d.outcomes_ne_nil line)
  have hline : d.line line = if d.isAmbiguous line then
      first :: Text.alternativesAfter first later else first :: later := by
    rw [Deobfuscator.line, if_neg (by rw [hall]; exact Bool.false_ne_true), shownOutcomes,
      houtcomes, Text.alternatives]
  refine ⟨first, later, houtcomes, ?_, ?_⟩
  · rintro (htells | rfl)
    · rw [hline, if_neg fun h => (d.isAmbiguous_iff line).1 h htells]
    · rw [hline, Text.alternativesAfter, ite_self]
  · rintro ⟨htells, -⟩
    rw [hline, if_pos ((d.isAmbiguous_iff line).2 htells)]
    exact ⟨_, rfl, shownBelow_alternativesAfter later first⟩

/-- A name that is the beginning of the one above it is blanked out, and an empty name is left out;
but the name that follows that one is shown under it, so it is shown in full. -/
theorem line_alternatives_empty :
    let named := fun name : String =>
      (⟨"", name, "x", none, "", .unknown⟩ : SymbolMap.MethodEntry)
    let table := (((SymbolTable.empty.addMethod "" (named "éa")).addMethod "" (named "é")).addMethod
      "" (named "")).addMethod "" (named "éb")
    let d : Deobfuscator := ⟨table, (Template.ofText? "%m".toList).getD default, false, false⟩
    d.outcomes "x".toList = ["éa".toList, "é".toList, [], "éb".toList] ∧
      d.line "x".toList = ["éa".toList, " ".toList, "éb".toList] ∧
      ShownBelow "éa".toList ["é".toList, [], "éb".toList] [" ".toList, "éb".toList] := by
  intro named table d
  have houtcomes : d.outcomes "x".toList = ["éa".toList, "é".toList, [], "éb".toList] := by
    decide +kernel
  have hline : d.line "x".toList = ["éa".toList, " ".toList, "éb".toList] := by decide +kernel
  have hambiguous : ¬ d.TellsNumber "x".toList := (d.isAmbiguous_iff _).1 (by decide +kernel)
  obtain ⟨first, later, hfirst, -, hbelow⟩ := line_alternatives (d := d) rfl "x".toList
  obtain ⟨rfl, rfl⟩ := List.cons.inj (houtcomes.symm.trans hfirst)
  obtain ⟨shown, hshown, hlines⟩ := hbelow ⟨hambiguous, List.cons_ne_nil _ _⟩
  obtain ⟨-, rfl⟩ := List.cons.inj (hline.symm.trans hshown)
  exact ⟨houtcomes, hline, hlines⟩

end Deobfuscation.Deobfuscator
