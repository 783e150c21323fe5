import Deobfuscation.Proofs.Regex.Matching
import Deobfuscation.Regex.Composition

/-!
# The groups of composed expressions

Composing expressions joins literals, takes out what branches share and lets go of what is repeated
no times, but it never makes a group: every group of a composed expression is a group of one of
its parts, with the body that it has there.

* `Expr.Binds` — what holds of each group of an expression and its body;
* `binds_concat`, `binds_choice`, `binds_repeated` — **proved**: what holds of the groups of the
  parts holds of those of the whole.
-/

namespace Deobfuscation.Regex.Expr

/-- Each group of an expression, with its body, is as it is said. -/
def Binds (q : Nat × Expr → Prop) (x : Expr) : Prop := ∀ b ∈ x.bodies, q b

variable {q : Nat × Expr → Prop} {x y : Expr} {xs ys : List Expr}

/-- An expression without groups. -/
theorem binds_of_bodies_eq_nil (h : x.bodies = []) : Binds q x := by
  intro b hb
  rw [h] at hb
  exact absurd hb List.not_mem_nil

theorem binds_empty : Binds q empty := binds_of_bodies_eq_nil rfl

theorem binds_literal (s : List Char) : Binds q (literal s) := binds_of_bodies_eq_nil rfl

theorem binds_set (s : CharSet) : Binds q (set s) := binds_of_bodies_eq_nil rfl

theorem binds_assert (p : Assertion) : Binds q (assert p) := binds_of_bodies_eq_nil rfl

theorem binds_seq : Binds q (seq x y) ↔ Binds q x ∧ Binds q y := List.forall_mem_append

theorem binds_alt : Binds q (alt x y) ↔ Binds q x ∧ Binds q y := List.forall_mem_append

theorem binds_group {index : Nat} : Binds q (group index x) ↔ q (index, x) ∧ Binds q x :=
  List.forall_mem_cons

theorem binds_ofSet (s : CharSet) : Binds q (ofSet s) := by
  unfold ofSet
  split
  · exact binds_literal _
  · exact binds_set s

/-! ### Sequences -/

theorem Binds.parts (h : Binds q x) : ∀ y ∈ x.parts, Binds q y := by
  induction x with
  | empty => exact fun y hy => absurd hy List.not_mem_nil
  | seq x y ihx ihy =>
    obtain ⟨hx, hy⟩ := binds_seq.1 h
    exact List.forall_mem_append.2 ⟨ihx hx, ihy hy⟩
  | _ => exact fun y hy => List.mem_singleton.1 hy ▸ h

theorem binds_joinLiterals (h : ∀ x ∈ xs, Binds q x) : ∀ y ∈ joinLiterals xs, Binds q y := by
  fun_induction joinLiterals xs with
  | case1 => exact fun y hy => absurd hy List.not_mem_nil
  | case2 s xs t ys hjoined ih =>
    obtain ⟨-, hxs⟩ := List.forall_mem_cons.1 h
    have hys := ih hxs
    rw [hjoined] at hys
    exact List.forall_mem_cons.2 ⟨binds_literal _, (List.forall_mem_cons.1 hys).2⟩
  | case3 s xs hjoined ih =>
    obtain ⟨hs, hxs⟩ := List.forall_mem_cons.1 h
    exact List.forall_mem_cons.2 ⟨hs, ih hxs⟩
  | case4 x xs hliteral ih =>
    obtain ⟨hx, hxs⟩ := List.forall_mem_cons.1 h
    exact List.forall_mem_cons.2 ⟨hx, ih hxs⟩

theorem binds_ofParts (h : ∀ x ∈ xs, Binds q x) : Binds q (ofParts xs) := by
  fun_induction ofParts xs with
  | case1 => exact binds_empty
  | case2 x => exact h x List.mem_cons_self
  | case3 x xs _ ih =>
    obtain ⟨hx, hxs⟩ := List.forall_mem_cons.1 h
    exact binds_seq.2 ⟨hx, ih hxs⟩

theorem binds_flatMap {f : Expr → List Expr} (h : ∀ x ∈ xs, ∀ y ∈ f x, Binds q y) :
    ∀ y ∈ xs.flatMap f, Binds q y := by
  intro y hy
  obtain ⟨x, hx, hy⟩ := List.mem_flatMap.1 hy
  exact h x hx y hy

/-- **A sequence has the groups of its parts.** -/
theorem binds_concat (h : ∀ x ∈ xs, Binds q x) : Binds q (concat xs) :=
  binds_ofParts (binds_joinLiterals (binds_flatMap fun x hx => (h x hx).parts))

/-! ### Choices -/

theorem Binds.branches (h : Binds q x) : ∀ y ∈ x.branches, Binds q y := by
  induction x with
  | alt x y ihx ihy =>
    obtain ⟨hx, hy⟩ := binds_alt.1 h
    exact List.forall_mem_append.2 ⟨ihx hx, ihy hy⟩
  | _ => exact fun y hy => List.mem_singleton.1 hy ▸ h

theorem binds_ofBranches (h : ∀ x ∈ xs, Binds q x) : Binds q (ofBranches xs) := by
  fun_induction ofBranches xs with
  | case1 => exact binds_set _
  | case2 x => exact h x List.mem_cons_self
  | case3 x xs _ ih =>
    obtain ⟨hx, hxs⟩ := List.forall_mem_cons.1 h
    exact binds_alt.2 ⟨hx, ih hxs⟩

theorem sharedParts_subset (xs ys : List Expr) : sharedParts xs ys ⊆ xs := by
  fun_induction sharedParts xs ys with
  | case1 x xs y ys _ ih => exact List.cons_subset_cons x ih
  | _ => exact List.nil_subset _

/-- What branches share are parts of the first. -/
theorem binds_sharedStart (h : ∀ x ∈ xs, Binds q x) : ∀ y ∈ sharedStart xs, Binds q y := by
  have hfold : ∀ {shared : List Expr} (ys : List Expr), (∀ y ∈ shared, Binds q y) →
      ∀ y ∈ ys.foldl (fun shared y => sharedParts shared y.parts) shared, Binds q y := by
    intro shared ys
    induction ys generalizing shared with
    | nil => exact id
    | cons z ys ih =>
      exact fun hshared => ih fun y hy => hshared y (sharedParts_subset _ _ hy)
  unfold sharedStart
  split
  · split
    · exact fun y hy => absurd hy List.not_mem_nil
    · rename_i x xs _
      exact hfold xs (h x List.mem_cons_self).parts
  · exact fun y hy => absurd hy List.not_mem_nil

theorem binds_choiceWithin (bound : Nat) :
    ∀ {xs : List Expr}, (∀ x ∈ xs, Binds q x) → Binds q (choiceWithin bound xs) := by
  induction bound using Nat.strong_induction_on with
  | _ bound ih =>
    intro xs h
    have hbranches := binds_flatMap (fun x hx => (h x hx).branches)
    unfold choiceWithin
    split
    · rename_i y hy
      exact hbranches y (hy ▸ List.mem_singleton_self y)
    · dsimp only
      split
      · exact binds_ofSet _
      · -- what is shared stands in front of the choice between the rests
        rename_i less x shared hset hshared
        have hstart := binds_sharedStart hbranches
        rw [hshared] at hstart
        refine binds_concat (List.forall_mem_append.2 ⟨hstart, ?_⟩)
        rw [List.forall_mem_singleton]
        refine ih less (Nat.lt_succ_self less) (List.forall_mem_map.2 fun y hy => ?_)
        exact binds_concat fun z hz => (hbranches y hy).parts z (List.mem_of_mem_drop hz)
      · exact binds_ofBranches hbranches

/-- **A choice has the groups of its branches.** -/
theorem binds_choice (h : ∀ x ∈ xs, Binds q x) : Binds q (choice xs) := binds_choiceWithin _ h

/-! ### Repetitions -/

/-- **Rounds have the groups of what is repeated.** -/
theorem binds_repeated (least : Nat) (most : Option Nat) (greedy : Bool) (h : Binds q x) :
    Binds q (repeated least most greedy x) := by
  unfold repeated
  split
  · exact binds_empty
  · exact h
  · exact h

end Deobfuscation.Regex.Expr
