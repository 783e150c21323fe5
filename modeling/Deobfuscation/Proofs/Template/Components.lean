import Deobfuscation.Proofs.Regex.Groups
import Deobfuscation.Proofs.Template.Expressions
import Deobfuscation.Proofs.Template.WrittenBack

/-!
# Each component at most once

A line that matches one of the built-in templates goes through one branch of it, and no branch has
two placeholders for one component.  So no two slots of such a line tell the same,
and they tell what they hold as soon as the line number is written as usual.

* `mem_slotsFrom_iff` — the slots of a line, group by group;
* `Template.components` — the components that groups tell;
* `Template.slot_inj` — **proved**: where each branch tells each component once, so do the
  slots of a line;
* `Template.faithful_standard`, `Template.faithful_calledMethod` — **proved**: the slots of the
  built-in templates tell what they hold.
-/

namespace Deobfuscation

open Regex (Capture captured? Expr)

/-- **A slot belongs to a placeholder whose group has captured its stretch.** -/
theorem mem_slotsFrom_iff {captures : List Capture} {slot : Slot}
    (placeholders : List Placeholder) :
    ∀ {first : Nat}, slot ∈ slotsFrom captures first placeholders ↔
      ∃ i, placeholders[i]? = some slot.placeholder ∧
        captured? captures (first + i) = some slot.span := by
  induction placeholders with
  | nil => intro first; simp [slotsFrom]
  | cons placeholder placeholders ih =>
    intro first
    -- the placeholder itself, or one of those behind it
    have hsplit : (∃ i, (placeholder :: placeholders)[i]? = some slot.placeholder ∧
        captured? captures (first + i) = some slot.span) ↔
        (placeholder = slot.placeholder ∧ captured? captures first = some slot.span) ∨
          slot ∈ slotsFrom captures (first + 1) placeholders := by
      rw [ih]
      constructor
      · rintro ⟨i, hplaceholder, hspan⟩
        cases i with
        | zero => exact Or.inl ⟨by simpa using hplaceholder, hspan⟩
        | succ i =>
          refine Or.inr ⟨i, by simpa using hplaceholder, ?_⟩
          rw [Nat.add_assoc, Nat.add_comm 1 i]
          exact hspan
      · rintro (⟨rfl, hspan⟩ | ⟨i, hplaceholder, hspan⟩)
        · exact ⟨0, rfl, hspan⟩
        · refine ⟨i + 1, by simpa using hplaceholder, ?_⟩
          rw [Nat.add_comm i 1, ← Nat.add_assoc]
          exact hspan
    rw [hsplit, slotsFrom]
    split
    · rename_i span hspan
      rw [List.mem_cons, hspan]
      refine or_congr_left ⟨?_, ?_⟩
      · rintro rfl
        exact ⟨rfl, rfl⟩
      · rintro ⟨rfl, hequal⟩
        rw [Option.some.inj hequal]
    · rename_i hnone
      simp [hnone]

namespace Template

/-- The components that groups of a template tell. -/
def components (template : Template) (groups : List Nat) : List Placeholder :=
  groups.map fun group => (template.placeholders.getD (group - 1) default).component

section Distinct

variable {template : Template} {x : Expr} {line : List Char} {slots : List Slot}

/-- What is found in a line is captured on a way through one branch, which captures its certain
groups and none but its own. -/
theorem exists_branch_of_find (hx : (Expr.seq (.assert .textStart) x).isProductive = true)
    (hplan : template.plan = .ofExpr (.seq (.assert .textStart) x)) {captures : List Capture}
    (hfind : template.plan.find line = some captures) :
    ∃ y ∈ x.branches,
      (∀ group, (captured? captures group).isSome = true → group ∈ y.groups) ∧
        ∀ group ∈ y.certain, (captured? captures group).isSome = true := by
  rw [hplan, Expr.find_anchored hx, Option.map_eq_some_iff] at hfind
  obtain ⟨r, hfirst, rfl⟩ := hfind
  obtain ⟨way, hway, hr⟩ := List.exists_of_findSome?_eq_some hfirst
  obtain rfl := Option.some.inj hr
  obtain ⟨y, hy, hbranch⟩ := Expr.exists_branch hway
  refine ⟨y, hy, fun group hcaptured => ?_, y.isSome_captured?_ways _ _ hbranch⟩
  by_contra hgroup
  -- nothing was captured to begin with
  have hadds := y.adds_ways (List.Subset.refl _) _ _ hbranch
  rw [hadds.captured?_eq hgroup] at hcaptured
  simp [Regex.Attempt.between, captured?] at hcaptured

/-- **Where each branch tells each component once, so do the slots of a line.** -/
theorem slot_inj (hx : (Expr.seq (.assert .textStart) x).isProductive = true)
    (hplan : template.plan = .ofExpr (.seq (.assert .textStart) x))
    (hdistinct : ∀ y ∈ x.branches, (template.components y.groups).Nodup)
    (hslots : template.slots? line = some slots) {a b : Slot} (ha : a ∈ slots) (hb : b ∈ slots)
    (hcomponent : a.placeholder.component = b.placeholder.component) : a = b := by
  obtain ⟨captures, hfind, rfl⟩ := Option.map_eq_some_iff.1 hslots
  obtain ⟨y, hy, hgroups, -⟩ := exists_branch_of_find hx hplan hfind
  obtain ⟨i, hi, hspan⟩ := (mem_slotsFrom_iff template.placeholders).1 ha
  obtain ⟨j, hj, hspan'⟩ := (mem_slotsFrom_iff template.placeholders).1 hb
  have hfirst := hgroups (1 + i) (by rw [hspan]; rfl)
  have hsecond := hgroups (1 + j) (by rw [hspan']; rfl)
  have hequal : (template.placeholders.getD (1 + i - 1) default).component =
      (template.placeholders.getD (1 + j - 1) default).component := by
    rw [Nat.add_sub_cancel_left, Nat.add_sub_cancel_left, List.getD_eq_getElem?_getD,
      List.getD_eq_getElem?_getD, hi, hj]
    exact hcomponent
  have hindex := List.inj_on_of_nodup_map (hdistinct y hy) hfirst hsecond hequal
  obtain rfl : i = j := Nat.add_left_cancel hindex
  have hplaceholder := Option.some.inj (hi.symm.trans hj)
  have hsame := Option.some.inj (hspan.symm.trans hspan')
  cases a
  cases b
  rw [Slot.mk.injEq]
  exact ⟨hplaceholder, hsame⟩

end Distinct

/-! ### The built-in templates -/

theorem nodup_components_standard :
    ∀ y ∈ (Expr.alt stackTraceExpr messageExpr).branches,
      (standard.components y.groups).Nodup := by
  simp only [components, standard_placeholders]
  decide

theorem nodup_components_calledMethod :
    ∀ y ∈ nullReceiverExpr.branches, (calledMethod.components y.groups).Nodup := by
  simp only [components, calledMethod_placeholders]
  decide

/-- The placeholder of a slot is one of the template. -/
theorem placeholder_mem {template : Template} {line : List Char} {slots : List Slot}
    (h : template.slots? line = some slots) {slot : Slot} (hslot : slot ∈ slots) :
    slot.placeholder ∈ template.placeholders := by
  obtain ⟨captures, -, rfl⟩ := Option.map_eq_some_iff.1 h
  obtain ⟨i, hi, -⟩ := (mem_slotsFrom_iff template.placeholders).1 hslot
  exact List.mem_of_getElem? hi

/-- **The slots of the standard template tell what they hold**, if the line number is written as
usual. -/
theorem faithful_standard {line : List Char} {slots : List Slot}
    (hslots : standard.slots? line = some slots)
    (hline : ∀ slot ∈ slots, slot.placeholder = .line →
      ∃ n : LineNumber, slot.span.text line = n.text) : Faithful line slots where
  writes slot hslot := by
    refine ⟨hline slot hslot, fun hslashed => ?_⟩
    have hmem := placeholder_mem hslots hslot
    rw [standard_placeholders, hslashed] at hmem
    exact absurd hmem (by decide)
  agree a ha b hb hcomponent := by
    rw [slot_inj isProductive_standardExpr standard_plan nodup_components_standard hslots ha hb
      hcomponent]

/-- **The slots of a called method tell what they hold.** -/
theorem faithful_calledMethod {line : List Char} {slots : List Slot}
    (hslots : calledMethod.slots? line = some slots) : Faithful line slots where
  writes slot hslot := by
    have hmem := placeholder_mem hslots hslot
    rw [calledMethod_placeholders] at hmem
    refine ⟨fun hline => ?_, fun hslashed => ?_⟩
    · rw [hline] at hmem
      exact absurd hmem (by decide)
    · rw [hslashed] at hmem
      exact absurd hmem (by decide)
  agree a ha b hb hcomponent := by
    rw [slot_inj isProductive_calledMethodExpr calledMethod_plan nodup_components_calledMethod
      hslots ha hb hcomponent]

end Template

end Deobfuscation
