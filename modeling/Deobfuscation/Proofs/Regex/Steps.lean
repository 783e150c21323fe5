import Deobfuscation.Proofs.Regex.Bodies
import Deobfuscation.Proofs.Regex.Brackets

/-!
# What a step keeps

While no flags are set, a step over any character but an opening parenthesis opens no group, and
apart from escapes and bracketed classes it reads up to the next mark.  What the reader has taken
binds the same groups before and after it.

* `Fits` — no flags are set, no open group captures, and what is taken binds groups as it is said;
* `Proceeds` — one state leads to another, no group opens and what is read is unmarked;
* `Fits.step_unmarked`, `Fits.step_escape`, `Fits.step_bracket` — **proved**, one for each kind of
  character;
* `Fits.expr` — **proved**: the whole expression binds what its pieces bind.
-/

namespace Deobfuscation.Regex

open Regex.Expr (Binds)

/-! ### Readers that fit -/

/-- The branches and items of one group bind groups as it is said. -/
structure LevelBinds (q : Nat × Expr → Prop) (branches : List (Written Expr)) (items : List Item) :
    Prop where
  branches : ∀ x ∈ branches, Binds q x.value
  items : ∀ x, some x ∈ items → Binds q x.value

/-- No flags are set, no open group captures, and what is taken binds groups as it is said. -/
structure Fits (q : Nat × Expr → Prop) (r : Reader) : Prop where
  flags : r.flags = .none
  level : LevelBinds q r.branches r.items
  opened : ∀ group ∈ r.opened, group.index = none ∧ group.flags = .none ∧
    LevelBinds q group.branches group.items

/-- One state leads to another that fits; no group opens, and what is read is unmarked. -/
structure Proceeds (q : Nat × Expr → Prop) (r : Reader) (s : List Char) (r' : Reader)
    (rest : List Char) : Prop where
  fits : Fits q r'
  groups : r'.groups = r.groups
  upTo : UpTo s rest

section Levels

variable {q : Nat × Expr → Prop} {branches : List (Written Expr)} {items : List Item}

theorem LevelBinds.empty : LevelBinds q [] [] :=
  ⟨fun _ h => absurd h List.not_mem_nil, fun _ h => absurd h List.not_mem_nil⟩

theorem LevelBinds.push (h : LevelBinds q branches items) {x : Written Expr}
    (hx : Binds q x.value) : LevelBinds q branches (some x :: items) := by
  refine ⟨h.branches, fun y hy => ?_⟩
  rcases List.mem_cons.1 hy with hxy | hy
  · exact Option.some.inj hxy ▸ hx
  · exact h.items y hy

end Levels

/-! ### Counted repetitions -/

theorem upTo_of_readCount {s rest : List Char} {count : Nat}
    (h : readCount .none s = some (count, rest)) : UpTo s rest := by
  have hblank : ∀ c ∈ marks, Text.isBlank c = false := forall_marks.2 (by decide)
  simp only [readCount, span_none, skip_none, Option.ite_none_left_eq_some, Option.some.injEq,
    Prod.mk.injEq] at h
  obtain ⟨-, -, rfl⟩ := h
  have hdigit : ∀ c ∈ marks, c.isDigit = false := forall_marks.2 (by decide)
  exact (UpTo.dropWhile hblank s).trans
    ((UpTo.dropWhile hdigit (Text.trimStart s)).trans (UpTo.dropWhile hblank _))

theorem upTo_of_readBounds {s rest : List Char} {least : Nat} {most : Option Nat}
    (h : readBounds .none s = some (least, most, rest)) : UpTo s rest := by
  simp only [readBounds, skip_none] at h
  split at h
  · rename_i count after hcount
    simp only [Option.some.injEq, Prod.mk.injEq] at h
    obtain ⟨-, -, rfl⟩ := h
    exact (upTo_of_readCount hcount).trans (.cons (by decide) (.refl _))
  · rename_i count after hcount
    have hfirst := (upTo_of_readCount hcount).trans (.cons (by decide) (.refl after))
    split at h
    · simp only [Option.some.injEq, Prod.mk.injEq] at h
      obtain ⟨-, -, rfl⟩ := h
      exact hfirst.trans (.cons (by decide) (.refl _))
    · split at h
      · rename_i more later hmore
        split at h
        · simp only [Option.some.injEq, Prod.mk.injEq] at h
          obtain ⟨-, -, rfl⟩ := h
          exact hfirst.trans ((upTo_of_readCount hmore).trans (.cons (by decide) (.refl _)))
        · simp at h
      · simp at h
  · simp at h

namespace Fits

variable {q : Nat × Expr → Prop} {r r' : Reader} {s rest : List Char}

/-! ### What the reader has taken -/

theorem branch (h : Fits q r) : Binds q r.branch.value := by
  refine Expr.binds_concat fun y hy => ?_
  obtain ⟨item, hitem, hy⟩ := List.mem_filterMap.1 hy
  obtain ⟨x, rfl, rfl⟩ := Option.map_eq_some_iff.1 hy
  exact h.level.items x (List.mem_reverse.1 hitem)

/-- **The whole expression binds what its pieces bind.** -/
theorem expr (h : Fits q r) : Binds q r.expr.value := by
  refine Expr.binds_choice (List.forall_mem_map.2 (List.forall_mem_append.2 ⟨?_, ?_⟩))
  · exact fun x hx => h.level.branches x (List.mem_reverse.1 hx)
  · exact List.forall_mem_singleton.2 h.branch

theorem push (h : Fits q r) {x : Written Expr} (hx : Binds q x.value) : Fits q (r.push x) :=
  ⟨h.flags, h.level.push hx, h.opened⟩

theorem pushAtom (h : Fits q r) (atom : Atom) : Fits q (r.pushAtom atom) := by
  refine h.push ?_
  rw [h.flags]
  cases atom with
  | char c => exact Expr.binds_literal [c]
  | «class» set => exact Expr.binds_ofSet set
  | assertion p => exact Expr.binds_assert p

theorem nextBranch (h : Fits q r) : Fits q r.nextBranch :=
  ⟨h.flags, ⟨List.forall_mem_cons.2 ⟨h.branch, h.level.branches⟩,
    fun _ hx => absurd hx List.not_mem_nil⟩, h.opened⟩

theorem openGroup (h : Fits q r) : Fits q (r.openGroup none .none) :=
  ⟨rfl, .empty, List.forall_mem_cons.2 ⟨⟨rfl, h.flags, h.level⟩, h.opened⟩⟩

theorem closeGroup (h : Fits q r) (hclose : r.closeGroup = some r') : Proceeds q r s r' s := by
  unfold Reader.closeGroup at hclose
  split at hclose
  · simp at hclose
  · rename_i group opened hopened
    have hgroups := h.opened
    rw [hopened] at hgroups
    obtain ⟨⟨hindex, hflags, hlevel⟩, hopened'⟩ := List.forall_mem_cons.1 hgroups
    obtain rfl := Option.some.inj hclose
    refine ⟨⟨hflags, hlevel.push ?_, hopened'⟩, rfl, .refl s⟩
    rw [hindex]
    exact h.expr

theorem repeatItem (h : Fits q r) {least : Nat} {most : Option Nat}
    (hrepeat : r.repeatItem least most s = some (r', rest)) : Proceeds q r s r' rest := by
  unfold Reader.repeatItem at hrepeat
  split at hrepeat
  · rename_i x items hitems
    obtain ⟨hbranches, htaken⟩ := h.level
    rw [hitems] at htaken
    have hx := htaken x List.mem_cons_self
    -- whichever count it prefers, the repetition binds what the item binds
    have hrepeated : ∀ greedy, Fits q { r with
        items := some ⟨.repeated least most greedy x.value, x.depth + 1⟩ :: items } := by
      refine fun greedy => ⟨h.flags, LevelBinds.push ⟨hbranches, ?_⟩ ?_, h.opened⟩
      · exact fun y hy => htaken y (List.mem_cons_of_mem _ hy)
      · exact Expr.binds_repeated least most greedy hx
    dsimp only at hrepeat
    split at hrepeat
    · obtain ⟨rfl, rfl⟩ := Prod.mk.inj (Option.some.inj hrepeat)
      exact ⟨hrepeated _, rfl, .cons (by decide) (.refl _)⟩
    · obtain ⟨rfl, rfl⟩ := Prod.mk.inj (Option.some.inj hrepeat)
      exact ⟨hrepeated _, rfl, .refl _⟩
  · simp at hrepeat

/-! ### Steps -/

/-- **A step over a character that is no mark of a piece reads up to a mark.** -/
theorem step_unmarked (h : Fits q r) {c : Char} (hc : c ∉ ['(', '[', '\\'])
    (hstep : r.step c s = some (r', rest)) : Proceeds q r s r' rest := by
  unfold Reader.step at hstep
  split at hstep
  · simp at hc
  · obtain ⟨closed, hclosed, heq⟩ := Option.map_eq_some_iff.1 hstep
    obtain ⟨rfl, rfl⟩ := Prod.mk.inj heq
    exact h.closeGroup hclosed
  · obtain ⟨rfl, rfl⟩ := Prod.mk.inj (Option.some.inj hstep)
    exact ⟨h.nextBranch, rfl, .refl s⟩
  · exact h.repeatItem hstep
  · exact h.repeatItem hstep
  · exact h.repeatItem hstep
  · obtain ⟨⟨least, most, after⟩, hbounds, hrepeat⟩ := Option.bind_eq_some_iff.1 hstep
    rw [h.flags] at hbounds hrepeat
    obtain ⟨hfits, hgroups, hupTo⟩ := h.repeatItem hrepeat
    exact ⟨hfits, hgroups, (upTo_of_readBounds hbounds).trans hupTo⟩
  · simp at hc
  · simp at hc
  · obtain ⟨set, -, heq⟩ := Option.map_eq_some_iff.1 hstep
    obtain ⟨rfl, rfl⟩ := Prod.mk.inj heq
    exact ⟨h.pushAtom _, rfl, .refl s⟩
  all_goals
    obtain ⟨rfl, rfl⟩ := Prod.mk.inj (Option.some.inj hstep)
    exact ⟨h.pushAtom _, rfl, .refl s⟩

/-- **A step over a backslash reads a character, and then up to a mark.** -/
theorem step_escape (h : Fits q r) (hstep : r.step '\\' s = some (r', rest)) :
    ∃ c t, s = c :: t ∧ Proceeds q r t r' rest := by
  obtain ⟨⟨atom, after⟩, hatom, heq⟩ := Option.map_eq_some_iff.1 hstep
  obtain ⟨rfl, rfl⟩ := Prod.mk.inj heq
  rw [h.flags] at hatom
  cases s with
  | nil => simp [Atom.ofEscape] at hatom
  | cons c t =>
    refine ⟨c, t, rfl, h.pushAtom atom, rfl, ?_⟩
    rcases ofEscape_cases hatom with ⟨p, -, hupTo⟩ | htakes
    · exact hupTo
    · exact htakes.upTo

/-- **A step over a bracket reads a class.** -/
theorem step_bracket (h : Fits q r) {set : Written CharSet}
    (hset : readBracket .none s = some (set, rest)) :
    ∃ r', r.step '[' s = some (r', rest) ∧ Fits q r' ∧ r'.groups = r.groups := by
  refine ⟨r.push ⟨.ofSet set.value, set.depth⟩, ?_, h.push (Expr.binds_ofSet _), rfl⟩
  show (readBracket r.flags s).map _ = _
  rw [h.flags, hset]
  rfl

end Fits

end Deobfuscation.Regex
