import Deobfuscation.Proofs.Regex.Steps
import Deobfuscation.Proofs.Template.Components
import Deobfuscation.Proofs.Template.Fragments

/-!
# Placeholders and the numbers of groups

Each placeholder becomes a group, and a group is told by its number, which counts opening
parentheses.  In a **tidy** template nothing but the placeholders opens a group that counts, and no
placeholder stands where a parenthesis would mean something else.  So the groups of its expression
are those of its placeholders in their order, and what a group captures is a stretch that the
fragment of its own placeholder matches.

* `Template.Tidy` — the templates, piece by piece;
* `Tidy.upTo` — **proved**: what is read of an expanded template is read of the template;
* `numbersIn` — **proved**, by induction on the steps: reading numbers the groups so;
* `Template.groups_of_tidy` — **proved**: a tidy template has one group for each placeholder, and
  each component of a frame is read where a fragment of its kind matches.
-/

namespace Deobfuscation

open Regex

namespace Template

/-! ### Tidy templates -/

/-- A template, or what is left of it, of which so many placeholders are still recognised.  Outside
its placeholders it opens no group but those that do not capture, a percent sign that means nothing
stands at its end only, and no percent sign stands behind a backslash or in a bracketed class. -/
inductive Tidy : Nat → List Char → Prop
  | nil (limit : Nat) : Tidy limit []
  | placeholder {limit : Nat} {c : Char} {s : List Char} {placeholder : Placeholder}
      (known : Placeholder.ofLetter? c = some placeholder) (rest : Tidy limit s) :
      Tidy (limit + 1) ('%' :: c :: s)
  | percent (limit : Nat) : Tidy limit ['%']
  | backslash (limit : Nat) : Tidy limit ['\\']
  | escape {limit : Nat} {c : Char} {s : List Char} (percent : 0 < limit → c ≠ '%')
      (rest : Tidy limit s) : Tidy limit ('\\' :: c :: s)
  | group {limit : Nat} {s : List Char} (rest : Tidy limit s) :
      Tidy limit ('(' :: '?' :: ':' :: s)
  | bracket {limit : Nat} {w s : List Char} {set : Written CharSet}
      (reads : readBracket .none (w ++ s) = some (set, s)) (percent : 0 < limit → '%' ∉ w)
      (rest : Tidy limit s) : Tidy limit ('[' :: (w ++ s))
  | char {limit : Nat} {c : Char} {s : List Char} (plain : c ∉ ['(', '[', '\\'])
      (percent : 0 < limit → c ≠ '%') (rest : Tidy limit s) : Tidy limit (c :: s)

/-! ### Expanding -/

section Expand

variable {limit : Nat} {c : Char} {s w : List Char}

theorem expand_nil (limit : Nat) : expand limit [] = ([], []) := by cases limit <;> rfl

/-- What is no placeholder stays. -/
theorem expand_cons (h : 0 < limit → c ≠ '%') :
    expand limit (c :: s) = (c :: (expand limit s).1, (expand limit s).2) := by
  cases limit with
  | zero => simp only [expand]
  | succ limit =>
    have hc := h (Nat.succ_pos _)
    rw [expand]
    exact fun _ _ hpercent _ => hc hpercent

theorem expand_append (h : 0 < limit → '%' ∉ w) :
    expand limit (w ++ s) = (w ++ (expand limit s).1, (expand limit s).2) := by
  induction w with
  | nil => rfl
  | cons c w ih =>
    have hc : 0 < limit → c ≠ '%' := fun hlimit hc => h hlimit (hc ▸ List.mem_cons_self)
    have hw : 0 < limit → '%' ∉ w := fun hlimit hmem => h hlimit (List.mem_cons_of_mem c hmem)
    rw [List.cons_append, expand_cons hc, ih hw]
    rfl

theorem expand_placeholder {placeholder : Placeholder}
    (h : Placeholder.ofLetter? c = some placeholder) :
    expand (limit + 1) ('%' :: c :: s) =
      ('(' :: placeholder.fragment ++ ')' :: (expand limit s).1,
        placeholder :: (expand limit s).2) := by
  rw [expand, h]

theorem expand_percent (limit : Nat) : expand limit ['%'] = (['%'], []) := by
  cases limit <;> rfl

end Expand

/-- The text that is read when so much of a template is left. -/
def pending (limit : Nat) (u : List Char) : List Char := (expand limit u).1 ++ [')']

theorem pending_cons {limit : Nat} {c : Char} {s : List Char} (h : 0 < limit → c ≠ '%') :
    pending limit (c :: s) = c :: pending limit s := by
  rw [pending, expand_cons h]
  rfl

namespace Tidy

variable {limit : Nat} {u : List Char}

/-- An unmarked text in front of what is expanded is in front of the template too. -/
theorem exists_rest (h : Tidy limit u) {w e : List Char} (hw : Unmarked w)
    (he : (expand limit u).1 = w ++ e) :
    ∃ v, Tidy limit v ∧ (expand limit v).1 = e ∧ (expand limit v).2 = (expand limit u).2 := by
  induction w generalizing u with
  | nil => exact ⟨u, h, he, rfl⟩
  | cons c w ih =>
    have hc : c ∉ marks := hw c List.mem_cons_self
    -- every piece but a plain character begins with a mark
    have hmark : ∀ {d : Char} {t : List Char}, d ∈ marks → d :: t = c :: w ++ e → False := by
      intro d t hd ht
      exact hc ((List.cons.inj ht).1 ▸ hd)
    cases h with
    | nil => simp [expand_nil] at he
    | placeholder known rest =>
      rw [expand_placeholder known] at he
      exact (hmark (by decide) he).elim
    | percent =>
      rw [expand_percent] at he
      exact (hmark (by decide) he).elim
    | backslash =>
      rw [expand_cons fun _ => by decide] at he
      exact (hmark (by decide) he).elim
    | escape percent rest =>
      rw [expand_cons fun _ => by decide] at he
      exact (hmark (by decide) he).elim
    | group rest =>
      rw [expand_cons fun _ => by decide] at he
      exact (hmark (by decide) he).elim
    | bracket reads percent rest =>
      rw [expand_cons fun _ => by decide] at he
      exact (hmark (by decide) he).elim
    | char plain percent rest =>
      rw [expand_cons percent] at he ⊢
      obtain ⟨-, he⟩ := List.cons.inj he
      exact ih rest (fun d hd => hw d (List.mem_cons_of_mem c hd)) he

/-- **What is read of an expanded template up to a mark is read of the template.** -/
theorem upTo (h : Tidy limit u) {rest : List Char} (hrest : UpTo (pending limit u) rest) :
    ∃ v, Tidy limit v ∧ pending limit v = rest ∧ (expand limit v).2 = (expand limit u).2 := by
  obtain ⟨w, hw, hsplit⟩ := hrest
  -- the parenthesis at the end is not read
  obtain ⟨e, he, rfl⟩ : ∃ e, (expand limit u).1 = w ++ e ∧ rest = e ++ [')'] := by
    rcases List.append_eq_append_iff.1 hsplit with ⟨a, rfl, ha⟩ | ⟨e, he, hrest⟩
    · cases a with
      | nil => exact ⟨[], by simp, ha.symm⟩
      | cons d a =>
        obtain rfl : ')' = d := (List.cons.inj ha).1
        exact absurd (by decide) (hw ')' (by simp))
    · exact ⟨e, he, hrest⟩
  obtain ⟨v, hv, hexpand, hplaceholders⟩ := h.exists_rest hw he
  exact ⟨v, hv, by rw [pending, hexpand], hplaceholders⟩

end Tidy

/-! ### Reading tidy templates -/

/-- A group and its body are those of a placeholder, told by its place among them. -/
def IsPlaceholder (placeholders : List Placeholder) (b : Nat × Expr) : Prop :=
  ∃ i placeholder, placeholders[i]? = some placeholder ∧ b = (i + 1, placeholder.expr)

/-- What is read from a state on: the reader that is left binds the groups of the placeholders, and
the groups that are opened have the fragments of some of them as their bodies. -/
structure Numbers (all placeholders : List Placeholder) (bound : Nat) (r : Reader) (s : List Char)
    (q : Reader) : Prop where
  fits : Fits (IsPlaceholder all) q
  texts : Reader.groupTexts (Reader.states bound r s) = placeholders.map Placeholder.fragment

section Run

variable {all placeholders : List Placeholder} {bound : Nat} {r r₁ q : Reader} {c : Char}
  {s s₁ : List Char}

/-- A step that opens no group leaves it to what follows to open them. -/
theorem Numbers.step (flags : r.flags = .none) (next : r.step c s = some (r₁, s₁))
    (hgroups : r₁.groups = r.groups) (h : Numbers all placeholders bound r₁ s₁ q) :
    Numbers all placeholders (bound + 1) r (c :: s) q := by
  refine ⟨h.fits, ?_⟩
  rw [← h.texts, states_step flags next]
  obtain ⟨later, hlater⟩ := states_eq_cons bound r₁ s₁
  rw [hlater, Reader.groupTexts, if_neg (by rw [hgroups]; exact Nat.lt_irrefl _)]

/-- At the end nothing more is opened. -/
theorem Numbers.done (hr : Fits (IsPlaceholder all) r) (h : Reader.run bound r [] = some q) :
    Numbers all [] bound r [] q := by
  have hrun : Reader.run bound r [] = some r := by
    rw [Reader.run.eq_def]
    simp [hr.flags]
  have hstates : Reader.states bound r [] = [(r, [])] := by
    rw [Reader.states.eq_def]
    simp [hr.flags]
  obtain rfl := Option.some.inj (hrun.symm.trans h)
  exact ⟨hr, by rw [hstates]; rfl⟩

end Run

theorem bodies_expr (placeholder : Placeholder) : placeholder.expr.bodies = [] := by
  cases placeholder <;> decide

/-- The reader is about to read what is left of a tidy template, and it has opened a group for each
placeholder that it has passed. -/
structure Awaits (all : List Placeholder) (limit : Nat) (u : List Char) (r : Reader) : Prop where
  tidy : Tidy limit u
  fits : Fits (IsPlaceholder all) r
  counted : ∃ passed, r.groups = passed.length ∧ all = passed ++ (expand limit u).2

/-- In so many steps what is left of a tidy template is numbered. -/
def NumbersIn (all : List Placeholder) (q : Reader) (bound : Nat) : Prop :=
  ∀ {limit : Nat} {u : List Char} {r : Reader}, Awaits all limit u r →
    Reader.run bound r (pending limit u) = some q →
    Numbers all (expand limit u).2 bound r (pending limit u) q

namespace Awaits

variable {all : List Placeholder} {q r r₁ : Reader} {bound limit : Nat} {u v s : List Char}
  {c : Char}

/-- A step that opens no group and leaves the rest of the template. -/
theorem goOn (h : Awaits all limit u r) (ih : ∀ later < bound, NumbersIn all q later)
    (hrun : Reader.run bound r (pending limit u) = some q) (hu : pending limit u = c :: s)
    (hstep : r.step c s = some (r₁, pending limit v)) (hfits : Fits (IsPlaceholder all) r₁)
    (hgroups : r₁.groups = r.groups) (hv : Tidy limit v)
    (hplaceholders : (expand limit v).2 = (expand limit u).2) :
    Numbers all (expand limit u).2 bound r (pending limit u) q := by
  rw [hu] at hrun ⊢
  obtain ⟨later, r₂, s₂, rfl, hstep', hlater⟩ := exists_step_of_run h.fits.flags hrun
  obtain ⟨rfl, rfl⟩ := Prod.mk.inj (Option.some.inj (hstep.symm.trans hstep'))
  obtain ⟨passed, hpassed, hall⟩ := h.counted
  have hawaits : Awaits all limit v r₁ :=
    ⟨hv, hfits, passed, hgroups.trans hpassed, by rw [hplaceholders, hall]⟩
  have hnumbers := ih later (Nat.lt_succ_self later) hawaits hlater
  rw [hplaceholders] at hnumbers
  exact hnumbers.step h.fits.flags hstep hgroups

/-- A step that opens no group and reads up to a mark. -/
theorem proceed (h : Awaits all limit u r) (ih : ∀ later < bound, NumbersIn all q later)
    (hrun : Reader.run bound r (pending limit u) = some q) (hu : pending limit u = c :: s)
    (hstep : ∀ {r₁ s₁}, r.step c s = some (r₁, s₁) →
      Proceeds (IsPlaceholder all) r (pending limit v) r₁ s₁)
    (hv : Tidy limit v) (hplaceholders : (expand limit v).2 = (expand limit u).2) :
    Numbers all (expand limit u).2 bound r (pending limit u) q := by
  obtain ⟨later, r₁, s₁, -, hr₁, -⟩ := exists_step_of_run h.fits.flags (hu ▸ hrun)
  obtain ⟨hfits, hgroups, hupTo⟩ := hstep hr₁
  obtain ⟨rest, hrest, rfl, hsame⟩ := hv.upTo hupTo
  exact h.goOn ih hrun hu hr₁ hfits hgroups hrest (hsame.trans hplaceholders)

/-- The last step. -/
theorem finish (h : Awaits all limit u r)
    (hrun : Reader.run bound r (pending limit u) = some q) (hu : pending limit u = c :: s)
    (hstep : ∀ {r₁ s₁}, r.step c s = some (r₁, s₁) → Proceeds (IsPlaceholder all) r [] r₁ s₁)
    (hplaceholders : (expand limit u).2 = []) :
    Numbers all (expand limit u).2 bound r (pending limit u) q := by
  rw [hu] at hrun ⊢
  obtain ⟨later, r₁, s₁, rfl, hr₁, hlater⟩ := exists_step_of_run h.fits.flags hrun
  obtain ⟨hfits, hgroups, w, -, hw⟩ := hstep hr₁
  obtain ⟨-, rfl⟩ := List.append_eq_nil_iff.1 hw.symm
  rw [hplaceholders]
  exact (Numbers.done hfits hlater).step h.fits.flags hr₁ hgroups

/-- A placeholder opens the next group, and its fragment is the body. -/
theorem placeholder {placeholder : Placeholder} (h : Awaits all (limit + 1) ('%' :: c :: s) r)
    (ih : ∀ later < bound, NumbersIn all q later)
    (known : Placeholder.ofLetter? c = some placeholder)
    (hs : Tidy limit s) (hrun : Reader.run bound r (pending (limit + 1) ('%' :: c :: s)) = some q) :
    Numbers all (expand (limit + 1) ('%' :: c :: s)).2 bound r
      (pending (limit + 1) ('%' :: c :: s)) q := by
  obtain ⟨passed, hpassed, hall⟩ := h.counted
  rw [expand_placeholder known] at hall
  have hu : pending (limit + 1) ('%' :: c :: s) =
      '(' :: (placeholder.fragment ++ ')' :: pending limit s) := by
    rw [pending, expand_placeholder known, List.append_assoc]
    rfl
  rw [hu] at hrun
  obtain ⟨xs, hpieces, hexpr⟩ := placeholder.exists_pieces_fragment
  obtain ⟨n, inside, depth, hopen, hreads, hflags, hclose⟩ :=
    hpieces.capture (by cases placeholder <;> rfl) h.fits.flags (pending limit s)
  rw [hexpr] at hclose
  -- the reader behind the group has opened one more
  have hbinds : Expr.Binds (IsPlaceholder all) (.group (r.groups + 1) placeholder.expr) := by
    refine Expr.binds_group.2 ⟨⟨passed.length, placeholder, ?_, by rw [hpassed]⟩,
      Expr.binds_of_bodies_eq_nil (bodies_expr placeholder)⟩
    rw [hall, List.getElem?_append_right (Nat.le_refl _), Nat.sub_self]
    rfl
  have hfits : Fits (IsPlaceholder all) { r with groups := r.groups + 1 } :=
    ⟨h.fits.flags, h.fits.level, h.fits.opened⟩
  have hawaits : Awaits all limit s ({ r with groups := r.groups + 1 }.push
      ⟨.group (r.groups + 1) placeholder.expr, depth⟩) :=
    ⟨hs, hfits.push hbinds, passed ++ [placeholder], by simp [Reader.push, hpassed], by simp [hall]⟩
  have hadvances := Advances.step h.fits.flags hopen trivial
    ((hreads.mono fun _ _ => trivial).trans (.one hflags hclose trivial))
  obtain ⟨later, rfl, hlater⟩ := hadvances.exists_bound hrun
  obtain ⟨hfitsEnd, htexts⟩ := ih later (by omega) hawaits hlater
  rw [hu, expand_placeholder known]
  refine ⟨hfitsEnd, ?_⟩
  have hcapture := groupTexts_states_capture h.fits.flags hopen (Nat.lt_succ_self _) hreads hflags
    hclose rfl (Nat.lt_succ_self _) later
  rw [htexts] at hcapture
  rw [Nat.add_right_comm (n + 1) 1 later]
  exact hcapture

end Awaits

/-- **Reading a tidy template numbers its groups as it numbers its placeholders.** -/
theorem numbersIn (all : List Placeholder) (q : Reader) (bound : Nat) : NumbersIn all q bound := by
  induction bound using Nat.strong_induction_on with
  | _ bound ih =>
    intro limit u r h hrun
    have hr := h.fits
    cases h.tidy with
    | nil =>
      have hu : pending limit [] = [')'] := by rw [pending, expand_nil]; rfl
      exact h.finish hrun hu (hr.step_unmarked (by decide)) (by rw [expand_nil])
    | placeholder known rest => exact h.placeholder ih known rest hrun
    | percent =>
      have hu : pending limit ['%'] = '%' :: pending limit [] := by
        rw [pending, expand_percent, pending, expand_nil]; rfl
      exact h.proceed ih hrun hu (hr.step_unmarked (by decide)) (.nil limit)
        (by rw [expand_nil, expand_percent])
    | backslash =>
      have hu : pending limit ['\\'] = ['\\', ')'] := by
        rw [pending, expand_cons fun _ => by decide, expand_nil]; rfl
      refine h.finish hrun hu (fun hstep => ?_) (by rw [expand_cons fun _ => by decide, expand_nil])
      obtain ⟨c, t, ht, hproceeds⟩ := hr.step_escape hstep
      obtain ⟨-, rfl⟩ := List.cons.inj ht
      exact hproceeds
    | @escape _ c s percent rest =>
      have hu : pending limit ('\\' :: c :: s) = '\\' :: c :: pending limit s := by
        rw [pending_cons fun _ => by decide, pending_cons percent]
      refine h.proceed ih hrun hu (fun hstep => ?_) rest
        (by rw [expand_cons fun _ => by decide, expand_cons percent])
      obtain ⟨d, t, ht, hproceeds⟩ := hr.step_escape hstep
      obtain ⟨-, rfl⟩ := List.cons.inj ht
      exact hproceeds
    | @group _ s rest =>
      have hu : pending limit ('(' :: '?' :: ':' :: s) = '(' :: '?' :: ':' :: pending limit s := by
        rw [pending_cons fun _ => by decide, pending_cons fun _ => by decide,
          pending_cons fun _ => by decide]
      refine h.goOn ih hrun hu (step_openGroup hr.flags _) hr.openGroup rfl rest ?_
      rw [expand_cons fun _ => by decide, expand_cons fun _ => by decide,
        expand_cons fun _ => by decide]
    | @bracket _ w s set reads percent rest =>
      have hu : pending limit ('[' :: (w ++ s)) = '[' :: (w ++ pending limit s) := by
        rw [pending_cons fun _ => by decide, pending, expand_append percent, List.append_assoc]
        rfl
      obtain ⟨w', hw, hreads⟩ := readBracket_takes reads
      obtain rfl := List.append_cancel_right hw
      obtain ⟨r₁, hstep, hfits, hgroups⟩ := hr.step_bracket (hreads (pending limit s))
      exact h.goOn ih hrun hu hstep hfits hgroups rest
        (by rw [expand_cons fun _ => by decide, expand_append percent])
    | char plain percent rest =>
      exact h.proceed ih hrun (pending_cons percent) (hr.step_unmarked plain) rest
        (by rw [expand_cons percent])

/-! ### Templates and lines -/

section Compiled

variable {text line : List Char} {template : Template}

theorem expression_eq_pending (text : List Char) :
    expression text = pending placeholderLimit ('^' :: '(' :: '?' :: ':' :: text) := by
  rw [pending_cons fun _ => by decide, pending_cons fun _ => by decide,
    pending_cons fun _ => by decide, pending_cons fun _ => by decide]
  rfl

/-- The expression of a tidy template has the groups of its placeholders, and so has its plan. -/
theorem exists_expr_of_tidy (h : ofText? text = some template)
    (htidy : Tidy placeholderLimit text) :
    ∃ x, template.plan = .ofExpr x ∧ Expr.Binds (IsPlaceholder template.placeholders) x ∧
      Expr.groupTexts (expression text) = template.placeholders.map Placeholder.fragment := by
  obtain ⟨x, hx, rfl⟩ := Option.map_eq_some_iff.1 h
  have hplaceholders : (expand placeholderLimit ('^' :: '(' :: '?' :: ':' :: text)).2 =
      (expand placeholderLimit text).2 := by
    rw [expand_cons fun _ => by decide, expand_cons fun _ => by decide,
      expand_cons fun _ => by decide, expand_cons fun _ => by decide]
  have hbegin : Awaits (expand placeholderLimit text).2 placeholderLimit
      ('^' :: '(' :: '?' :: ':' :: text) .initial :=
    ⟨.char (by decide) (fun _ => by decide) (.group htidy),
      ⟨rfl, .empty, fun _ hgroup => absurd hgroup List.not_mem_nil⟩, [], rfl, hplaceholders.symm⟩
  unfold Expr.ofText? at hx
  split at hx
  · rename_i q hrun
    rw [expression_eq_pending] at hrun
    obtain ⟨hfits, htexts⟩ := numbersIn _ q _ hbegin hrun
    rw [hplaceholders, ← expression_eq_pending] at htexts
    obtain ⟨-, hvalue⟩ := Option.ite_none_right_eq_some.1 hx
    obtain rfl := Option.some.inj hvalue
    exact ⟨_, rfl, hfits.expr, htexts⟩
  · simp at hx

end Compiled

end Template

/-! ### Lines -/

/-- A slot of a line is a stretch that the fragment of its placeholder matches there. -/
def Slot.Matches (slot : Slot) (line : List Char) : Prop :=
  ∃ x, Expr.ofText? slot.placeholder.fragment = some x ∧ x.MatchesAt line slot.span

/-- A component of a frame is what a slot of a line tells, which its own fragment matches. -/
def Slot.Tells (slot : Slot) (line : List Char) (placeholder : Placeholder) (frame : StackFrame) :
    Prop :=
  slot.placeholder.component = placeholder.component ∧ slot.Matches line ∧
    placeholder.write false frame =
      placeholder.write false (slot.placeholder.read (slot.span.text line) .unknown)

/-- What is read for a component does not depend on what was known of it. -/
theorem write_read_component {written read : Placeholder}
    (h : read.component = written.component) (t : List Char) (frame frame' : StackFrame) :
    written.write false (read.read t frame) = written.write false (read.read t frame') := by
  cases written <;> cases read <;> first | rfl | exact absurd h (by decide)

/-- **A component is unknown, or one of the slots tells it.** -/
theorem exists_slot_of_frameOfSlots (placeholder : Placeholder) (line : List Char)
    (slots : List Slot) :
    placeholder.write false (frameOfSlots line slots) = placeholder.write false .unknown ∨
      ∃ slot ∈ slots, slot.placeholder.component = placeholder.component ∧
        placeholder.write false (frameOfSlots line slots) =
          placeholder.write false (slot.placeholder.read (slot.span.text line) .unknown) := by
  induction slots using List.reverseRecOn with
  | nil => exact .inl rfl
  | append_singleton slots slot ih =>
    have hsnoc : frameOfSlots line (slots ++ [slot]) =
        readSlot line (frameOfSlots line slots) slot := by
      rw [frameOfSlots_eq_foldl, List.foldl_append]
      rfl
    rw [hsnoc]
    by_cases htells : slot.placeholder.component = placeholder.component ∧
        (slot.span.text line).isEmpty = false
    · obtain ⟨hcomponent, hempty⟩ := htells
      refine .inr ⟨slot, by simp, hcomponent, ?_⟩
      rw [readSlot, if_neg (by simp [hempty])]
      exact write_read_component hcomponent _ _ _
    · -- the last slot leaves the component as the earlier ones have told it
      have hsame : placeholder.write false (readSlot line (frameOfSlots line slots) slot) =
          placeholder.write false (frameOfSlots line slots) := by
        rw [readSlot]
        split
        · rfl
        · rename_i hempty
          exact Placeholder.write_read_of_ne
            (fun hcomponent => htells ⟨hcomponent, by simpa using hempty⟩) _ _
      rw [hsame]
      refine ih.imp_right ?_
      rintro ⟨other, hother, htells⟩
      exact ⟨other, List.mem_append_left _ hother, htells⟩

namespace Template

/-- **A tidy template has one group for each placeholder**, in their order and with their fragments
as bodies.  So each slot of a line is a stretch that the fragment of its placeholder matches, and
each component of the frame that is read is unknown or read from such a slot of its own kind. -/
theorem groups_of_tidy {text : List Char} {template : Template}
    (h : ofText? text = some template) (htidy : Tidy placeholderLimit text) :
    Expr.groupTexts (expression text) = template.placeholders.map Placeholder.fragment ∧
      (∀ line slots, template.slots? line = some slots → ∀ slot ∈ slots, slot.Matches line) ∧
      ∀ line frame, template.parse? line = some frame → ∀ placeholder : Placeholder,
        placeholder.write false frame = placeholder.write false .unknown ∨
          ∃ slot : Slot, slot.Tells line placeholder frame := by
  obtain ⟨x, hplan, hbinds, htexts⟩ := exists_expr_of_tidy h htidy
  have hslots : ∀ line slots, template.slots? line = some slots →
      ∀ slot ∈ slots, slot.Matches line := by
    intro line slots hslots slot hmem
    obtain ⟨captures, hfind, rfl⟩ := Option.map_eq_some_iff.1 hslots
    rw [hplan] at hfind
    obtain ⟨i, hi, hcaptured⟩ := (mem_slotsFrom_iff template.placeholders).1 hmem
    obtain ⟨capture, hcapture, hspan⟩ := Option.map_eq_some_iff.1 hcaptured
    obtain ⟨y, hy, hmatches⟩ :=
      Expr.matchesAt_of_find hfind capture (List.mem_of_find?_eq_some hcapture)
    -- the group of the capture is that of the placeholder
    obtain ⟨j, placeholder, hj, hbody⟩ := hbinds _ hy
    have hgroup : capture.group = 1 + i := by simpa using List.find?_some hcapture
    obtain ⟨hnumber, rfl⟩ := Prod.mk.inj hbody
    obtain rfl : i = j := by omega
    obtain rfl := Option.some.inj (hi.symm.trans hj)
    exact ⟨_, Placeholder.ofText?_fragment _, hspan ▸ hmatches⟩
  refine ⟨htexts, hslots, fun line frame hparse placeholder => ?_⟩
  obtain ⟨slots, hline, rfl⟩ := Option.map_eq_some_iff.1 hparse
  refine (exists_slot_of_frameOfSlots placeholder line slots).imp_right ?_
  rintro ⟨slot, hmem, hcomponent, htells⟩
  exact ⟨slot, hcomponent, hslots line slots hline slot hmem, htells⟩

/-- A template with a group that does not count, escaped parentheses and a class. -/
theorem groups_of_tidy_frame :
    ∃ template, ofText? "at %c\\.%m(?:\\(%s\\))?[ ]*".toList = some template ∧
      Expr.groupTexts (expression "at %c\\.%m(?:\\(%s\\))?[ ]*".toList) =
        template.placeholders.map Placeholder.fragment ∧
      ∃ frame, template.parse? "at a.b.c(D.java) ".toList = some frame ∧
        ∃ slot : Slot, slot.Tells "at a.b.c(D.java) ".toList .sourceFile frame := by
  have hparse : ((ofText? "at %c\\.%m(?:\\(%s\\))?[ ]*".toList).bind
      (·.parse? "at a.b.c(D.java) ".toList)) =
        some ⟨"a.b", "D.java", 0, "", "", "c", ""⟩ := by
    decide +kernel
  obtain ⟨template, htemplate, hframe⟩ := Option.bind_eq_some_iff.1 hparse
  have htidy : Tidy placeholderLimit "at %c\\.%m(?:\\(%s\\))?[ ]*".toList := by
    have hclass : Tidy 29 ['[', ' ', ']', '*'] :=
      .bracket (show readBracket .none ([' ', ']'] ++ ['*']) = some (_, ['*']) from rfl)
        (fun _ => by decide) (.char (by decide) (fun _ => by decide) (.nil _))
    have hsource : Tidy 30 ['%', 's', '\\', ')', ')', '?', '[', ' ', ']', '*'] :=
      .placeholder (show Placeholder.ofLetter? 's' = some .sourceFile from rfl)
        (.escape (fun _ => by decide) (.char (by decide) (fun _ => by decide)
          (.char (by decide) (fun _ => by decide) hclass)))
    have hmethod : Tidy 31 (['%', 'm', '(', '?', ':', '\\', '('] ++
        ['%', 's', '\\', ')', ')', '?', '[', ' ', ']', '*']) :=
      .placeholder (show Placeholder.ofLetter? 'm' = some .method from rfl)
        (.group (.escape (fun _ => by decide) hsource))
    exact .char (by decide) (fun _ => by decide) (.char (by decide) (fun _ => by decide)
      (.char (by decide) (fun _ => by decide)
        (.placeholder (show Placeholder.ofLetter? 'c' = some .dottedClass from rfl)
          (.escape (fun _ => by decide) hmethod))))
  obtain ⟨htexts, -, htells⟩ := groups_of_tidy htemplate htidy
  refine ⟨template, htemplate, htexts, _, hframe, ?_⟩
  exact (htells _ _ hframe .sourceFile).resolve_left (by decide)

end Template

end Deobfuscation
