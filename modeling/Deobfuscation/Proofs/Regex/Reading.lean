import Deobfuscation.Proofs.Regex.Extent

/-!
# Reading step by step

The reader goes from state to state.  A group opens where the count of groups grows, and it closes
where fewer groups are open than just behind its parenthesis; its body is the text in between.  So
the states on the way tell which groups a text writes, in the order of their opening parentheses.

* `Reader.states`, `Reader.groupTexts` — the states on the way, and the bodies of the groups;
* `Expr.groupTexts` — the bodies of the groups of a written expression;
* `Advances` — steps from one state to another, with what holds of every state on the way;
* `Advances.exists_bound`, `Advances.groupTexts_states` — **proved**: a run goes on behind such
  steps, and they write no group if they open none;
* `groupTexts_states_capture` — **proved**: a group is written with its body, before the groups
  behind it.
-/

namespace Deobfuscation.Regex

/-! ### The groups of a written expression -/

namespace Reader

/-- The states that reading goes through in at most so many steps, each with the text left. -/
def states : Nat → Reader → List Char → List (Reader × List Char)
  | bound, r, s =>
    match r.flags.skip s, bound with
    | [], _ => [(r, s)]
    | _, 0 => [(r, s)]
    | c :: t, bound + 1 =>
      (r, s) ::
        match r.step c t with
        | some (next, rest) => states bound next rest
        | none => []

/-- The bodies of the groups that states open, in the order in which they are opened.  A group that
is not closed goes on to the end. -/
def groupTexts : List (Reader × List Char) → List (List Char)
  | (r, _) :: (inside, s) :: later =>
    let texts := groupTexts ((inside, s) :: later)
    if r.groups < inside.groups then
      match later.find? fun (q, _) => q.opened.length < inside.opened.length with
      | some (_, rest) => s.take (s.length - (rest.length + 1)) :: texts
      | none => s :: texts
    else texts
  | _ => []

end Reader

/-- The bodies of the groups that an expression writes, in the order of their opening
parentheses. -/
def Expr.groupTexts (s : List Char) : List (List Char) :=
  Reader.groupTexts (Reader.states s.length .initial s)

/-! ### Steps -/

/-- So many steps lead from one state to another while no flags are set, and every state that they
lead to is as it is said. -/
inductive Advances (p : Reader → Prop) : Nat → Reader → List Char → Reader → List Char → Prop
  | refl (r : Reader) (s : List Char) : Advances p 0 r s r s
  | step {n : Nat} {r r₁ r₂ : Reader} {c : Char} {s s₁ s₂ : List Char} (flags : r.flags = .none)
      (next : r.step c s = some (r₁, s₁)) (holds : p r₁) (later : Advances p n r₁ s₁ r₂ s₂) :
      Advances p (n + 1) r (c :: s) r₂ s₂

namespace Advances

variable {p p' : Reader → Prop} {n m : Nat} {r r₁ r₂ q : Reader} {s s₁ s₂ : List Char}

theorem trans (h : Advances p n r s r₁ s₁) (h' : Advances p m r₁ s₁ r₂ s₂) :
    Advances p (n + m) r s r₂ s₂ := by
  induction h with
  | refl r s => rwa [Nat.zero_add]
  | step flags next holds _ ih =>
    rw [Nat.add_right_comm]
    exact .step flags next holds (ih h')

theorem mono (h : Advances p n r s r₁ s₁) (hp : ∀ q, p q → p' q) : Advances p' n r s r₁ s₁ := by
  induction h with
  | refl r s => exact .refl r s
  | step flags next holds _ ih => exact .step flags next (hp _ holds) ih

/-- What holds of every state on the way holds of the last. -/
theorem last (h : Advances p n r s r₁ s₁) (hr : p r) : p r₁ := by
  induction h with
  | refl r s => exact hr
  | step flags next holds _ ih => exact ih holds

theorem one {c : Char} (flags : r.flags = .none) (next : r.step c s = some (r₁, s₁))
    (holds : p r₁) : Advances p 1 r (c :: s) r₁ s₁ :=
  .step flags next holds (.refl r₁ s₁)

end Advances

theorem states_step {r r₁ : Reader} {c : Char} {s s₁ : List Char} (flags : r.flags = .none)
    (next : r.step c s = some (r₁, s₁)) (bound : Nat) :
    Reader.states (bound + 1) r (c :: s) = (r, c :: s) :: Reader.states bound r₁ s₁ := by
  rw [Reader.states.eq_def]
  simp only [flags, skip_none, next]

/-- A run that reads a character goes on behind a step over it. -/
theorem exists_step_of_run {r q : Reader} {c : Char} {s : List Char} {bound : Nat}
    (flags : r.flags = .none) (h : Reader.run bound r (c :: s) = some q) :
    ∃ later r₁ s₁, bound = later + 1 ∧ r.step c s = some (r₁, s₁) ∧
      Reader.run later r₁ s₁ = some q := by
  cases bound with
  | zero =>
    rw [Reader.run.eq_def] at h
    simp [flags] at h
  | succ later =>
    rw [Reader.run.eq_def] at h
    simp only [flags, skip_none] at h
    split at h
    · rename_i r₁ s₁ hstep
      exact ⟨later, r₁, s₁, rfl, hstep, h⟩
    · simp at h

/-- A parenthesis, a question mark and a colon open a group that captures nothing. -/
theorem step_openGroup {r : Reader} (flags : r.flags = .none) (s : List Char) :
    r.step '(' ('?' :: ':' :: s) = some (r.openGroup none .none, s) := by
  rw [Reader.step, flags]
  simp only [Reader.openSpecial, flags]
  rfl

/-- A parenthesis without a question mark opens a group that captures. -/
theorem step_openCapture {r : Reader} (flags : r.flags = .none) {s : List Char}
    (hs : s.head? ≠ some '?') : r.step '(' s = some (r.openCapture, s) := by
  rw [Reader.step, flags, skip_none]
  split
  · exact absurd rfl hs
  · rfl

/-- The first state is where reading begins. -/
theorem states_eq_cons (bound : Nat) (r : Reader) (s : List Char) :
    ∃ later, Reader.states bound r s = (r, s) :: later := by
  unfold Reader.states
  split
  · exact ⟨[], rfl⟩
  · exact ⟨[], rfl⟩
  · exact ⟨_, rfl⟩

namespace Advances

variable {p : Reader → Prop} {n : Nat} {r r' q : Reader} {s s' : List Char}

/-- **A run goes on behind steps.** -/
theorem exists_bound (h : Advances p n r s r' s') {bound : Nat}
    (hrun : Reader.run bound r s = some q) :
    ∃ later, bound = n + later ∧ Reader.run later r' s' = some q := by
  induction h generalizing bound with
  | refl r s => exact ⟨bound, (Nat.zero_add _).symm, hrun⟩
  | @step n r r₁ r₂ c s s₁ s₂ flags next _ _ ih =>
    obtain ⟨bound, r₃, s₃, rfl, hstep, hfirst⟩ := exists_step_of_run flags hrun
    obtain ⟨rfl, rfl⟩ := Prod.mk.inj (Option.some.inj (next.symm.trans hstep))
    obtain ⟨later, rfl, hlater⟩ := ih hfirst
    exact ⟨later, Nat.add_right_comm _ _ _, hlater⟩

/-- **Steps that open no group write none.** -/
theorem groupTexts_states {groups : Nat} (h : Advances p n r s r' s')
    (hp : ∀ q, p q → q.groups = groups) (hr : r.groups = groups) (bound : Nat) :
    Reader.groupTexts (Reader.states (n + bound) r s) =
      Reader.groupTexts (Reader.states bound r' s') := by
  induction h with
  | refl r s => rw [Nat.zero_add]
  | @step n r r₁ r₂ c s s₁ s₂ flags next holds _ ih =>
    rw [Nat.add_right_comm, states_step flags next, ← ih (hp _ holds)]
    obtain ⟨later, hlater⟩ := states_eq_cons (n + bound) r₁ s₁
    rw [hlater, Reader.groupTexts, if_neg (by rw [hr, hp _ holds]; exact Nat.lt_irrefl _)]

/-- Steps inside a group do not close it. -/
theorem find?_states {depth : Nat} (h : Advances p n r s r' s')
    (hp : ∀ q, p q → depth ≤ q.opened.length) (hr : depth ≤ r.opened.length) (bound : Nat) :
    (Reader.states (n + bound) r s).find? (fun (q, _) => q.opened.length < depth) =
      (Reader.states bound r' s').find? (fun (q, _) => q.opened.length < depth) := by
  induction h with
  | refl r s => rw [Nat.zero_add]
  | @step n r r₁ r₂ c s s₁ s₂ flags next holds _ ih =>
    rw [Nat.add_right_comm, states_step flags next, ← ih (hp _ holds), List.find?_cons_of_neg]
    simpa using hr

end Advances

/-- **A group is written with its body, before the groups behind it.** -/
theorem groupTexts_states_capture {r inside r' : Reader} {body s : List Char} {n : Nat}
    (hr : r.flags = .none)
    (hopens : r.step '(' (body ++ ')' :: s) = some (inside, body ++ ')' :: s))
    (hgroups : r.groups < inside.groups)
    (hbody : Advances (fun q => q.groups = inside.groups ∧ inside.opened.length ≤ q.opened.length) n
      inside (body ++ ')' :: s) r' (')' :: s)) {closed : Reader} (hr' : r'.flags = .none)
    (hcloses : r'.step ')' s = some (closed, s)) (hclosed : closed.groups = inside.groups)
    (hdepth : closed.opened.length < inside.opened.length) (bound : Nat) :
    Reader.groupTexts (Reader.states (n + 1 + bound + 1) r ('(' :: (body ++ ')' :: s))) =
      body :: Reader.groupTexts (Reader.states bound closed s) := by
  -- the states inside the group, up to the one behind its parenthesis
  obtain ⟨later, hlater⟩ := states_eq_cons (n + (bound + 1)) inside (body ++ ')' :: s)
  obtain ⟨behind, hbehind⟩ := states_eq_cons bound closed s
  have hclose := states_step hr' hcloses bound
  obtain ⟨hgroups', hdepth'⟩ := hbody.last ⟨rfl, Nat.le_refl _⟩
  have hfind := hbody.find?_states (fun q hq => hq.2) (Nat.le_refl _) (bound + 1)
  rw [hlater, hclose, hbehind, List.find?_cons_of_neg (by simp),
    List.find?_cons_of_neg (by simpa using hdepth'), List.find?_cons_of_pos (by simpa using hdepth)]
    at hfind
  have htexts := hbody.groupTexts_states (fun q hq => hq.1) rfl (bound + 1)
  rw [hclose, hbehind, Reader.groupTexts, if_neg (by rw [hgroups', hclosed]; exact Nat.lt_irrefl _),
    hlater] at htexts
  rw [Nat.add_assoc n 1 bound, Nat.add_comm 1 bound, states_step hr hopens, hlater,
    Reader.groupTexts, if_pos hgroups, hfind, htexts, hbehind]
  have hlength : (body ++ ')' :: s).length - (s.length + 1) = body.length := by simp
  simp only [hlength, List.take_left]

/-- Groups inside one another and side by side, and parentheses that capture nothing. -/
example : Expr.groupTexts "(a(?:b)(c))\\((d)".toList =
    ["a(?:b)(c)".toList, "c".toList, "d".toList] := by decide +kernel

end Deobfuscation.Regex
