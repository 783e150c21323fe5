import Mathlib.Logic.Relation
import Deobfuscation.Proofs.Template.GroupNumbers
import Deobfuscation.Proofs.Text.Cut

/-!
# Scanning a template

A template can be expanded in two other ways.  A **scan** goes from left to right, one character at
a time, and knows nothing but what it has written, the placeholders it has recognised and whether
the last character was a percent sign that waits for its letter.  A **leap** goes from one percent
sign to the next, copies what stands between them as a whole, and ends as soon as no percent sign is
left, the last one has no letter, or no more placeholders are recognised.  Each of their steps
leaves the outcome as it is, that is what is written so far and the expansion of the rest; so both
of them end with the expression of the template.

* `Scan`, `Scan.next`, `scan` — the scan and its step;
* `outcome_next`, `outcome_foldl` — **proved**: a step keeps the outcome, and so do all steps;
* `Leap`, `Leap.next?`, `Leap.outcome_next` — the leaps, and **proved**: a leap keeps the outcome;
* `exists_leaps` — **proved**: the leaps come to an end;
* `known`, `placeholders_expand` — the placeholders of a template, however many, and **proved**: the
  first of them are recognised;
* `expression_scanned` — **proved**: a template is expanded as it is scanned.
-/

namespace Deobfuscation.Template

open Text

/-! ### One character at a time -/

/-- How far a template is scanned. -/
structure Scan where
  written : List Char
  placeholders : List Placeholder
  /-- The last character is a percent sign that waits for its letter. -/
  percent : Bool
  deriving DecidableEq, Repr

namespace Scan

/-- Nothing is scanned yet. -/
def initial : Scan := ⟨[], [], false⟩

/-- Scans one more character: the letter of a percent sign, a percent sign while placeholders are
still recognised, or a character that is copied. -/
def next (scan : Scan) (c : Char) : Scan :=
  if scan.percent then
    match Placeholder.ofLetter? c with
    | some placeholder =>
      ⟨scan.written ++ '(' :: placeholder.fragment ++ [')'], scan.placeholders ++ [placeholder],
        false⟩
    | none => { scan with percent := false }
  else if c = '%' ∧ scan.placeholders.length < placeholderLimit then { scan with percent := true }
  else { scan with written := scan.written ++ [c] }

/-- What is written when the template ends here. -/
def text (scan : Scan) : List Char := if scan.percent then scan.written ++ ['%'] else scan.written

/-- A percent sign waits only while placeholders are still recognised. -/
def Expects (scan : Scan) : Prop :=
  scan.percent = true → scan.placeholders.length < placeholderLimit

/-- What there is still to expand: the rest, behind the percent sign that waits. -/
def ahead (scan : Scan) (rest : List Char) : List Char := if scan.percent then '%' :: rest else rest

/-- What comes of the scan where so much of the template is left. -/
def outcome (scan : Scan) (rest : List Char) : List Char × List Placeholder :=
  let expanded := expand (placeholderLimit - scan.placeholders.length) (scan.ahead rest)
  (scan.written ++ expanded.1, scan.placeholders ++ expanded.2)

theorem expects_next {scan : Scan} (h : scan.Expects) (c : Char) : (scan.next c).Expects := by
  rw [next]
  split
  · split <;> exact fun hpercent => absurd hpercent (by simp)
  · split
    · rename_i hc
      exact fun _ => hc.2
    · exact h

end Scan

section Expand

variable {limit : Nat} {c : Char} {s : List Char}

/-- A percent sign and a letter without meaning vanish. -/
theorem expand_unknown (h : Placeholder.ofLetter? c = none) :
    expand (limit + 1) ('%' :: c :: s) = expand (limit + 1) s := by
  rw [expand, h]

/-- A template without percent signs stays as it is, and so does any where no more placeholders are
recognised. -/
theorem expand_of_not_mem (h : 0 < limit → '%' ∉ s) : expand limit s = (s, []) := by
  have hexpand := expand_append (s := []) h
  rwa [expand_nil, List.append_nil] at hexpand

end Expand

namespace Scan

/-- **Scanning a character keeps the outcome.** -/
theorem outcome_next {scan : Scan} (h : scan.Expects) (c : Char) (rest : List Char) :
    (scan.next c).outcome rest = scan.outcome (c :: rest) := by
  cases hpercent : scan.percent with
  | true =>
    have hlimit : ∃ n, placeholderLimit - scan.placeholders.length = n + 1 :=
      ⟨_, (Nat.succ_pred_eq_of_pos (Nat.sub_pos_of_lt (h hpercent))).symm⟩
    obtain ⟨n, hn⟩ := hlimit
    cases hletter : Placeholder.ofLetter? c with
    | some placeholder =>
      have hless : placeholderLimit - (scan.placeholders.length + 1) = n := by omega
      simp [outcome, next, ahead, hpercent, hletter, hn, hless, expand_placeholder hletter]
    | none => simp [outcome, next, ahead, hpercent, hletter, hn, expand_unknown hletter]
  | false =>
    by_cases hc : c = '%' ∧ scan.placeholders.length < placeholderLimit
    · simp [outcome, next, ahead, hpercent, hc]
    · have hplain : 0 < placeholderLimit - scan.placeholders.length → c ≠ '%' :=
        fun hpos heq => hc ⟨heq, Nat.lt_of_sub_pos hpos⟩
      simp [outcome, next, ahead, hpercent, hc, expand_cons hplain]

/-- At the end of the template the outcome is what is scanned. -/
theorem outcome_nil (scan : Scan) : scan.outcome [] = (scan.text, scan.placeholders) := by
  cases hpercent : scan.percent with
  | true => simp [outcome, ahead, text, hpercent, expand_percent]
  | false => simp [outcome, ahead, text, hpercent, expand_nil]

/-- **Scanning all the rest keeps the outcome.** -/
theorem outcome_foldl {scan : Scan} (h : scan.Expects) (s : List Char) :
    (s.foldl next scan).outcome [] = scan.outcome s := by
  induction s generalizing scan with
  | nil => rfl
  | cons c s ih =>
    rw [List.foldl_cons, ih (expects_next h c)]
    exact outcome_next h c s

end Scan

/-- A template when all of it is scanned. -/
def scan (template : List Char) : Scan := template.foldl Scan.next .initial

/-- **A template is expanded as it is scanned.** -/
theorem expand_eq_scan (template : List Char) :
    expand placeholderLimit template = ((scan template).text, (scan template).placeholders) := by
  have hbegin : Scan.initial.Expects := fun hpercent => absurd hpercent (by simp [Scan.initial])
  calc expand placeholderLimit template
      = Scan.initial.outcome template := rfl
    _ = (scan template).outcome [] := (Scan.outcome_foldl hbegin template).symm
    _ = ((scan template).text, (scan template).placeholders) := Scan.outcome_nil _

/-! ### From one percent sign to the next -/

/-- How far a template is expanded in leaps. -/
structure Leap where
  written : List Char
  placeholders : List Placeholder
  rest : List Char

namespace Leap

/-- Leaps behind the next percent sign and its letter, unless this is where the leaps end. -/
def next? (leap : Leap) : Option Leap :=
  if leap.placeholders.length < placeholderLimit then
    match cut? ['%'] leap.rest with
    | some (front, c :: back) =>
      match Placeholder.ofLetter? c with
      | some placeholder =>
        some ⟨leap.written ++ front ++ '(' :: placeholder.fragment ++ [')'],
          leap.placeholders ++ [placeholder], back⟩
      | none => some ⟨leap.written ++ front, leap.placeholders, back⟩
    | _ => none
  else none

/-- What is written when the leaps end here. -/
def text (leap : Leap) : List Char := leap.written ++ leap.rest

/-- What comes of the leaps from here on. -/
def outcome (leap : Leap) : List Char × List Placeholder :=
  let expanded := expand (placeholderLimit - leap.placeholders.length) leap.rest
  (leap.written ++ expanded.1, leap.placeholders ++ expanded.2)

/-- What is left behind a leap: what stands behind a percent sign and its letter. -/
theorem exists_of_next? {leap after : Leap} (h : leap.next? = some after) :
    leap.placeholders.length < placeholderLimit ∧ ∃ front c, '%' ∉ front ∧
      leap.rest = front ++ '%' :: c :: after.rest ∧
      ((∃ placeholder, Placeholder.ofLetter? c = some placeholder ∧
          after.written = leap.written ++ front ++ '(' :: placeholder.fragment ++ [')'] ∧
          after.placeholders = leap.placeholders ++ [placeholder]) ∨
        (Placeholder.ofLetter? c = none ∧ after.written = leap.written ++ front ∧
          after.placeholders = leap.placeholders)) := by
  rw [next?] at h
  split at h
  · rename_i hlimit
    refine ⟨hlimit, ?_⟩
    split at h
    · rename_i front c back hcut
      have hrest : leap.rest = front ++ '%' :: c :: back := by
        rw [eq_of_cut? hcut, List.append_assoc]
        rfl
      split at h
      · rename_i placeholder hletter
        obtain rfl := Option.some.inj h
        exact ⟨front, c, not_mem_of_cut? hcut, hrest, .inl ⟨placeholder, hletter, rfl, rfl⟩⟩
      · rename_i hletter
        obtain rfl := Option.some.inj h
        exact ⟨front, c, not_mem_of_cut? hcut, hrest, .inr ⟨hletter, rfl, rfl⟩⟩
    · exact absurd h (by simp)
  · exact absurd h (by simp)

/-- **A leap keeps the outcome.** -/
theorem outcome_next {leap after : Leap} (h : leap.next? = some after) :
    after.outcome = leap.outcome := by
  obtain ⟨hlimit, front, c, hfront, hrest, hcases⟩ := exists_of_next? h
  obtain ⟨n, hn⟩ : ∃ n, placeholderLimit - leap.placeholders.length = n + 1 :=
    ⟨_, (Nat.succ_pred_eq_of_pos (Nat.sub_pos_of_lt hlimit)).symm⟩
  have hfront' : 0 < n + 1 → '%' ∉ front := fun _ => hfront
  rcases hcases with ⟨placeholder, hletter, hwritten, hplaceholders⟩ | ⟨hletter, hwritten, hsame⟩
  · have hless : placeholderLimit - (leap.placeholders.length + 1) = n := by omega
    simp [outcome, hwritten, hplaceholders, hless, hn, hrest, expand_append hfront',
      expand_placeholder hletter]
  · simp [outcome, hwritten, hsame, hn, hrest, expand_append hfront', expand_unknown hletter]

/-- **Where the leaps end, what is left is copied.** -/
theorem outcome_of_next?_none {leap : Leap} (h : leap.next? = none) :
    leap.outcome = (leap.text, leap.placeholders) := by
  have hrest : expand (placeholderLimit - leap.placeholders.length) leap.rest =
      (leap.rest, []) := by
    rw [next?] at h
    split at h
    · rename_i hlimit
      cases hcut : cut? ['%'] leap.rest with
      | none =>
        exact expand_of_not_mem fun _ => not_mem_of_cut?_none hcut
      | some sides =>
        obtain ⟨front, back⟩ := sides
        cases back with
        | nil =>
          have hfront := not_mem_of_cut? hcut
          rw [eq_of_cut? hcut, List.append_nil, expand_append fun _ => hfront, expand_percent]
        | cons c back =>
          simp only [hcut] at h
          split at h <;> exact absurd h (by simp)
    · rename_i hlimit
      exact expand_of_not_mem fun hpos => absurd (Nat.lt_of_sub_pos hpos) hlimit
  rw [outcome, hrest, List.append_nil]
  rfl

/-- One leap leads to another. -/
def Leads (leap after : Leap) : Prop := leap.next? = some after

/-- **The leaps come to an end**, and the outcome is what it was. -/
theorem exists_leaps (leap : Leap) :
    ∃ last, Relation.ReflTransGen Leads leap last ∧ last.next? = none ∧
      last.outcome = leap.outcome := by
  induction hlength : leap.rest.length using Nat.strong_induction_on generalizing leap with
  | _ length ih =>
    cases hnext : leap.next? with
    | none => exact ⟨leap, .refl, hnext, rfl⟩
    | some after =>
      obtain ⟨-, front, c, -, hrest, -⟩ := exists_of_next? hnext
      have hless : after.rest.length < length := by
        rw [← hlength, hrest, List.length_append, List.length_cons, List.length_cons]
        omega
      obtain ⟨last, hleads, hlast, hsame⟩ := ih _ hless after rfl
      exact ⟨last, .head hnext hleads, hlast, hsame.trans (outcome_next hnext)⟩

end Leap

/-! ### How many placeholders -/

/-- The placeholders of a template, however many. -/
def known : List Char → List Placeholder
  | '%' :: c :: s => (Placeholder.ofLetter? c).toList ++ known s
  | _ :: s => known s
  | [] => []

/-- **The first placeholders are recognised**, up to the limit. -/
theorem placeholders_expand (limit : Nat) (s : List Char) :
    (expand limit s).2 = (known s).take limit := by
  fun_induction expand limit s with
  | case1 s => rw [List.take_zero]
  | case2 limit => rfl
  | case3 limit c s placeholder hletter rest placeholders hexpand ih =>
    rw [hexpand] at ih
    rw [known, hletter, Option.toList_some, List.singleton_append, List.take_succ_cons, ← ih]
  | case4 limit c s hletter ih => rw [known, hletter, ih]; rfl
  | case5 limit c s hpercent rest placeholders hexpand ih =>
    rw [hexpand] at ih
    rw [known, ← ih]
    exact hpercent

/-! ### The expression of a template -/

/-- **A template is expanded as it is scanned.**  Its expression is what the scan has written,
within the parentheses that bind it to the beginning of a line, and what is compiled has the
placeholders of the scan: the first thirty-two that the template knows.  The same is written by
leaps from one percent sign to the next, which come to an end. -/
theorem expression_scanned (template : List Char) :
    expression template = "^(?:".toList ++ (scan template).text ++ ")".toList ∧
      ofText? template = (Regex.Expr.ofText? (expression template)).map
        (fun x => ⟨template, (scan template).placeholders, .ofExpr x⟩) ∧
      (scan template).placeholders = (known template).take 32 ∧
      (scan template).placeholders.length = min 32 (known template).length ∧
      ∃ last, Relation.ReflTransGen Leap.Leads ⟨[], [], template⟩ last ∧ last.next? = none ∧
        last.text = (scan template).text ∧ last.placeholders = (scan template).placeholders := by
  have hscan := expand_eq_scan template
  have hplaceholders : (scan template).placeholders = (known template).take 32 := by
    have hfirst := placeholders_expand 32 template
    rwa [show expand 32 template = _ from hscan] at hfirst
  refine ⟨?_, ?_, hplaceholders, by rw [hplaceholders, List.length_take], ?_⟩
  · rw [expression, hscan]
    rfl
  · rw [ofText?, hscan]
  · obtain ⟨last, hleads, hlast, hsame⟩ := Leap.exists_leaps ⟨[], [], template⟩
    have hend : (last.text, last.placeholders) =
        ((scan template).text, (scan template).placeholders) := by
      rw [← hscan, ← Leap.outcome_of_next?_none hlast, hsame]
      rfl
    obtain ⟨htext, hlist⟩ := Prod.mk.inj hend
    exact ⟨last, hleads, hlast, htext, hlist⟩

/-- The second percent sign is the letter of the first one and vanishes with it, so that the letter
behind it is copied; the percent sign at the end stays. -/
example : scan "%%c%l%".toList = ⟨"c(-?\\b\\d+\\b)".toList, [.line], true⟩ := by decide +kernel

end Deobfuscation.Template
