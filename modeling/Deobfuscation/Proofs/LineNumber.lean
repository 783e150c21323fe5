import Deobfuscation.LineNumber

/-!
# Written line numbers

A line number is written as decimal digits, with a minus sign in front where it is negative.
What is written is read back as the same number, so a line number survives the way into a text
and out of it.

* `exists_digits_of_text` — the shape of a written line number;
* `isDigit_of_mem_text` — **proved**: it has only digits and a sign;
* `ofText?_text` — **proved**: a written line number is read back.
-/

namespace Deobfuscation.LineNumber

/-- A line number is written as digits, perhaps after a minus sign. -/
theorem exists_digits_of_text (n : LineNumber) :
    ∃ digits, digits ≠ [] ∧ (∀ c ∈ digits, c.isDigit = true) ∧
      (n.text = digits ∨ n.text = '-' :: digits) := by
  refine ⟨Nat.toDigits 10 n.toInt.natAbs, Nat.toDigits_ne_nil, ?_, ?_⟩
  · intro c hc
    exact Nat.isDigit_of_mem_toDigits (by decide) (by decide) hc
  · unfold text
    split
    · exact .inr rfl
    · exact .inl rfl

/-- A written line number has only digits and a sign. -/
theorem isDigit_of_mem_text {n : LineNumber} {c : Char} (h : c ∈ n.text) :
    c.isDigit = true ∨ c = '-' := by
  obtain ⟨digits, -, hdigits, htext⟩ := n.exists_digits_of_text
  rcases htext with htext | htext
  · exact Or.inl (hdigits c (htext ▸ h))
  · rw [htext, List.mem_cons] at h
    exact h.elim Or.inr fun hmem => Or.inl (hdigits c hmem)

theorem not_mem_text {c : Char} (hdigit : c.isDigit = false) (hsign : c ≠ '-') (n : LineNumber) :
    c ∉ n.text := by
  intro hmem
  rcases isDigit_of_mem_text hmem with h | h
  · rw [hdigit] at h
    exact Bool.false_ne_true h
  · exact hsign h

theorem text_ne_nil (n : LineNumber) : n.text ≠ [] := by
  obtain ⟨digits, hne, -, htext⟩ := n.exists_digits_of_text
  rcases htext with htext | htext
  · rwa [htext]
  · simp [htext]

theorem digitsValue_eq {s : List Char} (hs : ∀ c ∈ s, c.isDigit = true) :
    ∀ value, digitsValue value s = some (Nat.ofDigitChars 10 s value) := by
  induction s with
  | nil => intro value; rfl
  | cons c s ih =>
    intro value
    have hc := hs c List.mem_cons_self
    rw [digitsValue, if_pos hc, ih (fun d hd => hs d (List.mem_cons_of_mem c hd)),
      Nat.ofDigitChars_cons]
    rfl

theorem unsigned?_toDigits (n : Nat) : unsigned? (Nat.toDigits 10 n) = some n := by
  have hdigits : ∀ c ∈ Nat.toDigits 10 n, c.isDigit = true :=
    fun c hc => Nat.isDigit_of_mem_toDigits (by decide) (by decide) hc
  have hvalue := digitsValue_eq hdigits 0
  rw [Nat.ofDigitChars_ten_toDigits] at hvalue
  cases h : Nat.toDigits 10 n with
  | nil => exact absurd h Nat.toDigits_ne_nil
  | cons c s => rw [← h, ← hvalue, h]; rfl

/-- Digits without a sign are read as they are. -/
theorem signed?_of_isDigit {c : Char} {s : List Char} (hc : c.isDigit = true) :
    signed? (c :: s) = (unsigned? (c :: s)).map Int.ofNat := by
  unfold signed?
  split
  · rename_i heq
    rw [(List.cons.inj heq).1] at hc
    simp at hc
  · rename_i heq
    rw [(List.cons.inj heq).1] at hc
    simp at hc
  · rfl

theorem signed?_text (n : LineNumber) : signed? n.text = some n.toInt := by
  unfold text
  split
  · rename_i hneg
    rw [signed?, unsigned?_toDigits]
    show some (-(n.toInt.natAbs : Int)) = some n.toInt
    congr 1
    omega
  · rename_i hpos
    cases h : Nat.toDigits 10 n.toInt.natAbs with
    | nil => exact absurd h Nat.toDigits_ne_nil
    | cons c s =>
      have hc : c.isDigit = true :=
        Nat.isDigit_of_mem_toDigits (b := 10) (n := n.toInt.natAbs) (by decide) (by decide)
          (by rw [h]; exact List.mem_cons_self)
      rw [signed?_of_isDigit hc, ← h, unsigned?_toDigits]
      show some (n.toInt.natAbs : Int) = some n.toInt
      congr 1
      omega

/-- **A written line number is read back.** -/
theorem ofText?_text (n : LineNumber) : ofText? n.text = some n := by
  have hfits : Fits n.toInt := ⟨Int64.le_toInt n, Int64.toInt_le n⟩
  rw [ofText?, signed?_text, Option.bind_some, if_pos hfits, Int64.ofInt_toInt]

end Deobfuscation.LineNumber
