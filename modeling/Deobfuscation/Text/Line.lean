/-!
# Lines

A line reaches to the end mark that closes it and includes the mark; only the last line of a
text may be without one.  The same definition serves bytes, where the end mark is the byte 10,
and characters, where it is the newline.

* `splitAfter` — the lines of a sequence;
* `splitAfter_cons` — **proved**: the first element joins the line that follows it, unless it is
  an end mark and so a line of its own;
* `flatten_splitAfter` — **proved**: the lines of a sequence, one after the other, are the
  sequence;
* `Terminator` — how a line of text ends: by a newline, by a carriage return and a newline, or
  by the end of the text.
-/

namespace Deobfuscation.Text

/-! ### The lines of a sequence -/

/-- Collects lines newest first, each of them reversed while it is still open. -/
def splitAfterOnto {α : Type} [BEq α] (mark : α) :
    List α → List α → List (List α) → List (List α)
  | [], [], closed => closed.reverse
  | [], opened, closed => (opened.reverse :: closed).reverse
  | c :: s, opened, closed =>
    if c == mark then splitAfterOnto mark s [] ((c :: opened).reverse :: closed)
    else splitAfterOnto mark s (c :: opened) closed

/-- The lines of a sequence, each with the end mark that closes it. -/
def splitAfter {α : Type} [BEq α] (mark : α) (s : List α) : List (List α) :=
  splitAfterOnto mark s [] []

/-- Puts text in front of the first line. -/
def joinFirst {α : Type} : List α → List (List α) → List (List α)
  | [], lines => lines
  | opened, [] => [opened]
  | opened, line :: lines => (opened ++ line) :: lines

theorem splitAfterOnto_eq {α : Type} [BEq α] (mark : α) (s : List α) :
    ∀ opened closed, splitAfterOnto mark s opened closed =
      closed.reverse ++ joinFirst opened.reverse (splitAfterOnto mark s [] []) := by
  induction s with
  | nil =>
    intro opened closed
    cases opened with
    | nil => simp [splitAfterOnto, joinFirst]
    | cons c opened =>
      cases hr : (c :: opened).reverse with
      | nil => simp at hr
      | cons d line => simp [splitAfterOnto, joinFirst, ← hr]
  | cons c s ih =>
    intro opened closed
    simp only [splitAfterOnto]
    split
    · rw [ih [] ((c :: opened).reverse :: closed), ih [] [[c].reverse]]
      cases opened with
      | nil => simp [joinFirst]
      | cons d opened =>
        cases hr : (d :: opened).reverse with
        | nil => simp at hr
        | cons e line =>
          have : (c :: d :: opened).reverse = e :: line ++ [c] := by
            rw [List.reverse_cons, hr]
          simp [joinFirst, this]
    · rw [ih (c :: opened) closed, ih [c] []]
      cases opened with
      | nil => simp [joinFirst]
      | cons d opened =>
        cases hr : (d :: opened).reverse with
        | nil => simp at hr
        | cons e line =>
          have : (c :: d :: opened).reverse = e :: line ++ [c] := by
            rw [List.reverse_cons, hr]
          rw [this]
          cases splitAfterOnto mark s [] [] <;> simp [joinFirst]

@[simp] theorem splitAfter_nil {α : Type} [BEq α] (mark : α) : splitAfter mark [] = [] := rfl

/-- **The first element joins the line that follows it, unless it is an end mark.** -/
theorem splitAfter_cons {α : Type} [BEq α] (mark c : α) (s : List α) :
    splitAfter mark (c :: s) =
      if c == mark then [c] :: splitAfter mark s else joinFirst [c] (splitAfter mark s) := by
  simp only [splitAfter, splitAfterOnto]
  split
  · rw [splitAfterOnto_eq mark s [] _]
    simp [joinFirst]
  · rw [splitAfterOnto_eq mark s [c] []]
    simp

/-- **The lines of a sequence, one after the other, are the sequence.** -/
theorem flatten_splitAfter {α : Type} [BEq α] (mark : α) (s : List α) :
    (splitAfter mark s).flatten = s := by
  induction s with
  | nil => rfl
  | cons c s ih =>
    rw [splitAfter_cons]
    split
    · simp [ih]
    · cases hs : splitAfter mark s with
      | nil => rw [hs] at ih; simp [joinFirst, ← ih]
      | cons line lines => rw [hs] at ih; simp [joinFirst, ← ih]

/-! ### How a line of text ends -/

/-- What closes a line of text. -/
inductive Terminator where
  /-- A newline. -/
  | newline
  /-- A carriage return and a newline. -/
  | returnNewline
  /-- The end of the text. -/
  | none
  deriving DecidableEq, Repr

/-- A terminator as it stands in the text. -/
def Terminator.mark : Terminator → List Char
  | .newline => ['\n']
  | .returnNewline => ['\r', '\n']
  | .none => []

/-- What parts the lines that stand in for one line: its terminator, or a newline where the
text just ends. -/
def Terminator.separator : Terminator → List Char
  | .returnNewline => ['\r', '\n']
  | _ => ['\n']

/-- A line's body and its terminator. -/
def bodyAndTerminator (line : List Char) : List Char × Terminator :=
  match line.reverse with
  | '\n' :: '\r' :: body => (body.reverse, .returnNewline)
  | '\n' :: body => (body.reverse, .newline)
  | _ => (line, .none)

end Deobfuscation.Text
