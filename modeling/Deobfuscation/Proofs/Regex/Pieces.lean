import Deobfuscation.Proofs.Regex.Brackets
import Deobfuscation.Proofs.Regex.Reading

/-!
# Pieces of an expression

A text that writes some items gives the reader these items wherever it stands, whatever was read
before.  A **piece** gives one item in front of any text; a text that ends in a repetition or an
assertion looks at what follows it, which must be no question mark and no brace.  Pieces make up
larger texts as the expressions are made up, so what a text writes is told part by part.

* `Piece`, `Pieces` — a text that writes an item, and one that writes some;
* `Piece.char`, `Piece.escape`, `Piece.bracket`, `Piece.group` — **proved**: what writes an item;
* `Pieces.repeated`, `Pieces.boundary`, `Pieces.append` — **proved**: what writes items;
* `Pieces.capture` — **proved**: a group around such a text is one item.
-/

namespace Deobfuscation.Regex

/-- What reading inside a group leads to: no further group captures, and the group stays open. -/
def Inside (r q : Reader) : Prop := q.groups = r.groups ∧ r.opened.length ≤ q.opened.length

theorem Inside.refl (r : Reader) : Inside r r := ⟨rfl, Nat.le_refl _⟩

/-- The reader takes expressions as its newest items, in their order. -/
def Reader.take (r : Reader) (xs : List (Written Expr)) : Reader :=
  { r with items := xs.reverse.map some ++ r.items }

/-- A text writes an item, in front of any text. -/
structure Piece (text : List Char) (x : Expr) : Prop where
  reads : ∀ (r : Reader) (s : List Char), r.flags = .none →
    ∃ n depth, Advances (Inside r) n r (text ++ s) (r.push ⟨x, depth⟩) s

/-- What comes next is neither a question mark nor an opening brace. -/
def Calm (s : List Char) : Prop := ∀ c ∈ s.head?, c ≠ '?' ∧ c ≠ '\x7b'

theorem calm_closing (s : List Char) : Calm (')' :: s) := by simp [Calm]

/-- A text writes items, in front of what is neither a question mark nor an opening brace. -/
structure Pieces (text : List Char) (xs : List Expr) : Prop where
  reads : ∀ (r : Reader) (s : List Char), r.flags = .none → Calm s →
    ∃ n taken, taken.map Written.value = xs ∧ Advances (Inside r) n r (text ++ s) (r.take taken) s

/-! ### Items -/

section Items

variable {text more : List Char} {x : Expr} {xs ys : List Expr} {c : Char}

/-- A character that a step takes by itself. -/
theorem Piece.of_step (h : ∀ (r : Reader) (s : List Char), r.flags = .none →
    ∃ depth, r.step c s = some (r.push ⟨x, depth⟩, s)) : Piece [c] x := by
  refine ⟨fun r s hr => ?_⟩
  obtain ⟨depth, hstep⟩ := h r s hr
  exact ⟨1, depth, .one hr hstep ⟨rfl, Nat.le_refl _⟩⟩

/-- The characters that do not stand for themselves. -/
def operators : List Char := ['(', ')', '|', '*', '+', '?', '\x7b', '[', '\\', '.', '^', '$']

/-- A character that stands for itself. -/
theorem Piece.char (hc : c ∉ operators) : Piece [c] (.char c) := by
  refine .of_step fun r s hr => ⟨0, ?_⟩
  unfold Reader.step
  split
  case h_13 => rw [Reader.pushAtom, hr]; rfl
  all_goals exact absurd (by decide) hc

/-- An escape that asserts nothing. -/
theorem Piece.escape {atom : Atom} (h : Atom.ofEscape .none [c] = some (atom, []))
    (hatom : ∀ p, atom ≠ .assertion p) : Piece ['\\', c] (atom.expr .none) := by
  refine ⟨fun r s hr => ⟨1, 0, .one hr ?_ ⟨rfl, Nat.le_refl _⟩⟩⟩
  rcases ofEscape_cases h with ⟨p, hp, -⟩ | ⟨w, -, hw, hread⟩
  · exact absurd hp (hatom p)
  · obtain ⟨rfl, -⟩ := List.append_eq_nil_iff.1 hw.symm
    show (Atom.ofEscape r.flags (c :: s)).map _ = _
    have hs : Atom.ofEscape .none (c :: s) = some (atom, s) := hread s
    rw [hr, hs]
    show some (r.push ⟨atom.expr r.flags, 0⟩, s) = _
    rw [hr]

/-- A bracketed class. -/
theorem Piece.bracket {set : Written CharSet} (h : readBracket .none text = some (set, [])) :
    Piece ('[' :: text) (.ofSet set.value) := by
  refine ⟨fun r s hr => ⟨1, set.depth, .one hr ?_ ⟨rfl, Nat.le_refl _⟩⟩⟩
  obtain ⟨w, rfl, hread⟩ := readBracket_takes h
  show (readBracket r.flags (w ++ [] ++ s)).map _ = _
  rw [hr, List.append_nil, hread s]
  rfl

/-! ### Items one after the other -/

theorem Reader.take_take (r : Reader) (xs ys : List (Written Expr)) :
    (r.take xs).take ys = r.take (xs ++ ys) := by
  simp [Reader.take]

theorem Pieces.of_piece (h : Piece text x) : Pieces text [x] := by
  refine ⟨fun r s hr _ => ?_⟩
  obtain ⟨n, depth, hreads⟩ := h.reads r s hr
  exact ⟨n, [⟨x, depth⟩], rfl, hreads⟩

/-- Items and then further items. -/
theorem Pieces.append (h : Pieces text xs) (h' : Pieces more ys) (hcalm : ∀ s, Calm (more ++ s)) :
    Pieces (text ++ more) (xs ++ ys) := by
  refine ⟨fun r s hr hs => ?_⟩
  obtain ⟨n, taken, rfl, hreads⟩ := h.reads r (more ++ s) hr (hcalm s)
  obtain ⟨m, taken', rfl, hreads'⟩ := h'.reads (r.take taken) s hr hs
  refine ⟨n + m, taken ++ taken', List.map_append, ?_⟩
  rw [List.append_assoc, ← Reader.take_take]
  exact hreads.trans hreads'

/-- An item that an operator repeats. -/
theorem Pieces.repeated (h : Piece text x) {least : Nat} {most : Option Nat}
    (hc : ∀ (r : Reader) (s : List Char), r.step c s = r.repeatItem least most s) :
    Pieces (text ++ [c]) [.repeated least most true x] := by
  refine ⟨fun r s hr hs => ?_⟩
  obtain ⟨n, depth, hreads⟩ := h.reads r (c :: s) hr
  refine ⟨n + 1, [⟨.repeated least most true x, depth + 1⟩], rfl, ?_⟩
  rw [List.append_assoc]
  refine hreads.trans (.one hr ?_ ⟨rfl, Nat.le_refl _⟩)
  rw [hc]
  unfold Reader.repeatItem
  split
  · rename_i item items hitems
    obtain ⟨hitem, rfl⟩ := List.cons.inj hitems
    obtain rfl := Option.some.inj hitem
    dsimp only
    split
    · exact absurd rfl (hs _ rfl).1
    · have hgreedy : (!(r.push ⟨x, depth⟩).flags.lazyByDefault) = true := by
        rw [show (r.push ⟨x, depth⟩).flags = .none from hr]
        rfl
      rw [hgreedy]
      rfl
  · rename_i hnone
    exact absurd rfl (hnone _ _)

theorem Pieces.star (h : Piece text x) : Pieces (text ++ ['*']) [.repeated 0 none true x] :=
  .repeated h fun _ _ => rfl

theorem Pieces.plus (h : Piece text x) : Pieces (text ++ ['+']) [.repeated 1 none true x] :=
  .repeated h fun _ _ => rfl

theorem Pieces.option (h : Piece text x) : Pieces (text ++ ['?']) [.repeated 0 (some 1) true x] :=
  .repeated h fun _ _ => rfl

/-- The edge of a word. -/
theorem Pieces.boundary : Pieces ['\\', 'b'] [.assert (.word false .boundary)] := by
  refine ⟨fun r s hr hs => ?_⟩
  have hplace : readWordPlace .none s = some (.boundary, s) := by
    unfold readWordPlace
    split
    · exact absurd rfl (hs _ rfl).2
    · rfl
  refine ⟨1, [⟨.assert (.word false .boundary), 0⟩], rfl, .one hr ?_ ⟨rfl, Nat.le_refl _⟩⟩
  show (Atom.ofEscape r.flags ('b' :: s)).map _ = _
  rw [hr]
  show ((readWordPlace .none s).map _).map _ = _
  rw [hplace]
  rfl

/-! ### Groups -/

/-- What a group without branches makes of its items. -/
theorem expr_take {r : Reader} (hbranches : r.branches = []) (hitems : r.items = [])
    (taken : List (Written Expr)) :
    (r.take taken).expr.value = .choice [.concat (taken.map Written.value)] := by
  simp [Reader.expr, Reader.branch, Reader.take, hbranches, hitems, List.filterMap_map,
    Function.comp_def]

/-- A group that captures nothing is one item. -/
theorem Piece.group (h : Pieces text xs) :
    Piece (['(', '?', ':'] ++ text ++ [')']) (.choice [.concat xs]) := by
  refine ⟨fun r s hr => ?_⟩
  obtain ⟨n, taken, rfl, hreads⟩ := h.reads (r.openGroup none .none) (')' :: s) rfl (calm_closing s)
  have hinside : ∀ q, Inside (r.openGroup none .none) q → Inside r q :=
    fun q hq => ⟨hq.1, Nat.le_of_succ_le hq.2⟩
  have hclose : ((r.openGroup none .none).take taken).step ')' s = some
      (r.push ⟨.choice [.concat (taken.map Written.value)],
        ((r.openGroup none .none).take taken).expr.depth + 1⟩, s) := by
    rw [← expr_take (r := r.openGroup none .none) rfl rfl, Reader.push, ← hr]
    rfl
  refine ⟨n + 1 + 1, ((r.openGroup none .none).take taken).expr.depth + 1, ?_⟩
  rw [List.append_assoc, List.append_assoc]
  exact .step hr (step_openGroup hr _) (hinside _ (.refl _))
    ((hreads.mono hinside).trans (.one rfl hclose ⟨rfl, Nat.le_refl _⟩))

/-- **A group that captures is one item**, with the next number; inside it no other captures. -/
theorem Pieces.capture (h : Pieces text xs) (htext : text.head?.all (· != '?') = true) {r : Reader}
    (hr : r.flags = .none) (s : List Char) :
    ∃ n inside depth, r.step '(' (text ++ ')' :: s) = some (r.openCapture, text ++ ')' :: s) ∧
      Advances (Inside r.openCapture) n r.openCapture (text ++ ')' :: s) inside (')' :: s) ∧
      inside.flags = .none ∧ inside.step ')' s = some
        ({ r with groups := r.groups + 1 }.push
          ⟨.group (r.groups + 1) (.choice [.concat xs]), depth⟩, s) := by
  obtain ⟨n, taken, rfl, hreads⟩ := h.reads r.openCapture (')' :: s) hr (calm_closing s)
  refine ⟨n, r.openCapture.take taken, (r.openCapture.take taken).expr.depth + 1,
    step_openCapture hr ?_, hreads, hr, ?_⟩
  · cases text with
    | nil => simp
    | cons c text => simpa using htext
  · rw [← expr_take (r := r.openCapture) rfl rfl]
    rfl

end Items

end Deobfuscation.Regex
