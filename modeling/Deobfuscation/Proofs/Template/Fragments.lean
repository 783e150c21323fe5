import Deobfuscation.Proofs.Regex.Pieces
import Deobfuscation.Proofs.Template.Expressions

/-!
# The fragments of the placeholders

The fragment of a placeholder is made up of smaller ones, and the items that it writes are made up
in the same way.  A group around a fragment therefore captures the expression that the fragment
writes by itself, wherever the group stands.

* `Placeholder.expr` — the expression of a placeholder;
* `Placeholder.ofText?_fragment` — **proved**: what the fragment writes by itself;
* `Placeholder.exists_pieces_fragment` — **proved**: what it writes in a group.
-/

namespace Deobfuscation

open Regex Template

namespace Placeholder

/-- A segment and the slash after it. -/
def segmentSlashExpr : Expr := .seq segmentExpr (.char '/')

/-- A class with its path joined by slashes. -/
def slashedClassExpr : Expr := .seq (repeatedExpr segmentSlashExpr) segmentExpr

/-- The expression of the texts that a placeholder stands for. -/
def expr : Placeholder → Expr
  | dottedClass => classExpr
  | slashedClass => slashedClassExpr
  | sourceFile => sourceFileExpr
  | line => lineExpr
  | type => typeExpr
  | field => memberExpr
  | method => memberExpr
  | arguments => argumentsExpr

/-- **The fragment of a placeholder writes its expression.** -/
theorem ofText?_fragment (placeholder : Placeholder) :
    Expr.ofText? placeholder.fragment = some placeholder.expr := by
  cases placeholder <;> decide +kernel

/-! ### Parts of fragments -/

section Parts

variable {text : List Char} {x : Expr} {xs : List Expr}

/-- Any number of rounds of what some items make. -/
theorem pieces_repeated (h : Pieces text xs) (hx : Expr.choice [.concat xs] = x) :
    Pieces (repeated text) [.repeated 0 none true x] := by
  have hstar := Pieces.star (.group h)
  rwa [hx, List.append_assoc] at hstar

/-- What some items make, or nothing. -/
theorem pieces_optional (h : Pieces text xs) (hx : Expr.choice [.concat xs] = x) :
    Pieces (optional text) [.repeated 0 (some 1) true x] := by
  have hoption := Pieces.option (.group h)
  rwa [hx, List.append_assoc] at hoption

/-- What begins with neither a question mark nor a brace. -/
theorem calm_cons {c : Char} (hc : c ≠ '?' ∧ c ≠ '\x7b') (s : List Char) : Calm (c :: s) := by
  simpa [Calm] using hc

end Parts

theorem readBracket_segment :
    readBracket .none ['^', '\\', 's', '\x22', ':', '.', '/', '(', ')', ']'] =
      some (⟨segmentSet, 2⟩, []) :=
  rfl

/-- A segment writes one item, whatever comes next but a question mark or a brace. -/
theorem pieces_segment : Pieces segmentFragment [segmentExpr] :=
  Pieces.plus (.bracket readBracket_segment)

theorem calm_segment (s : List Char) : Calm (segmentFragment ++ s) := calm_cons (by decide) _

theorem pieces_dot : Pieces ['\\', '.'] [.char '.'] :=
  .of_piece (.escape (show Atom.ofEscape .none ['.'] = some (.char '.', []) from rfl) nofun)

theorem pieces_class : Pieces classFragment [repeatedExpr segmentDotExpr, segmentExpr] :=
  (pieces_repeated (pieces_segment.append pieces_dot (calm_cons (by decide)))
    (show _ = segmentDotExpr from rfl)).append pieces_segment calm_segment

theorem pieces_slashedClass :
    Pieces slashedClassFragment [repeatedExpr segmentSlashExpr, segmentExpr] :=
  (pieces_repeated (pieces_segment.append (.of_piece (.char (by decide))) (calm_cons (by decide)))
    (show _ = segmentSlashExpr from rfl)).append pieces_segment calm_segment

theorem readBracket_sourceFileHead :
    readBracket .none ['^', ':', '(', ')', '\\', 'd', ']'] = some (⟨sourceFileHeadSet, 2⟩, []) :=
  rfl

theorem readBracket_sourceFileRest :
    readBracket .none ['^', ':', '(', ')', ']'] = some (⟨setWithout [':', '(', ')'], 2⟩, []) :=
  rfl

theorem pieces_sourceFile : Pieces sourceFileFragment [sourceFileExpr] :=
  pieces_optional ((Pieces.of_piece (.bracket readBracket_sourceFileHead)).append
    (.star (.bracket readBracket_sourceFileRest)) (calm_cons (by decide)))
    (show _ = Expr.seq (.set sourceFileHeadSet) (repeatedExpr (.set (setWithout [':', '(', ')'])))
      from rfl)

theorem pieces_line : Pieces lineFragment
    [optionalExpr (.char '-'), wordBoundary, severalExpr (.set .decimal), wordBoundary] :=
  have hdigits : Pieces ['\\', 'd', '+'] [severalExpr (.set .decimal)] :=
    .plus (.escape (show Atom.ofEscape .none ['d'] = some (.class .decimal, []) from rfl) nofun)
  (Pieces.option (.char (by decide))).append
    (.append .boundary (hdigits.append .boundary (calm_cons (by decide))) (calm_cons (by decide)))
    (calm_cons (by decide))

theorem pieces_brackets : Pieces (repeated ['\\', '[', '\\', ']']) [bracketsExpr] :=
  have hopen : Pieces ['\\', '['] [.char '['] :=
    .of_piece (.escape (show Atom.ofEscape .none ['['] = some (.char '[', []) from rfl) nofun)
  have hclose : Pieces ['\\', ']'] [.char ']'] :=
    .of_piece (.escape (show Atom.ofEscape .none [']'] = some (.char ']', []) from rfl) nofun)
  pieces_repeated (hopen.append hclose (calm_cons (by decide)))
    (show _ = textExpr "[]" from rfl)

theorem pieces_type :
    Pieces typeFragment [repeatedExpr segmentDotExpr, segmentExpr, bracketsExpr] :=
  pieces_class.append pieces_brackets (calm_cons (by decide))

theorem pieces_member :
    Pieces memberFragment [optionalExpr (.char '<'), segmentExpr, optionalExpr (.char '>')] :=
  ((Pieces.option (.char (by decide))).append pieces_segment calm_segment).append
    (.option (.char (by decide))) (calm_cons (by decide))

theorem pieces_comma : Pieces ['\\', 's', '*', ',', '\\', 's', '*']
    [repeatedExpr (.set .blank), .char ',', repeatedExpr (.set .blank)] :=
  have hblanks : Pieces ['\\', 's', '*'] [repeatedExpr (.set .blank)] :=
    .star (.escape (show Atom.ofEscape .none ['s'] = some (.class .blank, []) from rfl) nofun)
  hblanks.append ((Pieces.of_piece (.char (by decide))).append hblanks (calm_cons (by decide)))
    (calm_cons (by decide))

theorem pieces_arguments : Pieces argumentsFragment [argumentsExpr] :=
  have hfurther : Pieces (repeated (['\\', 's', '*', ',', '\\', 's', '*'] ++ typeFragment))
      [repeatedExpr furtherTypeExpr] :=
    pieces_repeated (pieces_comma.append pieces_type (calm_cons (by decide)))
      (show _ = furtherTypeExpr from rfl)
  pieces_optional (pieces_type.append hfurther (calm_cons (by decide)))
    (show _ = pathExpr (.seq segmentExpr (.seq bracketsExpr (repeatedExpr furtherTypeExpr)))
      from rfl)

/-! ### Fragments -/

/-- **The fragment of a placeholder writes items that make its expression.** -/
theorem exists_pieces_fragment (placeholder : Placeholder) :
    ∃ xs, Pieces placeholder.fragment xs ∧ Expr.choice [.concat xs] = placeholder.expr := by
  cases placeholder with
  | dottedClass => exact ⟨_, pieces_class, rfl⟩
  | slashedClass => exact ⟨_, pieces_slashedClass, rfl⟩
  | sourceFile => exact ⟨_, pieces_sourceFile, rfl⟩
  | line => exact ⟨_, pieces_line, rfl⟩
  | type => exact ⟨_, pieces_type, rfl⟩
  | field => exact ⟨_, pieces_member, rfl⟩
  | method => exact ⟨_, pieces_member, rfl⟩
  | arguments => exact ⟨_, pieces_arguments, rfl⟩

end Placeholder

end Deobfuscation
