import Deobfuscation.Regex.Reader
import Deobfuscation.Regex.Search
import Deobfuscation.Template.Placeholder

/-!
# Line templates

A template is a regular expression with placeholders in it.  Each placeholder becomes a
capturing group around its fragment; the rest of the template is used as it is, at the beginning
of the line.  No more than thirty-two placeholders are recognised, and what follows the last of
them is used as it is too.

* `Template.expand` — a template with its placeholders replaced, and the placeholders in order;
* `Template.expression` — the whole regular expression of a template;
* `Template.ofText?` — the compiled template, if the expression is valid.
-/

namespace Deobfuscation

/-- A compiled template: its text, its placeholders, of which the `i`-th belongs to the group
`i + 1`, and the plan of its expression. -/
structure Template where
  text : List Char
  placeholders : List Placeholder
  plan : Regex.Plan
  deriving Inhabited

namespace Template

/-- The greatest number of placeholders. -/
def placeholderLimit : Nat := 32

/-- Replaces up to so many placeholders by groups.  A percent sign and a letter without meaning
vanish; a percent sign at the end stays. -/
def expand : Nat → List Char → List Char × List Placeholder
  | 0, s => (s, [])
  | _ + 1, [] => ([], [])
  | limit + 1, '%' :: c :: s =>
    match Placeholder.ofLetter? c with
    | some placeholder =>
      let (rest, placeholders) := expand limit s
      ('(' :: placeholder.fragment ++ ')' :: rest, placeholder :: placeholders)
    | none => expand (limit + 1) s
  | limit + 1, c :: s =>
    let (rest, placeholders) := expand (limit + 1) s
    (c :: rest, placeholders)

/-- The regular expression of a template, which matches at the beginning of a line. -/
def expression (template : List Char) : List Char :=
  ['^', '(', '?', ':'] ++ (expand placeholderLimit template).1 ++ [')']

/-- Compiles a template. -/
def ofText? (text : List Char) : Option Template :=
  (Regex.Expr.ofText? (expression text)).map fun x =>
    ⟨text, (expand placeholderLimit text).2, .ofExpr x⟩

end Template

end Deobfuscation
