import Deobfuscation.Text.Blank

/-!
# Tokens

A line of a log is a sequence of **tokens**: each delimiter is a token of its own, and so is
each maximal run of other characters, a word.  Class names outside of stack frames are looked
for among the words.

* `isDelimiter` — blanks, brackets and the punctuation that stands beside class names;
* `tokens` — the tokens of a text, in order;
* `flatMap_text_tokens` — **proved**: the tokens of a text, written one after the other, are
  the text.
-/

namespace Deobfuscation.Text

/-- The characters other than blanks that part two words. -/
def delimiters : List Char :=
  ['(', ')', '<', '>', '[', ']', '\x7b', '\x7d', ';', ':', ',', '\x27', '\x22', '/', '\x5c']

/-- A character parts two words. -/
def isDelimiter (c : Char) : Bool := isBlank c || delimiters.contains c

/-- A delimiter or a maximal run of other characters. -/
inductive Token where
  /-- A single delimiter. -/
  | delimiter (c : Char)
  /-- A run of characters without a delimiter. -/
  | word (text : List Char)
  deriving DecidableEq, Repr

/-- A token as it stands in the text. -/
def Token.text : Token → List Char
  | .delimiter c => [c]
  | .word text => text

/-- The tokens of a text, in order. -/
def tokens : List Char → List Token
  | [] => []
  | c :: s =>
    if isDelimiter c then .delimiter c :: tokens s
    else
      match tokens s with
      | .word text :: rest => .word (c :: text) :: rest
      | rest => .word [c] :: rest

/-- **The tokens of a text, written one after the other, are the text.** -/
theorem flatMap_text_tokens (s : List Char) : (tokens s).flatMap Token.text = s := by
  induction s with
  | nil => rfl
  | cons c s ih =>
    rw [tokens]
    split
    · simp [Token.text, ih]
    · split
      · rename_i text rest hs
        rw [hs] at ih
        simpa [Token.text] using ih
      · simp [Token.text, ih]

end Deobfuscation.Text
