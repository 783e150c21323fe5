import Deobfuscation.Proofs.Template.Frameless
import Deobfuscation.Proofs.Template.NamedMethod

/-!
# Messages about missing objects

The exception that is raised where an object is missing tells what was attempted on it, with the
type, the class and the name of a member in quotation marks:

    java.lang.NullPointerException: Attempt to … 'type class.member' on a null object reference

There is one colon in such a line, and every alternative of the standard template for a message
knows it by what stands around its colon.  So of these alternatives no other one reads the line.
The first alternative of all does, if a frame begins somewhere: the only place for it is behind a
type that ends in the word `at`.

* `nullPointerLine`, `missingObjectLine` — the line of the exception, and of such a message;
* `first_standard_nullPointer`, `first_nullPointer_none` — **proved**: the alternatives for frames
  and failed casts do not read the line, nor does one that requires another message;
* `frameless_missingObjectLine` — **proved**: no frame begins in the message if the type does not
  end in the word;
* `first_standard_missingObject`, `first_missingObject_none` — **proved**: so the alternatives for
  frames and failed casts do not read it, nor does one that requires another attempt;
* `first_atBeginning`, `first_typeBefore` — **proved**: how the beginning and the type are read.
-/

namespace Deobfuscation.Template

open Regex Expr
open Text (sides_of_infix_append_cons)

/-! ### Alternatives for missing objects -/

/-- The class of the exception. -/
def nullPointer : List Char := "java.lang.NullPointerException".toList

/-- The line of the exception with a message. -/
def nullPointerLine (message : List Char) : List Char := nullPointer ++ ':' :: message

/-- The alternatives of the standard template behind those for failed casts. -/
def nullPointerExpr : Expr :=
  alt (fieldAccessExpr "java.lang.NullPointerException: Attempt to read from field '" 7)
    (alt (fieldAccessExpr "java.lang.NullPointerException: Attempt to write to field '" 10)
      (alt methodInvokedExpr (alt returnValueExpr (alt missingFieldExpr exceptionExpr))))

theorem messageExpr_eq :
    messageExpr = alt castFromExpr (alt castToExpr nullPointerExpr) := rfl

section Alternatives

variable {message : List Char}

/-- **An expression leads nowhere if it requires something else around the only colon** of the
line. -/
theorem first_nullPointer_none {x : Expr} {w v : List Char} (hmessage : ':' ∉ message)
    (hx : x.requires (w ++ ':' :: v) = true)
    (hnot : ¬w <:+ nullPointer ∨ ¬v <+: message) :
    x.first some (.between [] (nullPointerLine message) []) = none := by
  refine first_eq_none_of_requires hx fun hin => ?_
  obtain ⟨hfront, hback⟩ := sides_of_infix_append_cons hin (by decide) hmessage
  rcases hnot with hnot | hnot
  · exact hnot hfront
  · exact hnot hback

/-- What a text does not begin with does not begin it either when the text goes on. -/
theorem not_prefix_append {v front : List Char} (hlength : v.length ≤ front.length)
    (hnot : ¬v <+: front) (back : List Char) : ¬v <+: front ++ back :=
  fun h => hnot (List.prefix_of_prefix_length_le h (List.prefix_append front back) hlength)

/-- **The alternatives for frames and failed casts do not read the line.** -/
theorem first_standard_nullPointer (hmessage : ':' ∉ message)
    (hframes : Frameless (nullPointerLine message)) :
    standardExpr.first some (.between [] (nullPointerLine message) []) =
      nullPointerExpr.first some (.between [] (nullPointerLine message) []) := by
  have hcast : ∀ {x : Expr}, x.requires ("ClassCastException".toList ++ ':' :: []) = true →
      x.first some (.between [] (nullPointerLine message) []) = none :=
    fun hx => first_nullPointer_none hmessage hx (Or.inl (by decide))
  have hcastFrom := hcast (x := castFromExpr) (by decide +kernel)
  have hcastTo := hcast (x := castToExpr) (by decide +kernel)
  rw [standardExpr, first_seq, first_assert rfl, messageExpr_eq]
  simp only [first_alt, first_stackTrace_none hframes, hcastFrom, hcastTo, Option.none_or]

end Alternatives

/-! ### The message -/

/-- The beginning of the message. -/
def attemptTo (attempt : String) : List Char :=
  nullPointer ++ ':' :: (" Attempt to ".toList ++ attempt.toList ++ " '".toList)

/-- The end of the message. -/
def onNullReference : String := "' on a null object reference"

theorem onNullReference_eq :
    onNullReference.toList = '\'' :: " on a null object reference".toList := by
  decide +kernel

/-- What was attempted, in words that neither part a line nor begin a frame. -/
structure IsAttempt (attempt : String) : Prop where
  colon : ':' ∉ attempt.toList
  newline : '\n' ∉ attempt.toList
  no_at : ¬"at".toList <:+: attempt.toList

/-- The message about a type and a member of a class. -/
def missingObjectLine (attempt : String) (type member : List Char) : List Char :=
  attemptTo attempt ++ (type ++ ' ' :: (member ++ onNullReference.toList))

section Message

variable {attempt : String} {type member s : List Char}

/-- The message by its colon. -/
theorem missingObjectLine_eq :
    missingObjectLine attempt type member =
      nullPointerLine (" Attempt to ".toList ++ (attempt.toList ++
        (" '".toList ++ (type ++ ' ' :: (member ++ onNullReference.toList))))) := by
  simp only [missingObjectLine, attemptTo, nullPointerLine, List.append_assoc, List.cons_append]

/-- The beginning of the message is in one line. -/
theorem IsAttempt.newline_not_mem (hattempt : IsAttempt attempt) : '\n' ∉ attemptTo attempt := by
  simp only [attemptTo, List.mem_append, List.mem_cons, not_or]
  exact ⟨by decide, by decide, ⟨by decide, hattempt.newline⟩, by decide⟩

/-- It ends in a quotation mark. -/
theorem getLast?_attemptTo : (attemptTo attempt).getLast? = some '\'' := by
  have hspace : " '".toList = [' ', '\''] := by decide
  rw [attemptTo, hspace, List.getLast?_append, List.getLast?_cons, List.getLast?_append]
  rfl

/-- No frame begins in the beginning of the message. -/
theorem IsAttempt.frameless (hattempt : IsAttempt attempt) (hs : Frameless s) :
    Frameless (attemptTo attempt ++ s) := by
  have hexception : Frameless nullPointer := frameless_of_not_substring (by decide)
  have hto : Frameless " Attempt to".toList := frameless_of_not_substring (by decide)
  have hwords : Frameless attempt.toList := frameless_of_not_substring hattempt.no_at
  have hquote : Frameless ([] ++ '\'' :: s) :=
    (frameless_of_not_substring (by decide)).append_mark hs (by decide) (by decide)
  have hend : ¬EndsInWord "at".toList attempt.toList :=
    not_endsInWord_of_not_suffix fun h => hattempt.no_at h.isInfix
  have hline : attemptTo attempt ++ s = nullPointer ++ ':' :: (" Attempt to".toList ++
      ' ' :: (attempt.toList ++ ' ' :: ([] ++ '\'' :: s))) := by
    have hopening : " Attempt to ".toList = " Attempt to".toList ++ [' '] := by decide
    have hspace : " '".toList = [' ', '\''] := by decide
    rw [attemptTo, hopening, hspace]
    simp only [List.append_assoc, List.cons_append, List.nil_append]
  rw [hline]
  have hname := hwords.append_cons (d := ' ') hquote (by decide) fun _ => hend
  have hmessage := hto.append_cons (d := ' ') hname (by decide)
    fun _ => not_endsInWord_of_not_suffix (by decide)
  exact hexception.append_mark hmessage (by decide) (by decide)

/-- **No frame begins in the message**, if the type does not end in the word. -/
theorem frameless_missingObjectLine (hattempt : IsAttempt attempt) (htype : IsPath type)
    (hmember : Frameless member) (hend : ¬EndsInWord "at".toList type) :
    Frameless (missingObjectLine attempt type member) := by
  have hbehind : Frameless " on a null object reference".toList :=
    frameless_of_not_substring (by decide)
  rw [missingObjectLine, onNullReference_eq]
  have hname := hmember.append_mark (d := '\'') hbehind (by decide) (by decide)
  exact hattempt.frameless (htype.frameless.append_cons hname (by decide) fun _ => hend)

/-! ### The alternatives for the message -/

/-- There is no other colon in the message. -/
theorem not_mem_missingObject (hattempt : IsAttempt attempt) (htype : ':' ∉ type)
    (hmember : ':' ∉ member) :
    ':' ∉ " Attempt to ".toList ++ (attempt.toList ++
      (" '".toList ++ (type ++ ' ' :: (member ++ onNullReference.toList)))) := by
  simp only [List.mem_append, List.mem_cons, not_or]
  exact ⟨by decide, hattempt.colon, by decide, htype, by decide, hmember, by decide +kernel⟩

/-- **The alternatives for frames and failed casts do not read the message**, if its type does not
end in the word. -/
theorem first_standard_missingObject (hattempt : IsAttempt attempt) (htype : IsPath type)
    (hmember : Frameless member) (hcolon : ':' ∉ member) (hend : ¬EndsInWord "at".toList type) :
    standardExpr.first some (.between [] (missingObjectLine attempt type member) []) =
      nullPointerExpr.first some (.between [] (missingObjectLine attempt type member) []) := by
  have hframes := frameless_missingObjectLine hattempt htype hmember hend
  rw [missingObjectLine_eq] at hframes ⊢
  exact first_standard_nullPointer
    (not_mem_missingObject hattempt (htype.not_mem (by decide) (by decide)) hcolon) hframes

/-- **An expression that requires another attempt leads nowhere.** -/
theorem first_missingObject_none (hattempt : IsAttempt attempt) (htype : ':' ∉ type)
    (hmember : ':' ∉ member) {x : Expr} {v : List Char} (hx : x.requires (':' :: v) = true)
    (hlength : v.length ≤ (" Attempt to ".toList ++ attempt.toList).length)
    (hnot : ¬v <+: " Attempt to ".toList ++ attempt.toList) :
    x.first some (.between [] (missingObjectLine attempt type member) []) = none := by
  rw [missingObjectLine_eq]
  refine first_nullPointer_none (w := []) (not_mem_missingObject hattempt htype hmember) hx
    (Or.inr fun h => ?_)
  rw [← List.append_assoc] at h
  exact not_prefix_append hlength hnot _ h

end Message

/-! ### How the message is read -/

section Reading

variable {next : Attempt → Option Attempt} {read rest : List Char} {captures : List Capture}
  {r : Attempt}

/-- An alternative that begins with a text reads it at the beginning of the line. -/
theorem first_atBeginning {line opening : List Char} {x : Expr} (hline : line = opening ++ rest)
    (hword : opening.head?.any Text.isWord = true)
    (h : x.first some (.between opening rest []) = some r) :
    (afterWords (seq (literal opening) x)).first some (.between [] line []) = some r := by
  subst hline
  obtain ⟨c, tail, rfl⟩ : ∃ c tail, opening = c :: tail := by
    cases opening with
    | nil => exact absurd hword (by decide)
    | cons c tail => exact ⟨c, tail, rfl⟩
  have hboundary : (Assertion.word false .boundary).holds none (some c) = true := by
    have hc : Text.isWord c = true := hword
    simp [Assertion.holds, WordPlace.holds, hc]
  have hnothing : ∀ c ∈ [], lineSet.contains c = true := List.forall_mem_nil _
  rw [afterWords, first_seq]
  refine first_skip hnothing rfl (by simp) ?_
  rw [Attempt.eat_nil, first_seq, wordBoundary]
  rw [first_assert hboundary, first_seq,
    first_literal (Attempt.rest_between _ _ _), Attempt.eat_between]
  exact h

/-- **A type in front of a space is captured as a whole**, if what follows the space is read. -/
theorem first_typeBefore {type : List Char} {group : Nat} {after : Expr} (htype : IsPath type)
    (hnext : after.first next (.between (read ++ type ++ [' ']) rest
      (⟨group, read.length, (read ++ type).length⟩ :: captures)) = some r) :
    (seq (.group group typeExpr) (seq (char ' ') after)).first next
      (.between read (type ++ ' ' :: rest) captures) = some r := by
  rw [first_seq, first_group]
  refine first_before rfl (by decide) (mem_language_type htype) ?_ ?_
  · rw [Attempt.position_between]
    show (seq _ _).first _ ((Attempt.between (read ++ type) (' ' :: rest) captures).capture group
      read.length) = _
    rw [Attempt.capture_between, first_seq, first_char]
    exact hnext
  · intro read' rest' hhead
    rw [first_seq]
    exact first_char_of_head_ne hhead

end Reading

end Deobfuscation.Template
